import Multipart.Proofs.Body
import Multipart.Proofs.Scan.Bisimulation

/-! # Scans and the limit of a body

The limit of a body only cuts a scan off. A scan that succeeds with a body succeeds with the same
bytes if the body has a looser limit. -/

namespace Multipart

/-- A scan finds what another one finds, in a body whose limit may be looser. -/
structure Scan.Follows (R : Cursor → Cursor → Prop) (first second : Scan) : Prop where
  outcome_eq : second.outcome = first.outcome
  body : Option.Rel Body.Loosens first.body second.body
  cursor : R first.cursor second.cursor

namespace Scan

structure Halt.Follows (first second : Halt) : Prop where
  stop_eq : second.stop = first.stop
  body : Option.Rel Body.Loosens first.body second.body
  cursor_eq : second.cursor = first.cursor

def Stop.isOk : Stop → Bool
  | failed _ => false
  | matched _ | ended _ => true

variable {body other next : Option Body} {cursor : Cursor} {pending window kept piece : List UInt8}
  {delimiter : Delimiter}

theorem emit_loosens (hbody : Option.Rel Body.Loosens body other)
    (hfits : emit body piece = .ok next) :
    ∃ last, emit other piece = .ok last ∧ Option.Rel Body.Loosens next last := by
  cases hbody with
  | none =>
      cases hfits
      exact ⟨none, rfl, .none⟩
  | @some first second hloosens =>
      simp only [emit] at hfits ⊢
      cases happend : first.append piece with
      | error error => simp [happend] at hfits
      | ok grown =>
          rw [happend] at hfits
          cases hfits
          obtain ⟨last, hlast, hgrown⟩ := hloosens.append happend
          exact ⟨some last, by rw [hlast], .some hgrown⟩

theorem follows_haltAtEnd (hbody : Option.Rel Body.Loosens body other)
    (hok : (haltAtEnd cursor body pending window).stop.isOk) :
    Halt.Follows (haltAtEnd cursor body pending window)
      (haltAtEnd cursor other pending window) := by
  simp only [haltAtEnd] at hok ⊢
  cases hpending : emit body pending with
  | error error => simp [hpending, Stop.isOk] at hok
  | ok grown =>
      obtain ⟨last, hlast, hgrown⟩ := emit_loosens hbody hpending
      simp only [hpending, hlast] at hok ⊢
      split
      · exact ⟨rfl, hgrown, rfl⟩
      · rename_i hwindow
        rw [if_neg hwindow] at hok
        cases hemit : emit grown window with
        | error error => simp [hemit, Stop.isOk] at hok
        | ok whole =>
            obtain ⟨end', hend, hwhole⟩ := emit_loosens hgrown hemit
            simp only [hend]
            exact ⟨rfl, hwhole, rfl⟩

theorem follows_haltAtMatch {offset : Nat} (hbody : Option.Rel Body.Loosens body other)
    (hok : (haltAtMatch cursor body pending offset).stop.isOk) :
    Halt.Follows (haltAtMatch cursor body pending offset)
      (haltAtMatch cursor other pending offset) := by
  cases hbody with
  | none => exact ⟨rfl, .none, rfl⟩
  | @some first second hloosens =>
      simp only [haltAtMatch] at hok ⊢
      cases happend : first.append pending with
      | error error => simp [happend, Stop.isOk] at hok
      | ok grown =>
          obtain ⟨more, hmore, hgrown⟩ := hloosens.append happend
          simp only [happend, hmore] at hok ⊢
          cases hend : grown.terminate offset with
          | error error last => simp [hend, Stop.isOk] at hok
          | ok _ last =>
              obtain ⟨rest, hrest, hlast⟩ := hgrown.terminate hend
              simp only [hrest]
              exact ⟨rfl, .some hlast, rfl⟩

/-- A window that stops without an error stops there with every looser body. -/
theorem follows_slide (delimiter : Delimiter) (cursor : Cursor) (body : Option Body)
    (pending kept : List UInt8) (hbody : Option.Rel Body.Loosens body other)
    (hok : (slide delimiter cursor body pending kept).stop.isOk) :
    Halt.Follows (slide delimiter cursor body pending kept)
      (slide delimiter cursor other pending kept) := by
  induction cursor, body, pending, kept using slide_induction delimiter generalizing other with
  | failure cursor body pending kept error herror =>
      rw [slide_of_failure herror] at hok
      simp [Stop.isOk] at hok
  | short cursor body pending kept hnone hshort =>
      rw [slide_of_short hnone hshort] at hok ⊢
      rw [slide_of_short hnone hshort]
      exact follows_haltAtEnd hbody hok
  | found cursor body pending kept hnone hfull hmatch =>
      rw [slide_of_match hnone hfull hmatch] at hok ⊢
      rw [slide_of_match hnone hfull hmatch]
      exact follows_haltAtMatch hbody hok
  | refused cursor body pending kept index error hnone hfull hindex hrefused =>
      rw [slide_of_refused hnone hfull hindex hrefused] at hok
      simp [Stop.isOk] at hok
  | slid cursor body pending kept index next hnone hfull hindex hemit ih =>
      obtain ⟨last, hlast, hnext⟩ := emit_loosens hbody hemit
      rw [slide_of_mismatch hnone hfull hindex hemit] at hok ⊢
      rw [slide_of_mismatch hnone hfull hindex hlast]
      exact ih hnext hok

/-- A scan that succeeds finds the same with every looser body. -/
theorem follows_find {outcome : Outcome} (hbody : Option.Rel Body.Loosens body other)
    (h : (find delimiter cursor body).outcome = .ok outcome) :
    Follows (· = ·) (find delimiter cursor body) (find delimiter cursor other) := by
  have hslide : (seek delimiter cursor body).stop.isOk → Halt.Follows
      (seek delimiter cursor body) (seek delimiter cursor other) :=
    follows_slide delimiter cursor body [] [] hbody
  simp only [find] at h ⊢
  cases hstop : (seek delimiter cursor body).stop with
  | failed error => simp [hstop] at h
  | ended place =>
      have hhalt := hslide (by rw [hstop]; rfl)
      simp only [hhalt.stop_eq, hstop, hhalt.cursor_eq]
      exact ⟨rfl, hhalt.body, rfl⟩
  | matched offset =>
      have hhalt := hslide (by rw [hstop]; rfl)
      simp only [hhalt.stop_eq, hstop, hhalt.cursor_eq]
      split <;> exact ⟨rfl, hhalt.body, rfl⟩

end Scan

end Multipart
