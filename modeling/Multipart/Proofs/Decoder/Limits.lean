import Multipart.Proofs.Cursor.Pull
import Multipart.Proofs.Decoder.Following
import Multipart.Proofs.Header.Limit

/-! # Looser settings

Limits only cut a run off, and the sizes of the buffers do not show. A run under looser settings
shows what the run under the tighter ones shows, up to the first query that fails under these. -/

namespace Multipart

open Cursor (Bisimulation)
open Result (Related)

/-! ## Reading alike through different buffers -/

/-- A source hands out at least one byte at every read if there is one, or never hands out any.
Otherwise it depends on where a read begins whether the stream goes on. -/
def Source.Steady (source : Source) : Prop :=
  source.Generous ∨ ∀ offset, source.portion offset = some 0

theorem Source.steady_ofPlan (bytes : List UInt8) (plan : List Setback) (most : Option Nat) :
    (ofPlan bytes plan most).Steady := by
  by_cases hmost : most = some 0
  · exact .inr fun _ => hmost
  · exact .inl (generous_ofPlan bytes plan hmost)

namespace Cursor

/-- Two cursors stand at the same place of a source that hands out nothing. -/
structure SameDry (a b : Cursor) : Prop where
  source_eq : a.source = b.source
  position_eq : a.position = b.position
  left_ahead : a.ahead = []
  right_ahead : b.ahead = []
  portion_eq : ∀ offset, a.source.portion offset = some 0

theorem SameDry.next {a b : Cursor} (h : SameDry a b) : Related SameDry a.next b.next := by
  have hread : b.source.read b.chunk = a.source.read a.chunk := by
    simp only [Source.read, Source.allowance, ← h.source_eq, h.portion_eq, Nat.zero_min]
  have hserves := a.source.serves_read a.chunk
  simp only [Cursor.next, fill, h.left_ahead, h.right_ahead, List.isEmpty_nil, ite_true, hread]
  cases hsource : a.source.read a.chunk with
  | error error rest =>
      rw [hsource] at hserves
      cases hserves with
      | failure _ _ hportion =>
          exact .error ⟨rfl, h.position_eq, rfl, rfl, fun offset => hportion ▸ h.portion_eq offset⟩
  | ok bytes rest =>
      have hlength := Source.length_read_le_allowance hsource
      have hnone : a.source.allowance a.chunk = 0 := by simp [Source.allowance, h.portion_eq]
      have hnil : bytes = [] := List.length_eq_zero_iff.mp (by omega)
      subst hnil
      rw [hsource] at hserves
      have hportion : rest.portion = a.source.portion := by
        cases hserves with
        | pause _ _ hportion => exact hportion
        | bytes _ _ hportion _ => exact hportion
      exact .ok ⟨rfl, h.position_eq, rfl, rfl, fun offset => hportion ▸ h.portion_eq offset⟩

theorem bisimulation_sameDry : Bisimulation SameDry where
  position_eq := SameDry.position_eq
  next := SameDry.next
  markBack := fun h _ =>
    ⟨h.source_eq, h.position_eq, h.left_ahead, h.right_ahead, h.portion_eq⟩
  clearMark := fun h => ⟨h.source_eq, h.position_eq, h.left_ahead, h.right_ahead, h.portion_eq⟩

theorem bisimulation_eq : Bisimulation (· = ·) where
  position_eq := congrArg position
  next := by
    rintro a _ rfl
    exact Result.related_iff.mpr ⟨rfl, rfl⟩
  markBack := by
    rintro a _ rfl distance
    rfl
  clearMark := by
    rintro a _ rfl
    rfl

/-- Whatever the buffers, two cursors at the start of a steady source read alike. -/
theorem exists_bisimulation {source : Source} {chunk most : Nat}
    (h : source.Steady ∨ chunk = most) :
    ∃ R, Bisimulation R ∧
      ∀ least, R (ofSource source (max chunk least)) (ofSource source (max most least)) := by
  rcases h with (hgenerous | hdry) | rfl
  · exact ⟨SameScript, bisimulation_sameScript, fun _ => ⟨rfl, rfl, hgenerous, hgenerous⟩⟩
  · exact ⟨SameDry, bisimulation_sameDry, fun _ => ⟨rfl, rfl, rfl, rfl, hdry⟩⟩
  · exact ⟨_, bisimulation_eq, fun _ => rfl⟩

/-- What reads alike follows under looser settings. -/
theorem Bisimulation.following {R : Cursor → Cursor → Prop} (hR : Bisimulation R)
    (delimiter : Delimiter) {first second : Settings} (h : first.Loosens second) :
    Following delimiter first second (fun _ _ => True) R where
  loosens := h
  position_eq := hR.position_eq
  good_of_leads := fun _ _ _ => trivial
  find := by
    intro a b body other outcome hab hbody hfind _
    have hlimit := Scan.follows_find hbody hfind
    have halike := Scan.alike_find hR hab delimiter other
    refine ⟨halike.outcome_eq.symm.trans hlimit.outcome_eq, halike.body_eq ▸ hlimit.body, ?_⟩
    rw [hlimit.cursor]
    exact halike.cursor
  readBlock := by
    intro a b headers after body outcome hab hblock _ _
    have hmost := Header.readBlock_mono h.maxHeaderSize_le hblock
    exact (hmost ▸ Header.related_readBlock hR hab second.maxHeaderSize).of_ok

end Cursor

namespace Decoder

variable {delimiter : Delimiter} {first second : Settings} {R : Cursor → Cursor → Prop}
  {a b : Decoder}

/-- Up to the first query that fails a run shows the same as the one that follows it. -/
theorem Follows.transcript_prefix
    (hF : Cursor.Following delimiter first second (fun _ _ => True) R)
    (h : Follows delimiter first second R a b) (queries : List Query) :
    (a.transcript queries).takeWhile (fun shown => shown.1.isOk) <+: b.transcript queries := by
  induction queries generalizing a b with
  | nil => exact List.nil_prefix
  | cons query queries ih =>
      simp only [transcript]
      cases hask : query.ask a with
      | error error failed =>
          rw [Result.answer_error,
            List.takeWhile_cons_of_neg (by simp [Except.isOk, Except.toBool])]
          exact List.nil_prefix
      | ok reply after =>
          obtain ⟨last, hlast, hfollows⟩ := h.ask hF hask trivial
          rw [hlast, Result.answer_ok, Result.state_ok, Result.answer_ok, Result.state_ok,
            hfollows.view_eq hF, List.takeWhile_cons_of_pos rfl]
          exact List.cons_prefix_cons.mpr ⟨rfl, ih hfollows⟩

end Decoder

end Multipart
