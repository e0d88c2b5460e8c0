import Multipart.Proofs.Cursor.Bisimulation
import Multipart.Proofs.Scan.Slide

/-! # Scans and bisimulations

A scan does the same on two cursors that are related, whatever keeps them so. -/

namespace Multipart

open Result (Related)

namespace Scan

open Cursor (Bisimulation InStep)

variable {R : Cursor → Cursor → Prop} {a b : Cursor}

theorem related_next (hR : InStep R) (hab : R a b) : Related R (next a) (next b) := by
  have hnext := hR.next hab
  simp only [next]
  generalize a.next = first at hnext
  generalize b.next = second at hnext
  cases hnext with
  | ok hafter => exact .ok hafter
  | error hafter => exact .error hafter

theorem related_skipPadding (hR : InStep R) (hab : R a b) (value : Option UInt8) :
    Related R (skipPadding value a) (skipPadding value b) := by
  induction value, a using skipPadding.induct generalizing b with
  | case1 a =>
      rw [skipPadding_none, skipPadding_none]
      exact .ok hab
  | case2 a byte hblank error after hnext =>
      obtain ⟨other, hother, hafter⟩ := (hnext ▸ hR.next hab).of_error
      rw [skipPadding_of_blank hblank, skipPadding_of_blank hblank,
        next_eq_error_of_cursor hnext, next_eq_error_of_cursor hother]
      exact .error hafter
  | case3 a byte hblank after hnext =>
      obtain ⟨other, hother, hafter⟩ := (hnext ▸ hR.next hab).of_ok
      rw [skipPadding_of_blank hblank, skipPadding_of_blank hblank,
        next_eq_ok_of_cursor hnext, next_eq_ok_of_cursor hother]
      simp only [skipPadding_none]
      exact .ok hafter
  | case4 a byte hblank value after hnext ih =>
      obtain ⟨other, hother, hafter⟩ := (hnext ▸ hR.next hab).of_ok
      rw [skipPadding_of_blank hblank, skipPadding_of_blank hblank,
        next_eq_ok_of_cursor hnext, next_eq_ok_of_cursor hother]
      exact ih hafter
  | case5 a byte hblank =>
      rw [skipPadding_of_not_blank hblank, skipPadding_of_not_blank hblank]
      exact .ok hab

theorem related_endLineEarly (hR : InStep R) (hab : R a b) (kind : DelimiterKind) :
    Related R (endLineEarly kind a) (endLineEarly kind b) := by
  cases kind with
  | opening =>
      rw [endLineEarly, endLineEarly, hR.position_eq hab]
      exact .error hab
  | closing => exact .ok hab

theorem related_endLine (hR : InStep R) (hab : R a b) (kind : DelimiterKind)
    (value : Option UInt8) : Related R (endLine kind value a) (endLine kind value b) := by
  have hpadding := related_skipPadding hR hab value
  simp only [endLine]
  generalize skipPadding value a = first at hpadding
  generalize skipPadding value b = second at hpadding
  cases hpadding with
  | error hafter => exact .error hafter
  | @ok found x y hafter =>
      simp only
      split
      · exact .ok hafter
      · split
        · have hnext := related_next hR hafter
          generalize next x = third at hnext
          generalize next y = fourth at hnext
          cases hnext with
          | error hlast => exact .error hlast
          | ok hlast =>
              simp only
              split
              · exact .ok hlast
              · exact related_endLineEarly hR hlast kind
        · exact related_endLineEarly hR hafter kind

theorem related_delimiterLine (hR : InStep R) (hab : R a b) :
    Related R (delimiterLine a) (delimiterLine b) := by
  have hfirst := related_next hR hab
  simp only [delimiterLine]
  generalize next a = first at hfirst
  generalize next b = second at hfirst
  cases hfirst with
  | error hafter => exact .error hafter
  | @ok found x y hafter =>
      simp only
      split
      · have hsecond := related_next hR hafter
        generalize next x = third at hsecond
        generalize next y = fourth at hsecond
        cases hsecond with
        | error hlast => exact .error hlast
        | @ok found x y hlast =>
            simp only
            split
            · have hthird := related_next hR hlast
              generalize next x = fifth at hthird
              generalize next y = sixth at hthird
              cases hthird with
              | error hend => exact .error hend
              | ok hend => exact related_endLine hR hend _ _
            · rw [hR.position_eq hlast]
              exact .error hlast
      · exact related_endLine hR hafter _ _

/-- Two windows stop for the same reason, with the same body, and leave related cursors. -/
structure Halt.Alike (R : Cursor → Cursor → Prop) (first second : Halt) : Prop where
  stop_eq : first.stop = second.stop
  body_eq : first.body = second.body
  cursor : R first.cursor second.cursor

theorem alike_haltAtEnd (hab : R a b) (body : Option Body) (pending window : List UInt8) :
    Halt.Alike R (haltAtEnd a body pending window) (haltAtEnd b body pending window) := by
  simp only [haltAtEnd]
  cases emit body pending with
  | error error => exact ⟨rfl, rfl, hab⟩
  | ok body =>
      simp only
      split
      · exact ⟨rfl, rfl, hab⟩
      · cases emit body window with
        | error error => exact ⟨rfl, rfl, hab⟩
        | ok body => exact ⟨rfl, rfl, hab⟩

theorem alike_haltAtMatch (hab : R a b) (body : Option Body) (pending : List UInt8)
    (offset : Nat) :
    Halt.Alike R (haltAtMatch a body pending offset) (haltAtMatch b body pending offset) := by
  cases body with
  | none => exact ⟨rfl, rfl, hab⟩
  | some body =>
      simp only [haltAtMatch]
      cases body.append pending with
      | error error => exact ⟨rfl, rfl, hab⟩
      | ok body =>
          simp only
          cases body.terminate offset <;> exact ⟨rfl, rfl, hab⟩

theorem alike_look (hR : Bisimulation R) (hab : R a b) (delimiter : Delimiter)
    (kept : List UInt8) :
    Cursor.Gathered.Alike R (look delimiter a kept) (look delimiter b kept) :=
  hR.gather (hR.markBack hab kept.length) (fun _ => false) (delimiter.length - kept.length)

theorem window_eq_of_alike {a b : Cursor} {delimiter : Delimiter} {kept : List UInt8}
    (h : Cursor.Gathered.Alike R (look delimiter a kept) (look delimiter b kept)) :
    window delimiter b kept = window delimiter a kept := by
  rw [window, window, h.bytes_eq]

theorem alike_slide (hR : Bisimulation R) (hab : R a b) (delimiter : Delimiter)
    (body : Option Body) (pending kept : List UInt8) :
    Halt.Alike R (slide delimiter a body pending kept) (slide delimiter b body pending kept) := by
  induction a, body, pending, kept using slide_induction delimiter generalizing b with
  | failure a body pending kept error herror =>
      have hlook := alike_look hR hab delimiter kept
      rw [slide_of_failure herror, slide_of_failure (hlook.failure_eq ▸ herror)]
      exact ⟨rfl, rfl, hlook.cursor⟩
  | short a body pending kept hnone hshort =>
      have hlook := alike_look hR hab delimiter kept
      have hwindow := window_eq_of_alike hlook
      rw [slide_of_short hnone hshort,
        slide_of_short (hlook.failure_eq ▸ hnone) (hwindow ▸ hshort), hwindow]
      exact alike_haltAtEnd hlook.cursor body pending _
  | found a body pending kept hnone hfull hmatch =>
      have hlook := alike_look hR hab delimiter kept
      have hwindow := window_eq_of_alike hlook
      rw [slide_of_match hnone hfull hmatch,
        slide_of_match (hlook.failure_eq ▸ hnone) (hwindow ▸ hfull) (hwindow ▸ hmatch),
        hR.position_eq hab]
      exact alike_haltAtMatch hlook.cursor body pending _
  | refused a body pending kept index error hnone hfull hindex hbody =>
      have hlook := alike_look hR hab delimiter kept
      have hwindow := window_eq_of_alike hlook
      rw [slide_of_refused hnone hfull hindex hbody,
        slide_of_refused (hlook.failure_eq ▸ hnone) (hwindow ▸ hfull) (hwindow ▸ hindex) hbody]
      exact ⟨rfl, rfl, hlook.cursor⟩
  | slid a body pending kept index next hnone hfull hindex hbody ih =>
      have hlook := alike_look hR hab delimiter kept
      have hwindow := window_eq_of_alike hlook
      rw [slide_of_mismatch hnone hfull hindex hbody,
        slide_of_mismatch (hlook.failure_eq ▸ hnone) (hwindow ▸ hfull) (hwindow ▸ hindex) hbody,
        hwindow]
      exact ih hlook.cursor

theorem kept_slide {P : Cursor → Prop} (hP : Cursor.Kept P) (h : P a) (delimiter : Delimiter)
    (body : Option Body) (pending kept : List UInt8) :
    P (slide delimiter a body pending kept).cursor :=
  (alike_slide hP.bisimulation ⟨rfl, h⟩ delimiter body pending kept).cursor.2

/-- A window that stops at a delimiter before the cursor is lost stops alike for a tracked
cursor. -/
theorem tracks_slide {Lost : Cursor → Prop} (hR : Cursor.Tracks Lost R) (hab : R a b)
    (delimiter : Delimiter) (body : Option Body) (pending kept : List UInt8) {offset : Nat}
    (hmatched : (slide delimiter a body pending kept).stop = .matched offset)
    (hlost : ¬Lost (slide delimiter a body pending kept).cursor) :
    Halt.Alike R (slide delimiter a body pending kept) (slide delimiter b body pending kept) := by
  have hgather : ∀ {a b : Cursor} {kept : List UInt8}, R a b →
      ¬Lost (look delimiter a kept).cursor →
      Cursor.Gathered.Alike R (look delimiter a kept) (look delimiter b kept) :=
    fun hab hlook => hR.gatherFrom (hR.markBack hab _) (fun _ => false) _ [] hlook
  induction a, body, pending, kept using slide_induction delimiter generalizing b with
  | failure a body pending kept error herror =>
      rw [slide_of_failure herror] at hmatched
      cases hmatched
  | short a body pending kept hnone hshort =>
      rw [slide_of_short hnone hshort] at hmatched
      exact absurd hmatched (stop_haltAtEnd_ne _ _ _ _ _)
  | found a body pending kept hnone hfull hmatch =>
      rw [slide_of_match hnone hfull hmatch, cursor_haltAtMatch] at hlost
      have hlook := hgather hab hlost
      have hwindow := window_eq_of_alike hlook
      rw [slide_of_match hnone hfull hmatch,
        slide_of_match (hlook.failure_eq ▸ hnone) (hwindow ▸ hfull) (hwindow ▸ hmatch),
        hR.position_eq hab]
      exact alike_haltAtMatch hlook.cursor body pending _
  | refused a body pending kept index error hnone hfull hindex hbody =>
      rw [slide_of_refused hnone hfull hindex hbody] at hmatched
      cases hmatched
  | slid a body pending kept index next hnone hfull hindex hbody ih =>
      rw [slide_of_mismatch hnone hfull hindex hbody] at hmatched hlost
      have hlook := hgather hab fun hlook => hlost (kept_slide hR.lost hlook delimiter _ _ _)
      have hwindow := window_eq_of_alike hlook
      rw [slide_of_mismatch hnone hfull hindex hbody,
        slide_of_mismatch (hlook.failure_eq ▸ hnone) (hwindow ▸ hfull) (hwindow ▸ hindex) hbody,
        hwindow]
      exact ih hlook.cursor hmatched hlost

end Scan

structure Scan.Alike (R : Cursor → Cursor → Prop) (first second : Scan) : Prop where
  outcome_eq : first.outcome = second.outcome
  body_eq : first.body = second.body
  matched_eq : first.matched = second.matched
  cursor : R first.cursor second.cursor

theorem Scan.alike_find {R : Cursor → Cursor → Prop} {a b : Cursor}
    (hR : Cursor.Bisimulation R) (hab : R a b) (delimiter : Delimiter) (body : Option Body) :
    Scan.Alike R (find delimiter a body) (find delimiter b body) := by
  have hseek : Halt.Alike R (seek delimiter a body) (seek delimiter b body) :=
    alike_slide hR hab delimiter body [] []
  simp only [find, ← hseek.stop_eq]
  cases (seek delimiter a body).stop with
  | failed error => exact ⟨rfl, hseek.body_eq, rfl, hseek.cursor⟩
  | ended place => exact ⟨rfl, hseek.body_eq, rfl, hR.clearMark hseek.cursor⟩
  | matched offset =>
      have hline := related_delimiterLine hR.inStep hseek.cursor
      simp only
      generalize delimiterLine (seek delimiter a body).cursor = first at hline
      generalize delimiterLine (seek delimiter b body).cursor = second at hline
      cases hline with
      | ok hafter => exact ⟨rfl, hseek.body_eq, rfl, hR.clearMark hafter⟩
      | error hafter => exact ⟨rfl, hseek.body_eq, rfl, hafter⟩

end Multipart
