import Multipart.Scan

/-! # Scanning step by step

What one slide of the window and one byte of padding do, and induction along them. -/

namespace Multipart.Scan

/-! ## Padding -/

theorem skipPadding_none (cursor : Cursor) : skipPadding none cursor = .ok none cursor := by
  rw [skipPadding]

theorem skipPadding_of_blank {byte : UInt8} (h : Octet.isBlank byte) (cursor : Cursor) :
    skipPadding (some byte) cursor =
      match next cursor with
      | .error error cursor => .error error cursor
      | .ok value cursor => skipPadding value cursor := by
  rw [skipPadding, if_pos h, next]
  split <;> simp_all [skipPadding_none]

theorem skipPadding_of_not_blank {byte : UInt8} (h : ¬Octet.isBlank byte) (cursor : Cursor) :
    skipPadding (some byte) cursor = .ok (some byte) cursor := by
  rw [skipPadding, if_neg h]

theorem next_eq_ok_of_cursor {cursor after : Cursor} {value : Option UInt8}
    (h : cursor.next = .ok value after) : next cursor = .ok value after := by
  rw [next, h]

theorem next_eq_error_of_cursor {cursor after : Cursor} {error : StreamError}
    (h : cursor.next = .error error after) : next cursor = .error (.stream error) after := by
  rw [next, h]

/-! ## The window -/

/-- What is read to complete a window of which some bytes are kept from the last one. -/
def look (delimiter : Delimiter) (cursor : Cursor) (kept : List UInt8) : Cursor.Gathered :=
  (cursor.markBack kept.length).take (delimiter.length - kept.length)

def window (delimiter : Delimiter) (cursor : Cursor) (kept : List UInt8) : List UInt8 :=
  kept ++ (look delimiter cursor kept).bytes

variable {delimiter : Delimiter} {cursor : Cursor} {body next : Option Body}
  {pending kept : List UInt8} {index : Nat}

theorem slide_of_failure {error : StreamError}
    (h : (look delimiter cursor kept).failure = some error) :
    slide delimiter cursor body pending kept =
      ⟨.failed (.stream error), (look delimiter cursor kept).cursor, body⟩ := by
  rw [slide]
  split <;> simp_all [look]

theorem slide_of_short (h : (look delimiter cursor kept).failure = none)
    (hshort : (window delimiter cursor kept).length < delimiter.length) :
    slide delimiter cursor body pending kept =
      haltAtEnd (look delimiter cursor kept).cursor body pending
        (window delimiter cursor kept) := by
  rw [slide]
  split
  · simp_all [look]
  · rw [if_pos (by simpa [window, look] using hshort)]
    rfl

theorem slide_of_match (h : (look delimiter cursor kept).failure = none)
    (hfull : ¬(window delimiter cursor kept).length < delimiter.length)
    (hmatch : delimiter.mismatch (window delimiter cursor kept) = none) :
    slide delimiter cursor body pending kept =
      haltAtMatch (look delimiter cursor kept).cursor body pending
        (cursor.position - kept.length) := by
  rw [slide]
  split
  · simp_all [look]
  · rw [if_neg (by simpa [window, look] using hfull)]
    split
    · rfl
    · simp_all [window, look]

theorem slide_of_refused {error : Error} (h : (look delimiter cursor kept).failure = none)
    (hfull : ¬(window delimiter cursor kept).length < delimiter.length)
    (hindex : delimiter.mismatch (window delimiter cursor kept) = some index)
    (hbody : emit body pending = .error error) :
    slide delimiter cursor body pending kept =
      ⟨.failed error, (look delimiter cursor kept).cursor, body⟩ := by
  rw [slide]
  split
  · simp_all [look]
  · rw [if_neg (by simpa [window, look] using hfull)]
    split
    · simp_all [window, look]
    · simp_all [look]

theorem slide_of_mismatch (h : (look delimiter cursor kept).failure = none)
    (hfull : ¬(window delimiter cursor kept).length < delimiter.length)
    (hindex : delimiter.mismatch (window delimiter cursor kept) = some index)
    (hbody : emit body pending = .ok next) :
    slide delimiter cursor body pending kept =
      slide delimiter (look delimiter cursor kept).cursor next
        ((window delimiter cursor kept).take
          (delimiter.shift index ((window delimiter cursor kept).getD index 0)))
        ((window delimiter cursor kept).drop
          (delimiter.shift index ((window delimiter cursor kept).getD index 0))) := by
  rw [slide]
  split
  · simp_all [look]
  · rw [if_neg (by simpa [window, look] using hfull)]
    split
    · simp_all [window, look]
    · simp_all [window, look]

/-- A window stops where reading fails, at the end of the stream, at the delimiter or where the body
is refused, or it slides on. -/
@[elab_as_elim]
theorem slide_induction (delimiter : Delimiter)
    {motive : Cursor → Option Body → List UInt8 → List UInt8 → Prop}
    (failure : ∀ cursor body pending kept error,
      (look delimiter cursor kept).failure = some error → motive cursor body pending kept)
    (short : ∀ cursor body pending kept, (look delimiter cursor kept).failure = none →
      (window delimiter cursor kept).length < delimiter.length → motive cursor body pending kept)
    (found : ∀ cursor body pending kept, (look delimiter cursor kept).failure = none →
      ¬(window delimiter cursor kept).length < delimiter.length →
      delimiter.mismatch (window delimiter cursor kept) = none → motive cursor body pending kept)
    (refused : ∀ cursor body pending kept index error,
      (look delimiter cursor kept).failure = none →
      ¬(window delimiter cursor kept).length < delimiter.length →
      delimiter.mismatch (window delimiter cursor kept) = some index →
      emit body pending = .error error → motive cursor body pending kept)
    (slid : ∀ cursor body pending kept index next,
      (look delimiter cursor kept).failure = none →
      ¬(window delimiter cursor kept).length < delimiter.length →
      delimiter.mismatch (window delimiter cursor kept) = some index →
      emit body pending = .ok next →
      motive (look delimiter cursor kept).cursor next
        ((window delimiter cursor kept).take
          (delimiter.shift index ((window delimiter cursor kept).getD index 0)))
        ((window delimiter cursor kept).drop
          (delimiter.shift index ((window delimiter cursor kept).getD index 0))) →
      motive cursor body pending kept)
    (cursor : Cursor) (body : Option Body) (pending kept : List UInt8) :
    motive cursor body pending kept := by
  induction cursor, body, pending, kept using slide.induct delimiter with
  | case1 cursor body pending kept _ error herror =>
      exact failure cursor body pending kept error herror
  | case2 cursor body pending kept _ _ hnone hshort =>
      exact short cursor body pending kept hnone hshort
  | case3 cursor body pending kept _ _ hnone hfull hmatch =>
      exact found cursor body pending kept hnone hfull hmatch
  | case4 cursor body pending kept _ _ hnone hfull index hindex error hbody =>
      exact refused cursor body pending kept index error hnone hfull hindex hbody
  | case5 cursor body pending kept _ _ hnone hfull index hindex next hbody _ ih =>
      exact slid cursor body pending kept index next hnone hfull hindex hbody ih

end Multipart.Scan
