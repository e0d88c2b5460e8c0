import Multipart.Proofs.Cursor.Faultless
import Multipart.Proofs.Scan.Search

/-! # Scans without faults

On a stream without faults a scan stops at the first delimiter, and the line of a closing one is
read whatever follows its two hyphens. -/

namespace Multipart.Scan

variable {cursor : Cursor} {offset : Nat} {text rest : List UInt8} {value : UInt8}

/-! ## The rest of a delimiter line -/

theorem next_of_faces (h : cursor.Faces offset (value :: text)) :
    ∃ after, next cursor = .ok (some value) after ∧ after.Faces (offset + 1) text := by
  obtain ⟨after, hnext, hafter⟩ := h.next_cons
  exact ⟨after, next_eq_ok_of_cursor hnext, hafter⟩

theorem skipPadding_ok (h : cursor.Faces offset text) (value : Option UInt8) :
    ∃ last after count left,
      skipPadding value cursor = .ok last after ∧ after.Faces count left := by
  induction text generalizing cursor offset value with
  | nil =>
      cases value with
      | none => exact ⟨none, cursor, offset, [], skipPadding_none cursor, h⟩
      | some value =>
          by_cases hblank : Octet.isBlank value
          · obtain ⟨after, hnext, hafter⟩ := h.next_nil
            refine ⟨none, after, offset, [], ?_, hafter⟩
            rw [skipPadding_of_blank hblank, next_eq_ok_of_cursor hnext]
            exact skipPadding_none after
          · exact ⟨some value, cursor, offset, [], skipPadding_of_not_blank hblank cursor, h⟩
  | cons byte text ih =>
      cases value with
      | none => exact ⟨none, cursor, offset, byte :: text, skipPadding_none cursor, h⟩
      | some value =>
          by_cases hblank : Octet.isBlank value
          · obtain ⟨between, hnext, hbetween⟩ := next_of_faces h
            rw [skipPadding_of_blank hblank, hnext]
            exact ih hbetween (some byte)
          · exact ⟨some value, cursor, offset, byte :: text,
              skipPadding_of_not_blank hblank cursor, h⟩

theorem next_ok (h : cursor.Faces offset text) :
    ∃ value after count left, next cursor = .ok value after ∧ after.Faces count left := by
  cases text with
  | nil =>
      obtain ⟨after, hnext, hafter⟩ := h.next_nil
      exact ⟨none, after, offset, [], next_eq_ok_of_cursor hnext, hafter⟩
  | cons value text =>
      obtain ⟨after, hnext, hafter⟩ := next_of_faces h
      exact ⟨some value, after, offset + 1, text, hnext, hafter⟩

/-- A closing line may end in any way. -/
theorem endLine_closing (h : cursor.Faces offset text) (value : Option UInt8) :
    ∃ after, endLine .closing value cursor = .ok .closing after := by
  obtain ⟨last, between, count, left, hskip, hbetween⟩ := skipPadding_ok h value
  obtain ⟨found, after, _, _, hnext, -⟩ := next_ok hbetween
  simp only [endLine, hskip, hnext, endLineEarly]
  by_cases hlf : last = some Octet.lf
  · exact ⟨between, by rw [if_pos hlf]⟩
  · by_cases hcr : last = some Octet.cr
    · exact ⟨after, by rw [if_neg hlf, if_pos hcr, ite_self]⟩
    · exact ⟨between, by rw [if_neg hlf, if_neg hcr]⟩

/-- The line of a delimiter that closes the stream starts with two hyphens. -/
theorem delimiterLine_closing (h : cursor.Faces offset (Octet.dash :: Octet.dash :: text)) :
    ∃ after, delimiterLine cursor = .ok .closing after := by
  obtain ⟨first, hfirst, hfaces⟩ := next_of_faces h
  obtain ⟨second, hsecond, hfaces⟩ := next_of_faces hfaces
  obtain ⟨value, third, _, _, hthird, hfaces⟩ := next_ok hfaces
  obtain ⟨after, hend⟩ := endLine_closing hfaces value
  exact ⟨after, by simp only [delimiterLine, hfirst, hsecond, hthird, ite_true, hend]⟩

/-! ## The first delimiter -/

variable {delimiter : Delimiter} {front : List UInt8} {body last : Option Body}

theorem not_refuses_of_fits {length : Nat} {piece : List UInt8} {error : Error}
    (hfits : ∀ kept, body = some kept → kept.size + length ≤ addCapped kept.limit 2)
    (hpiece : piece.length ≤ length) : ¬Refuses (grow body piece) error := by
  rintro ⟨grown, hgrown, -, hoverflows⟩
  cases body with
  | none => cases hgrown
  | some kept =>
      cases hgrown
      have hle := hfits kept rfl
      rw [Body.Overflows, Body.limit_extend, Body.size_extend] at hoverflows
      omega

/-- The window stops at the first delimiter, if the body before it fits. -/
theorem seek_of_first (h : cursor.Faces offset (front ++ (delimiter.bytes ++ rest)))
    (hfirst : ∀ count < front.length,
      ¬delimiter.OccursAt (front ++ (delimiter.bytes ++ rest)) count)
    (hfits : ∀ kept, body = some kept → kept.size + front.length ≤ addCapped kept.limit 2) :
    ∃ after, after.Faces (offset + (front.length + delimiter.length)) rest ∧
      seek delimiter cursor body =
        match terminate (grow body front) (offset + front.length) with
        | .ok () last => ⟨.matched (offset + front.length), after, last⟩
        | .error error last => ⟨.failed error, after, last⟩ := by
  have hslides := slides_seek delimiter cursor body
  have hposition := h.position_eq
  have hsame : ∀ {before read : List UInt8} {after : Cursor}, cursor.Reads read after →
      read = before ++ delimiter.bytes → delimiter.FreeBefore before.length read →
      before = front ∧ after.Faces (offset + (front.length + delimiter.length)) rest := by
    intro before read after hreads hsplit hfree
    obtain ⟨left, htext, hafter⟩ := h.reads hreads
    have hle := Delimiter.le_of_freeBefore htext hfree
    rw [hsplit, List.append_assoc] at htext
    obtain ⟨rfl, rfl⟩ := Delimiter.eq_front_of_first htext hfirst hle
    rw [hsplit, List.length_append, Delimiter.length_bytes] at hafter
    exact ⟨rfl, hafter⟩
  have hend : ∀ {read : List UInt8} {before after : Cursor}, cursor.Reads read before →
      before.next = .ok none after → delimiter.OccursAt read front.length := by
    intro read before after hreads hnone
    obtain ⟨left, htext, hbefore⟩ := h.reads hreads
    have hat := delimiter.occursAt_front front rest
    rwa [htext, hbefore.eq_nil_of_next_none hnone, List.append_nil] at hat
  generalize seek delimiter cursor body = halt at hslides
  cases hslides with
  | matched hreads hsplit hfree hdone =>
      obtain ⟨rfl, hafter⟩ := hsame hreads hsplit hfree
      simp only [List.nil_append, List.length_nil, Nat.sub_zero, hposition] at hdone ⊢
      exact ⟨_, hafter, by rw [hdone]⟩
  | refused hreads hsplit hfree hdone =>
      obtain ⟨rfl, hafter⟩ := hsame hreads hsplit hfree
      simp only [List.nil_append, List.length_nil, Nat.sub_zero, hposition] at hdone
      exact ⟨_, hafter, by rw [hdone]⟩
  | ended hreads hnone hfree => exact absurd (hend hreads hnone) (hfree _)
  | overflow hreads hprefix hfree hrefuses =>
      obtain ⟨left, htext, -⟩ := h.reads hreads
      exact absurd hrefuses (not_refuses_of_fits hfits (Delimiter.le_of_freeBefore htext hfree))
  | overflowAtEnd hreads hnone hfree _ => exact absurd (hend hreads hnone) (hfree _)
  | failure hreads hfailed =>
      obtain ⟨_, _, hbefore⟩ := h.reads hreads
      exact absurd hfailed (hbefore.next_ne_error _)

theorem seek_none_of_firstIn {index : Nat} (h : cursor.Faces offset text)
    (hindex : delimiter.firstIn text = some index) :
    ∃ after, after.Faces (offset + (index + delimiter.length))
        (text.drop (index + delimiter.length)) ∧
      seek delimiter cursor none = ⟨.matched (offset + index), after, none⟩ := by
  obtain ⟨front, rest, htext, rfl, -, hdrop, hfirst⟩ := Delimiter.split_of_firstIn hindex
  rw [hdrop]
  rw [htext] at h hfirst
  exact seek_of_first h hfirst nofun

/-- The window stops at the end of a text without the delimiter, if all of it fits. -/
theorem seek_of_absent (h : cursor.Faces offset text)
    (hnone : ∀ count, ¬delimiter.OccursAt text count)
    (hfits : ∀ kept, body = some kept → kept.size + text.length ≤ addCapped kept.limit 2) :
    ∃ place after, after.Faces (offset + text.length) [] ∧
      seek delimiter cursor body = ⟨.ended place, after, grow body text⟩ := by
  have hslides := slides_seek delimiter cursor body
  have hmet : ∀ {before read : List UInt8} {after : Cursor}, cursor.Reads read after →
      read ≠ before ++ delimiter.bytes := by
    rintro before _ after hreads rfl
    obtain ⟨left, htext, -⟩ := h.reads hreads
    have hat := delimiter.occursAt_front before left
    rw [← List.append_assoc, ← htext] at hat
    exact hnone _ hat
  have hroom : ∀ {read front : List UInt8} {after : Cursor} {error : Error},
      cursor.Reads read after → front <+: read → ¬Refuses (grow body front) error := by
    intro read front after error hreads hfront
    obtain ⟨left, htext, -⟩ := h.reads hreads
    apply not_refuses_of_fits hfits
    rw [htext, List.length_append]
    exact Nat.le_add_right_of_le hfront.length_le
  generalize seek delimiter cursor body = halt at hslides
  cases hslides with
  | matched hreads hsplit _ _ => exact absurd hsplit (hmet hreads)
  | refused hreads hsplit _ _ => exact absurd hsplit (hmet hreads)
  | ended hreads hend _ =>
      obtain ⟨left, htext, hbefore⟩ := h.reads hreads
      obtain rfl := hbefore.eq_nil_of_next_none hend
      obtain ⟨after, hafter, hfaces⟩ := hbefore.next_nil
      rw [hend] at hafter
      cases hafter
      rw [List.append_nil] at htext
      subst htext
      exact ⟨_, _, hfaces, rfl⟩
  | overflow hreads hfront _ hrefuses => exact absurd hrefuses (hroom hreads hfront)
  | overflowAtEnd hreads _ _ hrefuses =>
      exact absurd hrefuses (hroom hreads (List.prefix_refl _))
  | failure hreads hfailed =>
      obtain ⟨_, _, hbefore⟩ := h.reads hreads
      exact absurd hfailed (hbefore.next_ne_error _)

/-- A scan finds the first delimiter and reads its line. -/
theorem find_of_faces {kind : DelimiterKind} {Leaves : Cursor → Prop}
    (h : cursor.Faces offset (front ++ (delimiter.bytes ++ rest)))
    (hfirst : ∀ count < front.length,
      ¬delimiter.OccursAt (front ++ (delimiter.bytes ++ rest)) count)
    (hfits : ∀ kept, body = some kept → kept.size + front.length ≤ addCapped kept.limit 2)
    (hlast : terminate (grow body front) (offset + front.length) = .ok () last)
    (hline : ∀ {between : Cursor},
      between.Faces (offset + (front.length + delimiter.length)) rest →
      ∃ after, delimiterLine between = .ok kind after ∧ Leaves after.clearMark) :
    ∃ after, find delimiter cursor body =
        ⟨.ok (.found kind), after, last, some (offset + front.length)⟩ ∧ Leaves after := by
  obtain ⟨between, hbetween, hseek⟩ := seek_of_first h hfirst hfits
  rw [hlast] at hseek
  obtain ⟨after, hafter, hleaves⟩ := hline hbetween
  exact ⟨after.clearMark, by simp only [find, hseek, hafter], hleaves⟩

end Multipart.Scan
