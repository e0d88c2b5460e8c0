import Multipart.Proofs.Cursor.Offer
import Multipart.Proofs.Scan.Search

/-! # Delimiter lines

The line of a delimiter after which a part follows ends in padding and a line end, and is read up to
its last byte and no further. -/

namespace Multipart.Scan

open Cursor (Reads)

/-- What follows a delimiter on its line if a part follows: padding and a line end. -/
inductive OpeningLine : List UInt8 → Prop
  | lf : OpeningLine [Octet.lf]
  | crlf : OpeningLine [Octet.cr, Octet.lf]
  | blank {value : UInt8} {line : List UInt8} :
      Octet.isBlank value → OpeningLine line → OpeningLine (value :: line)

variable {cursor after : Cursor} {kind : DelimiterKind} {line : List UInt8} {value : UInt8}

theorem OpeningLine.length_pos (h : OpeningLine line) : 0 < line.length := by
  cases h <;> simp

theorem next_eq_ok {value : Option UInt8} (h : next cursor = .ok value after) :
    cursor.next = .ok value after := by
  simp only [next] at h
  split at h
  · rename_i hnext
    cases h
    exact hnext
  · cases h

theorem reads_of_scan_next (h : next cursor = .ok (some value) after) :
    Reads cursor [value] after :=
  Cursor.reads_of_next (next_eq_ok h)

/-! ## Reading to the end of the line -/

theorem endLine_none (kind : DelimiterKind) (cursor : Cursor) :
    endLine kind none cursor = endLineEarly kind cursor := by
  simp [endLine, skipPadding_none]

theorem endLine_of_blank (kind : DelimiterKind) (h : Octet.isBlank value) (cursor : Cursor) :
    endLine kind (some value) cursor =
      match next cursor with
      | .error error cursor => .error error cursor
      | .ok value cursor => endLine kind value cursor := by
  simp only [endLine]
  rw [skipPadding_of_blank h]
  cases next cursor <;> rfl

theorem endLine_of_not_blank (kind : DelimiterKind) (h : ¬Octet.isBlank value) (cursor : Cursor) :
    endLine kind (some value) cursor =
      if value = Octet.lf then .ok kind cursor
      else if value = Octet.cr then
        match next cursor with
        | .error error cursor => .error error cursor
        | .ok value cursor =>
            if value = some Octet.lf then .ok kind cursor else endLineEarly kind cursor
      else endLineEarly kind cursor := by
  cases hnext : next cursor <;>
    simp only [endLine, skipPadding_of_not_blank h, Option.some.injEq, hnext]

/-- A closing line is not taken for an opening one. -/
theorem endLine_closing_ne (first : Option UInt8) (cursor after : Cursor) :
    endLine .closing first cursor ≠ .ok .opening after := by
  intro h
  simp only [endLine, endLineEarly] at h
  repeat' split at h
  all_goals cases h

/-- A line that is taken for an opening one is one. -/
theorem opens_of_endLine {first : Option UInt8}
    (h : endLine .opening first cursor = .ok .opening after) :
    ∃ value line, first = some value ∧ OpeningLine (value :: line) ∧ Reads cursor line after := by
  induction first, cursor using skipPadding.induct with
  | case1 cursor =>
      rw [endLine_none] at h
      cases h
  | case2 cursor value hblank error failed hnext =>
      rw [endLine_of_blank .opening hblank, next_eq_error_of_cursor hnext] at h
      cases h
  | case3 cursor value hblank ended hnext =>
      rw [endLine_of_blank .opening hblank, next_eq_ok_of_cursor hnext] at h
      simp only [endLine_none] at h
      cases h
  | case4 cursor value hblank second between hnext ih =>
      rw [endLine_of_blank .opening hblank, next_eq_ok_of_cursor hnext] at h
      obtain ⟨_, line, hsecond, hline, hreads⟩ := ih h
      cases hsecond
      exact ⟨value, second :: line, rfl, .blank hblank hline,
        (Cursor.reads_of_next hnext).trans hreads⟩
  | case5 cursor value hblank =>
      rw [endLine_of_not_blank .opening hblank] at h
      split at h
      · rename_i hlf
        subst hlf
        cases h
        exact ⟨Octet.lf, [], rfl, .lf, .refl _⟩
      · split at h
        · rename_i hcr
          subst hcr
          cases hnext : next cursor with
          | error error failed => simp [hnext] at h
          | ok second between =>
              rw [hnext] at h
              simp only at h
              split at h
              · rename_i hlf
                subst hlf
                cases h
                exact ⟨Octet.cr, [Octet.lf], rfl, .crlf, reads_of_scan_next hnext⟩
              · cases h
        · cases h

theorem opens_of_delimiterLine (h : delimiterLine cursor = .ok .opening after) :
    ∃ line, OpeningLine line ∧ Reads cursor line after := by
  simp only [delimiterLine] at h
  cases hfirst : next cursor with
  | error error failed => simp [hfirst] at h
  | ok first between =>
      rw [hfirst] at h
      simp only at h
      split at h
      · split at h
        · cases h
        · split at h
          · split at h
            · cases h
            · exact absurd h (endLine_closing_ne _ _ _)
          · cases h
      · obtain ⟨value, line, rfl, hline, hreads⟩ := opens_of_endLine h
        exact ⟨value :: line, hline, (reads_of_scan_next hfirst).trans hreads⟩

/-- A scan that finds a delimiter before a part reads up to the end of its line. -/
theorem find_opening {delimiter : Delimiter} {body : Option Body}
    (h : (find delimiter cursor body).outcome = .ok (.found .opening)) :
    ∃ front line, OpeningLine line ∧
      Reads cursor (front ++ delimiter.bytes ++ line) (find delimiter cursor body).cursor := by
  obtain ⟨front, between, after, hfront, -, -, hafter, hcursor⟩ := find_found h
  obtain ⟨line, hline, hreads⟩ := opens_of_delimiterLine hafter
  refine ⟨front, line, hline, ?_⟩
  rw [hcursor, ← List.append_nil (front ++ delimiter.bytes ++ line)]
  exact (hfront.trans hreads).trans (Cursor.passes_clearMark after)

/-! ## Lines that are handed out -/

variable {base : Nat} {rest : List Moment}

theorem next_of_offers (h : cursor.Offers base (value :: line) rest) :
    ∃ after, next cursor = .ok (some value) after ∧ after.Offers base line rest := by
  obtain ⟨after, hnext, hafter⟩ := h.next_cons
  exact ⟨after, next_eq_ok_of_cursor hnext, hafter⟩

/-- An opening line is read whatever follows it. -/
theorem endLine_of_opens (hline : OpeningLine (value :: line))
    (h : cursor.Offers base line rest) :
    ∃ after, endLine .opening (some value) cursor = .ok .opening after ∧
      after.Offers base [] rest := by
  generalize hword : value :: line = word at hline
  induction hline generalizing value line cursor with
  | lf =>
      cases hword
      exact ⟨cursor, by rw [endLine_of_not_blank .opening (by decide), if_pos rfl], h⟩
  | crlf =>
      cases hword
      obtain ⟨after, hnext, hafter⟩ := next_of_offers h
      refine ⟨after, ?_, hafter⟩
      rw [endLine_of_not_blank .opening (by decide), if_neg (by decide), if_pos rfl, hnext]
      exact if_pos rfl
  | @blank first rest hblank hrest ih =>
      cases hword
      cases rest with
      | nil => cases hrest
      | cons second rest =>
          obtain ⟨between, hnext, hbetween⟩ := next_of_offers h
          rw [endLine_of_blank .opening hblank, hnext]
          exact ih hbetween rfl

theorem OpeningLine.head_ne_dash (h : OpeningLine (value :: line)) : value ≠ Octet.dash := by
  rintro rfl
  cases h with
  | blank hblank _ => exact absurd hblank (by decide)

theorem delimiterLine_of_opens (hline : OpeningLine line) (h : cursor.Offers base line rest) :
    ∃ after, delimiterLine cursor = .ok .opening after ∧ after.Offers base [] rest := by
  cases line with
  | nil => cases hline
  | cons value line =>
      obtain ⟨between, hnext, hbetween⟩ := next_of_offers h
      obtain ⟨after, hend, hafter⟩ := endLine_of_opens hline hbetween
      refine ⟨after, ?_, hafter⟩
      simp only [delimiterLine, hnext, Option.some.injEq, if_neg hline.head_ne_dash, hend]

end Multipart.Scan
