import Multipart.Proofs.Scan.Grammar

/-! # Closing lines

After the two hyphens of a closing delimiter stands padding, and a line end or the epilogue. A byte
that is read cannot be put back, so where no line end stands the search for one reads into the
epilogue. -/

namespace Multipart.Scan

/-! ## Where the line ends -/

def leadingLineEnd (text : List UInt8) : List UInt8 :=
  if [Octet.lf] <+: text then [Octet.lf]
  else if [Octet.cr, Octet.lf] <+: text then [Octet.cr, Octet.lf]
  else []

/-- What stands on the line of a closing delimiter after its hyphens: padding, and the line end if
there is one. -/
def closingLine (text : List UInt8) : List UInt8 :=
  text.takeWhile Octet.isBlank ++ leadingLineEnd (text.dropWhile Octet.isBlank)

/-- The epilogue starts on the line of the closing delimiter: something else than a line end follows
the padding. -/
def RunsOn (text : List UInt8) : Prop :=
  text.dropWhile Octet.isBlank ≠ [] ∧ leadingLineEnd (text.dropWhile Octet.isBlank) = []

/-- What is read after the line: the first byte of an epilogue that starts on it, and one byte more
if that is a carriage return. -/
def overrun (text : List UInt8) : List UInt8 :=
  let epilogue := text.dropWhile Octet.isBlank
  if leadingLineEnd epilogue = [] then
    epilogue.take (if [Octet.cr] <+: epilogue then 2 else 1)
  else []

variable {cursor after : Cursor} {offset : Nat} {text line read left : List UInt8}
  {value : UInt8}

theorem closingLine_of_blank (h : Octet.isBlank value) (text : List UInt8) :
    closingLine (value :: text) = value :: closingLine text := by
  simp [closingLine, h]

theorem closingLine_of_not_blank (h : ¬Octet.isBlank value) (text : List UInt8) :
    closingLine (value :: text) = leadingLineEnd (value :: text) := by
  simp [closingLine, h]

theorem overrun_of_blank (h : Octet.isBlank value) (text : List UInt8) :
    overrun (value :: text) = overrun text := by
  simp [overrun, h]

theorem overrun_of_not_blank (h : ¬Octet.isBlank value) (text : List UInt8) :
    overrun (value :: text) =
      if leadingLineEnd (value :: text) = [] then
        (value :: text).take (if value = Octet.cr then 2 else 1)
      else [] := by
  simp only [overrun, List.dropWhile_cons_of_neg h, List.cons_prefix_cons, List.nil_prefix,
    and_true, eq_comm (a := Octet.cr)]

/-- The search reads on where the epilogue starts on the line, and nowhere else. -/
theorem overrun_eq_nil_iff : overrun text = [] ↔ ¬RunsOn text := by
  simp only [overrun, RunsOn]
  by_cases hnone : leadingLineEnd (text.dropWhile Octet.isBlank) = []
  · simp only [hnone, ite_true, and_true, Decidable.not_not]
    split <;> simp [List.take_eq_nil_iff]
  · simp [hnone]

theorem closingLine_of_opening (h : OpeningLine line) (rest : List UInt8) :
    closingLine (line ++ rest) = line ∧ overrun (line ++ rest) = [] := by
  induction h with
  | lf =>
      have hend : leadingLineEnd (Octet.lf :: rest) = [Octet.lf] := by simp [leadingLineEnd]
      simp only [List.singleton_append]
      rw [closingLine_of_not_blank (by decide), overrun_of_not_blank (by decide), hend]
      exact ⟨rfl, rfl⟩
  | crlf =>
      have hend : leadingLineEnd (Octet.cr :: Octet.lf :: rest) = [Octet.cr, Octet.lf] := by
        have hne : Octet.lf ≠ Octet.cr := by decide
        simp [leadingLineEnd, hne]
      simp only [List.cons_append, List.nil_append]
      rw [closingLine_of_not_blank (by decide), overrun_of_not_blank (by decide), hend]
      exact ⟨rfl, rfl⟩
  | blank hblank _ ih =>
      rw [List.cons_append, closingLine_of_blank hblank, overrun_of_blank hblank, ih.1]
      exact ⟨rfl, ih.2⟩

/-- A line that breaks is read up to the end of the padding, and what is read on. -/
theorem closingLine_of_broken (h : BrokenLine read left) :
    closingLine (read ++ left) ++ overrun (read ++ left) = read := by
  induction h with
  | ended => rfl
  | endedAfterCr => decide
  | @bareCr value left hvalue =>
      have hend : leadingLineEnd (Octet.cr :: value :: left) = [] := by
        have hne : Octet.lf ≠ Octet.cr := by decide
        simp [leadingLineEnd, hne, hvalue.symm]
      simp only [List.cons_append, List.nil_append]
      rw [closingLine_of_not_blank (by decide), overrun_of_not_blank (by decide), hend]
      rfl
  | @other value left hblank hlf hcr =>
      have hend : leadingLineEnd (value :: left) = [] := by
        simp [leadingLineEnd, hlf.symm, hcr.symm]
      rw [List.singleton_append, closingLine_of_not_blank hblank, overrun_of_not_blank hblank,
        hend, if_pos rfl, if_neg hcr]
      rfl
  | blank hblank _ ih =>
      rw [List.cons_append, closingLine_of_blank hblank, overrun_of_blank hblank,
        List.cons_append, ih]

/-! ## Reading the line -/

/-- A closing line is read as far as an opening one. -/
theorem rest_endLine_closing (first : Option UInt8) (cursor : Cursor) :
    Scan.rest (endLine .closing first cursor) = Scan.rest (endLine .opening first cursor) := by
  cases hpadding : skipPadding first cursor with
  | error error failed => simp [endLine, hpadding, Scan.rest]
  | ok value between =>
      cases hnext : next between with
      | error error failed =>
          simp only [endLine, hpadding, hnext]
          grind [Scan.rest, endLineEarly]
      | ok second after =>
          simp only [endLine, hpadding, hnext]
          grind [Scan.rest, endLineEarly]

theorem faces_endLine (h : cursor.Faces offset text) :
    ∃ first between, next cursor = .ok first between ∧
      (Scan.rest (endLine .closing first between)).Faces
        (offset + (closingLine text ++ overrun text).length)
        (text.drop (closingLine text ++ overrun text).length) := by
  rcases opening_or_broken text with ⟨line, rest, hline, rfl⟩ | ⟨read, left, hread, rfl⟩
  · obtain ⟨hclosing, hoverrun⟩ := closingLine_of_opening hline rest
    obtain ⟨first, between, after, hnext, -, hend, hafter⟩ := endLine_of_opening hline h
    refine ⟨first, between, hnext, ?_⟩
    rw [rest_endLine_closing, hend, hclosing, hoverrun, List.append_nil, List.drop_left]
    exact hafter
  · obtain ⟨first, between, after, hnext, -, hend, hafter⟩ := endLine_of_broken hread h
    refine ⟨first, between, hnext, ?_⟩
    rw [rest_endLine_closing, hend, closingLine_of_broken hread, List.drop_left]
    exact hafter

/-- After its two hyphens a closing line is read to its end, and an epilogue on it is read into. -/
theorem faces_of_delimiterLine (h : cursor.Faces offset text)
    (hclosing : delimiterLine cursor = .ok .closing after) :
    ∃ rest, text = Octet.dash :: Octet.dash :: rest ∧
      after.Faces (offset + 2 + (closingLine rest ++ overrun rest).length)
        (rest.drop (closingLine rest ++ overrun rest).length) := by
  obtain ⟨rest, rfl⟩ := (lineRead_delimiterLine h).closing_iff.mp ⟨after, hclosing⟩
  obtain ⟨first, hfirst, hfaces⟩ := next_of_faces h
  obtain ⟨second, hsecond, hfaces⟩ := next_of_faces hfaces
  obtain ⟨value, third, hthird, hend⟩ := faces_endLine hfaces
  simp only [delimiterLine, hfirst, hsecond, hthird, ite_true] at hclosing
  rw [hclosing] at hend
  exact ⟨rest, rfl, hend⟩

/-! ## The scan -/

variable {delimiter : Delimiter} {body : Option Body}

/-- How many bytes a text holds up to the end of a closing line: the text before the delimiter, the
delimiter, its two hyphens and what else stands on the line. -/
def closingStop (delimiter : Delimiter) (front rest : List UInt8) : Nat :=
  front.length + delimiter.length + 2 + (closingLine rest).length

/-- What a scan that finds a closing delimiter leaves of a text. The delimiter is the first one, and
the cursor stands at the end of its line exactly if the epilogue does not start on that line. -/
structure Closes (delimiter : Delimiter) (offset : Nat) (text front rest : List UInt8)
    (after : Cursor) : Prop where
  text_eq : text = front ++ (delimiter.bytes ++ Octet.dash :: Octet.dash :: rest)
  first : ∀ count < front.length, ¬delimiter.OccursAt text count
  faces : after.Faces (offset + closingStop delimiter front rest + (overrun rest).length)
    (rest.drop (closingLine rest ++ overrun rest).length)
  stops_iff : after.position = offset + closingStop delimiter front rest ↔ ¬RunsOn rest

/-- A scan that finds a closing delimiter reads its line to the end, and reads into no epilogue that
starts on a line of its own. -/
theorem find_closing (h : cursor.Faces offset text)
    (hfound : (find delimiter cursor body).outcome = .ok (.found .closing)) :
    ∃ front rest, Closes delimiter offset text front rest (find delimiter cursor body).cursor := by
  obtain ⟨front, between, after, hreads, hfree, -, hline, hcursor⟩ := find_found hfound
  obtain ⟨left, htext, hbetween⟩ := h.reads hreads
  obtain ⟨rest, rfl, hafter⟩ := faces_of_delimiterLine hbetween hline
  have hstop : offset + (front ++ delimiter.bytes).length + 2 +
      (closingLine rest ++ overrun rest).length =
      offset + closingStop delimiter front rest + (overrun rest).length := by
    rw [closingStop, List.length_append, List.length_append, Delimiter.length_bytes]
    omega
  rw [hstop] at hafter
  have hfirst : ∀ count < front.length, ¬delimiter.OccursAt text count := by
    intro count hcount
    rw [htext]
    exact hfree count hcount _
  rw [List.append_assoc] at htext
  rw [hcursor]
  refine ⟨front, rest, htext, hfirst, hafter.clearMark, ?_⟩
  rw [hafter.clearMark.position_eq, ← overrun_eq_nil_iff, ← List.length_eq_zero_iff]
  omega

theorem outcome_eq_of_toOption {outcome : Except Error Outcome} {last : Outcome}
    (h : outcome.toOption = some last) : outcome = .ok last := by
  cases outcome with
  | error error => cases h
  | ok other => rw [Option.some.inj h]

def boundaryB : Delimiter := .ofBytes [66]

/-- A preamble, a closing line with padding, and an epilogue on a line of its own. -/
def paddedClose : List UInt8 :=
  [120] ++ boundaryB.bytes ++
    [Octet.dash, Octet.dash, Octet.space, Octet.tab, Octet.cr, Octet.lf, 101]

theorem find_closing_padded :
    (find boundaryB (.ofSource (.ofBytes paddedClose) 2) none).outcome = .ok (.found .closing) ∧
      (find boundaryB (.ofSource (.ofBytes paddedClose) 2) none).cursor.position = 10 ∧
      ∃ front rest, Closes boundaryB 0 paddedClose front rest
        (find boundaryB (.ofSource (.ofBytes paddedClose) 2) none).cursor := by
  have hfound : (find boundaryB (.ofSource (.ofBytes paddedClose) 2) none).outcome =
      .ok (.found .closing) := outcome_eq_of_toOption (by decide +kernel)
  exact ⟨hfound, by decide +kernel, find_closing (Cursor.faces_ofBytes paddedClose 2) hfound⟩

def closeRunOn : List UInt8 := boundaryB.bytes ++ [Octet.dash, Octet.dash, 88]

/-- An epilogue that starts on the line of the closing delimiter is read into. -/
theorem not_find_closing_stops :
    ¬∀ delimiter cursor offset text body front rest, Cursor.Faces cursor offset text →
      (find delimiter cursor body).outcome = .ok (.found .closing) →
      text = front ++ (delimiter.bytes ++ Octet.dash :: Octet.dash :: rest) →
      (∀ count < front.length, ¬delimiter.OccursAt text count) →
      (find delimiter cursor body).cursor.position = offset + closingStop delimiter front rest := by
  intro hstops
  have hstop := hstops boundaryB _ 0 closeRunOn none [] [88] (Cursor.faces_ofBytes closeRunOn 8192)
    (outcome_eq_of_toOption (by decide +kernel)) rfl (by decide)
  exact absurd hstop (by decide +kernel)

end Multipart.Scan
