import Multipart.Proofs.Header.Extent
import Multipart.Proofs.Header.Unfolding
import Multipart.Proofs.Text.Utf8

/-! # Blocks that are written line by line

Lines that are written with their line ends are found again twice: first among the bytes, where the
blank line after them ends the block, and then in the text of the block, where they lose their line
ends. -/

namespace Multipart.Header

open Text.Utf8 (encode)

inductive LineBreak
  | crlf
  | lf
  deriving DecidableEq, Repr

namespace LineBreak

def before : LineBreak → List Char
  | crlf => ['\r']
  | lf => []

/-- A line break, which is a blank line by itself. -/
def bytes (lineBreak : LineBreak) : List UInt8 :=
  encode (lineBreak.before ++ ['\n'])

theorem isBlankLine_bytes (lineBreak : LineBreak) : isBlankLine lineBreak.bytes := by
  cases lineBreak <;> rfl

end LineBreak

structure Row where
  text : List Char
  lineBreak : LineBreak
  deriving DecidableEq, Repr

namespace Row

def body (row : Row) : List Char :=
  row.text ++ row.lineBreak.before

def written (row : Row) : List Char :=
  row.body ++ ['\n']

def bytes (row : Row) : List UInt8 :=
  encode row.written

structure Plain (row : Row) : Prop where
  ne_nil : row.text ≠ []
  text : ∀ c ∈ row.text, c ≠ '\r' ∧ c ≠ '\n'

end Row

def textOf (rows : List Row) : List Char :=
  rows.flatMap Row.written

def bytesOf (rows : List Row) : List UInt8 :=
  encode (textOf rows)

variable {row : Row} {rows : List Row}

/-! ## One row -/

theorem newline_not_mem_before (lineBreak : LineBreak) : '\n' ∉ lineBreak.before := by
  cases lineBreak <;> decide

theorem Row.Plain.newline_not_mem_body (h : row.Plain) : '\n' ∉ row.body := by
  intro hmem
  rcases List.mem_append.mp hmem with htext | hend
  · exact (h.text _ htext).2 rfl
  · exact newline_not_mem_before row.lineBreak hend

/-- A row without its line end is its text. -/
theorem Row.Plain.stripEnd_written (h : row.Plain) : Text.stripEnd row.written = row.text := by
  rw [written, body]
  cases row.lineBreak with
  | crlf =>
      rw [List.append_assoc]
      exact Text.stripEnd_crlf row.text
  | lf =>
      rw [LineBreak.before, List.append_nil]
      exact Text.stripEnd_lf fun hmem => (h.text _ hmem).1 rfl

theorem lf_not_mem_encode {text : List Char} (h : '\n' ∉ text) : Octet.lf ∉ encode text := by
  intro hmem
  exact h (Text.Utf8.mem_of_mem_encode hmem (by decide))

/-- Bytes up to a line feed are a line. -/
theorem lines_encode_append {text : List Char} (h : '\n' ∉ text) (rest : List UInt8) :
    Octet.lines (encode (text ++ ['\n']) ++ rest) =
      encode (text ++ ['\n']) :: Octet.lines rest := by
  rw [Text.Utf8.encode_append, List.append_assoc]
  apply Text.cutLines_append
  · intro byte hbyte
    simpa using ne_of_mem_of_not_mem hbyte (lf_not_mem_encode h)
  · rfl

/-- The lines of the bytes of a text are the bytes of its lines. -/
theorem lines_encode (text : List Char) :
    Octet.lines (encode text) = (Text.cutLines (· = '\n') text).map encode := by
  induction hlength : text.length using Nat.strongRecOn generalizing text with
  | ind length ih =>
      by_cases hmem : '\n' ∈ text
      · obtain ⟨line, rest, rfl, hline⟩ := List.eq_append_cons_of_mem hmem
        have hnone : ∀ c ∈ line, ¬decide (c = '\n') := by
          intro c hc
          simpa using ne_of_mem_of_not_mem hc hline
        have hshort : rest.length < length := by
          rw [← hlength, List.length_append, List.length_cons]
          omega
        rw [Text.cutLines_append hnone (by simp), List.map_cons, ← ih _ hshort rest rfl,
          ← lines_encode_append hline, ← Text.Utf8.encode_append, List.append_assoc]
        rfl
      · by_cases hnil : text = []
        · rw [hnil]
          rfl
        · have hnone : ∀ c ∈ text, ¬decide (c = '\n') := by
            intro c hc
            simpa using ne_of_mem_of_not_mem hc hmem
          have hbytes : ∀ byte ∈ encode text, ¬decide (byte = Octet.lf) := by
            intro byte hbyte
            simpa using ne_of_mem_of_not_mem hbyte (lf_not_mem_encode hmem)
          rw [Text.cutLines_of_not_last hnil hnone, List.map_singleton]
          exact Text.cutLines_of_not_last (Text.Utf8.encode_ne_nil hnil) hbytes

/-- The first byte of a row is that of its text, which starts no line end. -/
theorem Row.Plain.not_isBlankLine (h : row.Plain) : ¬isBlankLine row.bytes := by
  obtain ⟨byte, bytes, hbytes⟩ := List.exists_cons_of_ne_nil (Text.Utf8.encode_ne_nil h.ne_nil)
  have hmem : byte ∈ encode row.text := by simp [hbytes]
  intro hblank
  rw [Row.bytes, written, body, List.append_assoc, Text.Utf8.encode_append, hbytes] at hblank
  simp only [isBlankLine, List.cons_append, Bool.or_eq_true, beq_iff_eq, List.cons.injEq] at hblank
  rcases hblank with ⟨rfl, -⟩ | ⟨rfl, -⟩
  · exact (h.text _ (Text.Utf8.mem_of_mem_encode hmem (by decide))).1 rfl
  · exact (h.text _ (Text.Utf8.mem_of_mem_encode hmem (by decide))).2 rfl

/-! ## Rows one after another -/

/-- The lines of the text are the texts of the rows. -/
theorem lines_textOf (h : ∀ row ∈ rows, row.Plain) :
    Text.lines (textOf rows) = rows.map Row.text := by
  rw [Text.lines_eq_map]
  induction rows with
  | nil => rfl
  | cons row rows ih =>
      rw [List.forall_mem_cons] at h
      have hbody : ∀ c ∈ row.body, ¬decide (c = '\n') := by
        intro c hc
        simpa using ne_of_mem_of_not_mem hc h.1.newline_not_mem_body
      rw [textOf, List.flatMap_cons, Row.written, List.append_assoc, List.singleton_append,
        Text.cutLines_append hbody (by simp), ← textOf, List.map_cons, ih h.2, ← Row.written,
        h.1.stripEnd_written, List.map_cons]

theorem bytesOf_cons (row : Row) (rows : List Row) :
    bytesOf (row :: rows) = row.bytes ++ bytesOf rows := by
  rw [bytesOf, textOf, List.flatMap_cons, Text.Utf8.encode_append]
  rfl

/-- The lines of the bytes are the bytes of the rows. -/
theorem lines_bytesOf_append (h : ∀ row ∈ rows, row.Plain) (rest : List UInt8) :
    Octet.lines (bytesOf rows ++ rest) = rows.map Row.bytes ++ Octet.lines rest := by
  induction rows with
  | nil => rfl
  | cons row rows ih =>
      rw [List.forall_mem_cons] at h
      rw [bytesOf_cons, List.append_assoc, Row.bytes, Row.written,
        lines_encode_append h.1.newline_not_mem_body, ← Row.written, ← Row.bytes, ih h.2]
      rfl

theorem lines_blank_append (lineBreak : LineBreak) (rest : List UInt8) :
    Octet.lines (lineBreak.bytes ++ rest) = lineBreak.bytes :: Octet.lines rest :=
  lines_encode_append (newline_not_mem_before lineBreak) rest

theorem not_isBlankLine_of_mem (h : ∀ row ∈ rows, row.Plain) :
    ∀ line ∈ rows.map Row.bytes, ¬isBlankLine line := by
  intro line hline
  obtain ⟨row, hrow, rfl⟩ := List.mem_map.mp hline
  exact (h row hrow).not_isBlankLine

variable {limit offset : Nat} {cursor : Cursor} {rest : List UInt8}

/-- The rows before a blank line are the block. -/
theorem blockLines_bytesOf (h : ∀ row ∈ rows, row.Plain) (lineBreak : LineBreak)
    (rest : List UInt8) :
    blockLines (bytesOf rows ++ (lineBreak.bytes ++ rest)) = rows.map Row.bytes := by
  rw [blockLines, lines_bytesOf_append h, lines_blank_append, List.takeWhile_append_of_pos]
  · rw [List.takeWhile_cons_of_neg (by simp [lineBreak.isBlankLine_bytes]), List.append_nil]
  · intro line hline
    simpa using not_isBlankLine_of_mem h line hline

theorem blankLine_bytesOf (h : ∀ row ∈ rows, row.Plain) (lineBreak : LineBreak)
    (rest : List UInt8) :
    blankLine (bytesOf rows ++ (lineBreak.bytes ++ rest)) = lineBreak.bytes := by
  have hnone : (rows.map Row.bytes).find? isBlankLine = none :=
    List.find?_eq_none.mpr (not_isBlankLine_of_mem h)
  rw [blankLine, lines_bytesOf_append h, lines_blank_append, List.find?_append, hnone,
    Option.none_or, List.find?_cons_of_pos lineBreak.isBlankLine_bytes, Option.getD_some]

theorem flatten_map_bytes (rows : List Row) : (rows.map Row.bytes).flatten = bytesOf rows := by
  induction rows with
  | nil => rfl
  | cons row rows ih => rw [List.map_cons, List.flatten_cons, ih, bytesOf_cons]

/-- Rows are read up to and including the blank line after them. -/
theorem readBlock_bytesOf (h : ∀ row ∈ rows, row.Plain) (lineBreak : LineBreak)
    (hfits : (bytesOf rows).length ≤ limit) (hword : (bytesOf rows).length ≤ maxWord)
    (hfaces : cursor.Faces offset (bytesOf rows ++ (lineBreak.bytes ++ rest))) :
    ∃ after, readBlock limit cursor = .ok (unfoldLines (rows.map Row.text)) after ∧
      after.Faces (offset + ((bytesOf rows).length + lineBreak.bytes.length)) rest := by
  have hblock : blockBytes (bytesOf rows ++ (lineBreak.bytes ++ rest)) = bytesOf rows := by
    rw [blockBytes, blockLines_bytesOf h, flatten_map_bytes]
  have hextent : extent (bytesOf rows ++ (lineBreak.bytes ++ rest)) =
      (bytesOf rows ++ lineBreak.bytes).length := by
    rw [extent, hblock, blankLine_bytesOf h, List.length_append]
  have hdecode : Text.Charset.decode (bytesOf rows) = textOf rows := by
    rw [Text.Charset.decode, bytesOf, Text.Utf8.decode?_encode, Option.getD_some]
  rw [← hblock] at hfits hword
  obtain ⟨after, hread, hafter⟩ := readBlock_of_fits hfaces hfits hword
  rw [hblock, hdecode, unfold_eq, lines_textOf h] at hread
  rw [hextent, ← List.append_assoc, List.drop_left, List.length_append] at hafter
  exact ⟨after, hread, hafter⟩

end Multipart.Header
