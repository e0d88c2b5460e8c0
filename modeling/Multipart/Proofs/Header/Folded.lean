import Multipart.Part
import Multipart.Proofs.Header.Rows
import Multipart.Proofs.Text.Plain
import Multipart.Proofs.Text.Trim

/-! # Folded headers

A header may be written on several lines: each line after the first starts with blanks and holds
another piece of the value. Headers that are written like this are read back with their names in
lower case and their pieces joined by single spaces, whatever blanks and line ends are between the
pieces. -/

namespace Multipart.Header

open Text (Trimmed)

/-- A piece of a value, the blanks before it, and how its line ends. -/
structure Piece where
  blanks : List Char
  text : List Char
  lineBreak : LineBreak
  deriving DecidableEq, Repr

/-- A header as it is written: a name and the pieces of its value, each on a line of its own. -/
structure Field where
  name : List Char
  first : Piece
  more : List Piece
  deriving DecidableEq, Repr

namespace Piece

def line (piece : Piece) : List Char :=
  piece.blanks ++ piece.text

structure WellFormed (piece : Piece) : Prop where
  blanks : ∀ c ∈ piece.blanks, c = ' ' ∨ c = '\t'
  text : ∀ c ∈ piece.text, c ≠ '\r' ∧ c ≠ '\n'
  trimmed : Trimmed piece.text

instance (piece : Piece) : Decidable piece.WellFormed :=
  decidable_of_iff (piece.blanks.all (fun c => c = ' ' ∨ c = '\t') ∧
      piece.text.all (fun c => c ≠ '\r' ∧ c ≠ '\n') ∧ Trimmed piece.text) <| by
    simp only [List.all_eq_true, decide_eq_true_eq]
    exact ⟨fun ⟨hblanks, htext, htrimmed⟩ => ⟨hblanks, htext, htrimmed⟩,
      fun h => ⟨h.blanks, h.text, h.trimmed⟩⟩

end Piece

namespace Field

def startLine (field : Field) : List Char :=
  field.name ++ ':' :: field.first.line

def folds (field : Field) : List (List Char) :=
  field.more.map Piece.line

def rows (field : Field) : List Row :=
  ⟨field.startLine, field.first.lineBreak⟩ ::
    field.more.map fun piece => ⟨piece.line, piece.lineBreak⟩

def value (field : Field) : List Char :=
  List.intercalate [' '] (field.first.text :: field.more.map Piece.text)

def header (field : Field) : Header :=
  ⟨String.ofList (Text.lowerAscii field.name), String.ofList field.value⟩

/-- Whether a field has a name, in which ASCII capitals count as small letters. -/
def Named (field : Field) (name : String) : Prop :=
  Text.lowerAscii field.name = name.toList

/-- A name of printing ASCII characters other than space and colon, and pieces of which all but the
first have blanks before them. The name and the pieces may be empty. -/
structure WellFormed (field : Field) : Prop where
  name : ∀ c ∈ field.name, ' ' < c ∧ c < '\x7f' ∧ c ≠ ':'
  first : field.first.WellFormed
  more : ∀ piece ∈ field.more, piece.WellFormed ∧ piece.blanks ≠ []

instance (field : Field) : Decidable field.WellFormed :=
  decidable_of_iff (field.name.all (fun c => ' ' < c ∧ c < '\x7f' ∧ c ≠ ':') ∧
      field.first.WellFormed ∧
      field.more.all fun piece => piece.WellFormed ∧ piece.blanks ≠ []) <| by
    simp only [List.all_eq_true, decide_eq_true_eq]
    exact ⟨fun ⟨hname, hfirst, hmore⟩ => ⟨hname, hfirst, hmore⟩,
      fun h => ⟨h.name, h.first, h.more⟩⟩

end Field

def fieldBytes (fields : List Field) : List UInt8 :=
  bytesOf (fields.flatMap Field.rows)

variable {piece : Piece} {field : Field} {fields : List Field}

/-! ## Pieces -/

theorem Piece.WellFormed.trim_line (h : piece.WellFormed) :
    Text.trim piece.line = piece.text := by
  rw [line, Text.trim_append, h.trimmed.trim_eq]
  intro c hc
  rcases h.blanks c hc with rfl | rfl <;> rfl

theorem Piece.WellFormed.oneLine (h : piece.WellFormed) :
    ∀ c ∈ piece.line, c ≠ '\r' ∧ c ≠ '\n' := by
  intro c hc
  rcases List.mem_append.mp hc with hblank | htext
  · rcases h.blanks c hblank with rfl | rfl <;> decide
  · exact h.text c htext

theorem Piece.WellFormed.isContinuation (h : piece.WellFormed) (hne : piece.blanks ≠ []) :
    isContinuation piece.line := by
  obtain ⟨c, blanks, hblanks⟩ := List.exists_cons_of_ne_nil hne
  rw [line, hblanks, List.cons_append, Header.isContinuation]
  simpa using h.blanks c (hblanks ▸ List.mem_cons_self)

/-! ## Names -/

theorem Field.WellFormed.toNat_name (h : field.WellFormed) :
    ∀ c ∈ field.name, 0x20 < c.toNat ∧ c.toNat < 0x7F := by
  intro c hc
  obtain ⟨hlow, hhigh, -⟩ := h.name c hc
  exact ⟨hlow, hhigh⟩

/-- No character of a name is white space or a control. -/
theorem Field.WellFormed.ne_of_mem_name (h : field.WellFormed) {c d : Char} (hc : c ∈ field.name)
    (hd : d.toNat ≤ 0x20) : c ≠ d := by
  rintro rfl
  have hlow := (h.toNat_name c hc).1
  omega

theorem Field.WellFormed.colon_not_mem (h : field.WellFormed) : ':' ∉ field.name :=
  fun hmem => (h.name _ hmem).2.2 rfl

theorem Field.WellFormed.trim_name (h : field.WellFormed) : Text.trim field.name = field.name := by
  apply Trimmed.trim_eq
  apply Text.trimmed_of_not_blank
  intro c hc
  obtain ⟨hlow, hhigh⟩ := h.toNat_name c hc
  simp [Text.isBlank]
  omega

theorem Field.WellFormed.lower_name (h : field.WellFormed) :
    Text.lower field.name = Text.lowerAscii field.name := by
  apply Text.lower_of_ascii
  intro c hc
  have hhigh := (h.toNat_name c hc).2
  omega

/-! ## One field -/

theorem Field.WellFormed.startsHeader (h : field.WellFormed) : startsHeader field.startLine := by
  have hfold : Header.isContinuation field.startLine = false := by
    rw [startLine]
    cases hname : field.name with
    | nil => rfl
    | cons c name =>
        have hc : c ∈ field.name := hname ▸ List.mem_cons_self
        have hspace : c ≠ ' ' := h.ne_of_mem_name hc (by decide)
        have htab : c ≠ '\t' := h.ne_of_mem_name hc (by decide)
        simp [Header.isContinuation, hspace, htab]
  rw [Header.startsHeader, hfold]
  simp [startLine]

theorem Field.WellFormed.plain (h : field.WellFormed) : ∀ row ∈ field.rows, row.Plain := by
  rw [rows, List.forall_mem_cons]
  constructor
  · refine ⟨by simp [startLine], ?_⟩
    intro c hc
    rw [startLine, List.mem_append, List.mem_cons] at hc
    rcases hc with hname | rfl | hpiece
    · exact ⟨h.ne_of_mem_name hname (by decide), h.ne_of_mem_name hname (by decide)⟩
    · decide
    · exact h.first.oneLine c hpiece
  · intro row hrow
    obtain ⟨piece, hpiece, rfl⟩ := List.mem_map.mp hrow
    obtain ⟨hwell, hne⟩ := h.more piece hpiece
    exact ⟨List.append_ne_nil_of_left_ne_nil hne _, hwell.oneLine⟩

theorem Field.map_text_rows (field : Field) :
    field.rows.map Row.text = field.startLine :: field.folds := by
  simp [rows, folds]

/-- The lines of a field are read as the header that it stands for. -/
theorem Field.WellFormed.unfoldLines_rows (h : field.WellFormed) :
    unfoldLines (field.rows.map Row.text) = [field.header] := by
  have hfolds : ∀ fold ∈ field.folds, Header.isContinuation fold := by
    intro fold hfold
    obtain ⟨piece, hpiece, rfl⟩ := List.mem_map.mp hfold
    obtain ⟨hwell, hne⟩ := h.more piece hpiece
    exact hwell.isContinuation hne
  have hpieces : field.folds.map Text.trim = field.more.map Piece.text := by
    rw [folds, List.map_map]
    apply List.map_congr_left
    intro piece hpiece
    exact (h.more piece hpiece).1.trim_line
  rw [field.map_text_rows, unfoldLines_field h.startsHeader hfolds, ofField, hpieces, startLine,
    beforeColon_append _ h.colon_not_mem, afterColon_append _ h.colon_not_mem, h.trim_name,
    h.lower_name, h.first.trim_line, Draft.header, List.reverse_reverse]
  rfl

/-! ## Fields one after another -/

theorem plain_flatMap_rows (h : ∀ field ∈ fields, field.WellFormed) :
    ∀ row ∈ fields.flatMap Field.rows, row.Plain := by
  intro row hrow
  obtain ⟨field, hfield, hmem⟩ := List.mem_flatMap.mp hrow
  exact (h field hfield).plain row hmem

/-- A field starts with a line of its own, whatever stands before it. -/
theorem independent_flatMap_rows (h : ∀ field ∈ fields, field.WellFormed) :
    independent ((fields.flatMap Field.rows).map Row.text) := by
  cases fields with
  | nil => rfl
  | cons field fields =>
      rw [List.flatMap_cons, List.map_append, field.map_text_rows, List.cons_append,
        independent_cons, (h field List.mem_cons_self).startsHeader, Bool.true_or]

theorem unfoldLines_flatMap_rows (h : ∀ field ∈ fields, field.WellFormed) :
    unfoldLines ((fields.flatMap Field.rows).map Row.text) = fields.map Field.header := by
  induction fields with
  | nil => rfl
  | cons field fields ih =>
      rw [List.forall_mem_cons] at h
      rw [List.flatMap_cons, List.map_append,
        unfoldLines_append (independent_flatMap_rows h.2), h.1.unfoldLines_rows, ih h.2]
      rfl

variable {limit offset : Nat} {cursor : Cursor} {rest : List UInt8}

/-- Fields are read up to and including the blank line after them. -/
theorem readBlock_fieldBytes (h : ∀ field ∈ fields, field.WellFormed) (lineBreak : LineBreak)
    (hfits : (fieldBytes fields).length ≤ limit) (hword : (fieldBytes fields).length ≤ maxWord)
    (hfaces : cursor.Faces offset (fieldBytes fields ++ (lineBreak.bytes ++ rest))) :
    ∃ after, readBlock limit cursor = .ok (fields.map Field.header) after ∧
      after.Faces (offset + ((fieldBytes fields).length + lineBreak.bytes.length)) rest := by
  rw [← unfoldLines_flatMap_rows h]
  exact readBlock_bytesOf (plain_flatMap_rows h) lineBreak hfits hword hfaces

/-! ## Parts -/

structure TakesFirst (fields : List Field) (part : Part) : Prop where
  contentType : ∀ front field back, fields = front ++ field :: back →
    field.Named "content-type" → (∀ other ∈ front, ¬other.Named "content-type") →
    part.contentType = field.header.value
  contentType_absent : (∀ field ∈ fields, ¬field.Named "content-type") →
    part.contentType = "application/octet-stream"
  contentId : ∀ front field back, fields = front ++ field :: back →
    field.Named "content-id" → (∀ other ∈ front, ¬other.Named "content-id") →
    part.contentId? = some field.header.value
  contentId_absent : (∀ field ∈ fields, ¬field.Named "content-id") → part.contentId? = none

variable {part : Part} {front back : List Field} {name : String}

theorem Field.named_iff (field : Field) (name : String) :
    field.header.name = name ↔ field.Named name := by
  rw [← String.toList_inj, header, String.toList_ofList, Named]

theorem find?_of_not_named (h : ∀ field ∈ fields, ¬field.Named name) :
    (fields.map Field.header).find? (fun header => header.name = name) = none := by
  rw [List.find?_eq_none]
  intro header hheader
  obtain ⟨field, hfield, rfl⟩ := List.mem_map.mp hheader
  simpa [field.named_iff] using h field hfield

theorem firstHeader?_of_not_named (hheaders : part.headers = fields.map Field.header)
    (h : ∀ field ∈ fields, ¬field.Named name) : part.firstHeader? name = none := by
  rw [Part.firstHeader?, hheaders, find?_of_not_named h, Option.map_none]

theorem firstHeader?_of_named (hheaders : part.headers = fields.map Field.header)
    (hfields : fields = front ++ field :: back) (hnamed : field.Named name)
    (hfront : ∀ other ∈ front, ¬other.Named name) :
    part.firstHeader? name = some field.header.value := by
  rw [Part.firstHeader?, hheaders, hfields, List.map_append, List.map_cons, List.find?_append,
    find?_of_not_named hfront, Option.none_or,
    List.find?_cons_of_pos (by simpa [field.named_iff] using hnamed), Option.map_some]

theorem takesFirst_of_headers (hheaders : part.headers = fields.map Field.header) :
    TakesFirst fields part := by
  constructor
  · intro front field back hfields hnamed hfront
    rw [Part.contentType, firstHeader?_of_named hheaders hfields hnamed hfront, Option.getD_some]
  · intro hnone
    rw [Part.contentType, firstHeader?_of_not_named hheaders hnone, Option.getD_none]
    rfl
  · intro front field back hfields hnamed hfront
    exact firstHeader?_of_named hheaders hfields hnamed hfront
  · intro hnone
    exact firstHeader?_of_not_named hheaders hnone

/-- Fields that are written before a blank line are read back with what a part takes from them, and
what follows the blank line is left to be read. -/
theorem readBlock_folded (h : ∀ field ∈ fields, field.WellFormed) (lineBreak : LineBreak)
    (hfits : (fieldBytes fields).length ≤ limit) (hword : limit ≤ maxWord)
    (hfaces : cursor.Faces offset (fieldBytes fields ++ (lineBreak.bytes ++ rest))) :
    ∃ after, readBlock limit cursor = .ok (fields.map Field.header) after ∧
      after.Faces (offset + ((fieldBytes fields).length + lineBreak.bytes.length)) rest ∧
      ∀ data start, TakesFirst fields ⟨fields.map Field.header, data, start⟩ := by
  obtain ⟨after, hread, hafter⟩ :=
    readBlock_fieldBytes h lineBreak hfits (Nat.le_trans hfits hword) hfaces
  exact ⟨after, hread, hafter, fun _ _ => takesFirst_of_headers rfl⟩

def foldedFields : List Field :=
  [⟨"Content-ID".toList, ⟨[], ['a'], .lf⟩, []⟩,
    ⟨"Content-Type".toList, ⟨[' '], "b/c;".toList, .crlf⟩,
      [⟨['\t', ' '], ['d', ';'], .lf⟩, ⟨[' '], ['é'], .crlf⟩]⟩,
    ⟨"content-id".toList, ⟨['\t'], ['f'], .crlf⟩, []⟩]

/-- The limit is the size of the block. -/
theorem readBlock_folded_content_type :
    (∀ field ∈ foldedFields, field.WellFormed) ∧ (fieldBytes foldedFields).length ≤ 58 ∧
      58 ≤ maxWord ∧
      ∃ after, readBlock 58 (.ofSource (.ofBytes
            (fieldBytes foldedFields ++ (LineBreak.lf.bytes ++ [0x2D, 0x2D]))) 3) =
          .ok [⟨"content-id", "a"⟩, ⟨"content-type", "b/c; d; é"⟩, ⟨"content-id", "f"⟩] after ∧
        after.Faces 59 [0x2D, 0x2D] ∧
        ∀ data start, TakesFirst foldedFields ⟨foldedFields.map Field.header, data, start⟩ := by
  have hfields : ∀ field ∈ foldedFields, field.WellFormed := by decide +kernel
  have hlength : (fieldBytes foldedFields).length = 58 := by decide +kernel
  have hfits : (fieldBytes foldedFields).length ≤ 58 := Nat.le_of_eq hlength
  have hheaders : foldedFields.map Field.header =
      [⟨"content-id", "a"⟩, ⟨"content-type", "b/c; d; é"⟩, ⟨"content-id", "f"⟩] := by
    decide +kernel
  obtain ⟨after, hread, hafter, hparts⟩ :=
    readBlock_folded hfields .lf hfits (by decide) (Cursor.faces_ofBytes _ 3)
  rw [hheaders] at hread
  rw [hlength] at hafter
  exact ⟨hfields, hfits, by decide, after, hread, hafter, hparts⟩

end Multipart.Header
