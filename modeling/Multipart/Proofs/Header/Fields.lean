import Multipart.Proofs.Header.Folded

/-! # Headers that are written

Headers written one to a line are read back as they are, with their names in lower case. They are
folded headers that have one piece each. -/

namespace Multipart

namespace Header

def line (header : Header) : List Char :=
  header.name.toList ++ ':' :: ' ' :: header.value.toList

def written (headers : List Header) : List Char :=
  headers.flatMap fun header => header.line ++ ['\r', '\n']

def lowered (header : Header) : Header :=
  { header with name := String.ofList (Text.lowerAscii header.name.toList) }

/-- A header that a line can hold: a name of printing characters other than space and colon, and a
value on one line without white space around it. -/
structure Writable (header : Header) : Prop where
  name : ∀ c ∈ header.name.toList, ' ' < c ∧ c < '\x7f' ∧ c ≠ ':'
  value : ∀ c ∈ header.value.toList, c ≠ '\r' ∧ c ≠ '\n'
  trimmed : Text.trim header.value.toList = header.value.toList

instance (header : Header) : Decidable header.Writable :=
  decidable_of_iff (header.name.toList.all (fun c => ' ' < c ∧ c < '\x7f' ∧ c ≠ ':') ∧
      header.value.toList.all (fun c => c ≠ '\r' ∧ c ≠ '\n') ∧
      Text.trim header.value.toList = header.value.toList) <| by
    simp only [List.all_eq_true, decide_eq_true_eq]
    exact ⟨fun ⟨hname, hvalue, htrimmed⟩ => ⟨hname, hvalue, htrimmed⟩,
      fun h => ⟨h.name, h.value, h.trimmed⟩⟩

def block (headers : List Header) : List UInt8 :=
  Text.Utf8.encode (written headers)

def asField (header : Header) : Field :=
  ⟨header.name.toList, ⟨[' '], header.value.toList, .crlf⟩, []⟩

variable {header : Header} {headers : List Header}

theorem Writable.wellFormed (h : header.Writable) : header.asField.WellFormed :=
  ⟨h.name, ⟨by simp [asField], h.value, Text.trimmed_iff.mpr h.trimmed⟩, by simp [asField]⟩

theorem header_asField (header : Header) : header.asField.header = header.lowered := by
  simp [asField, lowered, Field.header, Field.value]

theorem textOf_rows_asField (header : Header) :
    textOf header.asField.rows = header.line ++ ['\r', '\n'] := by
  simp [textOf, asField, Field.rows, Field.startLine, Piece.line, Row.written, Row.body,
    LineBreak.before, line]

/-- The bytes of headers are those of their fields. -/
theorem fieldBytes_asField (headers : List Header) :
    fieldBytes (headers.map asField) = block headers := by
  rw [fieldBytes, bytesOf, textOf, List.flatMap_map, List.flatMap_assoc, block, written]
  congr 2
  funext header
  exact textOf_rows_asField header

/-- A block of headers is read up to and including the blank line after it. -/
theorem readBlock_block {limit offset : Nat} {cursor : Cursor} {rest : List UInt8}
    (h : ∀ header ∈ headers, header.Writable) (hlimit : (block headers).length ≤ limit)
    (hword : (block headers).length ≤ maxWord)
    (hfaces : cursor.Faces offset (block headers ++ Octet.cr :: Octet.lf :: rest)) :
    ∃ after, readBlock limit cursor = .ok (headers.map lowered) after ∧
      after.Faces (offset + ((block headers).length + 2)) rest := by
  have hfields : ∀ field ∈ headers.map asField, field.WellFormed := by
    intro field hfield
    obtain ⟨header, hheader, rfl⟩ := List.mem_map.mp hfield
    exact (h header hheader).wellFormed
  have hheaders : (headers.map asField).map Field.header = headers.map lowered := by
    rw [List.map_map]
    exact List.map_congr_left fun header _ => header_asField header
  rw [← fieldBytes_asField] at hlimit hword hfaces ⊢
  rw [← hheaders]
  exact readBlock_fieldBytes hfields .crlf hlimit hword hfaces

end Header

end Multipart
