import Multipart.Proofs.Header.Extent
import Multipart.Proofs.Header.Unfolding
import Multipart.Proofs.Text.Charset

/-! # Blocks that are not UTF-8

A block that is not UTF-8 is read with one character for each byte, unless a byte order mark stands
at its start. ASCII headers in it come out as if nothing else were there. -/

namespace Multipart.Header

open Text.Utf8 (encode)
open Text.Charset (marks)
open Text.Windows1252 (lineText)

variable {lines front field back : List (List UInt8)} {block : List UInt8}

/-- What is read from a block with one character for each byte. -/
structure ReadsBytewise (block : List UInt8) (headers : List Header) : Prop where
  headers_eq : headers = unfold (Text.Windows1252.decode block)
  /-- ASCII lines that continue no header before them, and that no line after them continues, are
  read like a block of their own. -/
  ascii : ∀ front field back, Octet.lines block = front ++ (field ++ back) →
    (∀ line ∈ field, ∀ byte ∈ line, byte < 0x80) →
    independent (field.map lineText) → independent (back.map lineText) →
    headers = unfold (Text.Windows1252.decode front.flatten) ++
      (unfold (Text.Charset.decode field.flatten) ++
        unfold (Text.Windows1252.decode back.flatten))

/-- The text of lines is unfolded line by line. -/
theorem unfold_decode_flatten (h : Text.AreLines (· = Octet.lf) lines) :
    unfold (Text.Windows1252.decode lines.flatten) = unfoldLines (lines.map lineText) := by
  rw [unfold_eq, Text.Windows1252.lines_decode, Octet.lines, h]

theorem readsBytewise_unfold (block : List UInt8) :
    ReadsBytewise block (unfold (Text.Windows1252.decode block)) := by
  refine ⟨rfl, ?_⟩
  intro front field back hlines hascii hfield hback
  -- The lines of the block are still lines when some of them stand alone.
  have hall := Text.areLines_cutLines (· = Octet.lf) block
  have hflatten := Text.flatten_cutLines (· = Octet.lf) block
  rw [Octet.lines] at hlines
  rw [hlines] at hall hflatten
  obtain ⟨hfront, hrest⟩ := hall.append
  obtain ⟨hlinesField, hlinesBack⟩ := hrest.append
  have hboth : independent ((field ++ back).map lineText) := by
    rw [List.map_append]
    exact independent_append hfield hback
  have hsame : Text.Charset.decode field.flatten = Text.Windows1252.decode field.flatten := by
    apply Text.Charset.decode_of_ascii
    intro byte hbyte
    obtain ⟨line, hline, hmem⟩ := List.mem_flatten.mp hbyte
    exact hascii line hline byte hmem
  calc unfold (Text.Windows1252.decode block)
      = unfoldLines ((front ++ (field ++ back)).map lineText) := by
        rw [← hflatten, unfold_decode_flatten hall]
    _ = unfoldLines (front.map lineText) ++
          (unfoldLines (field.map lineText) ++ unfoldLines (back.map lineText)) := by
        rw [List.map_append, unfoldLines_append hboth, List.map_append, unfoldLines_append hback]
    _ = _ := by
        rw [hsame, unfold_decode_flatten hfront, unfold_decode_flatten hlinesField,
          unfold_decode_flatten hlinesBack]

/-- A block that is not UTF-8 and starts with no byte order mark is read with one character for each
byte, on whatever stream its lines are taken, and on every stream without faults that holds it
within the limit. -/
theorem readBlock_bytewise (hutf8 : ∀ text, encode text ≠ block)
    (hmark : ∀ mark ∈ marks, ¬mark <+: block) :
    ∃ headers, ReadsBytewise block headers ∧
      (∀ limit cursor lines after, readLines limit [] 0 cursor = .ok lines after →
        lines.flatten = block → readBlock limit cursor = .ok headers after) ∧
      ∀ limit cursor offset text, Cursor.Faces cursor offset text → blockBytes text = block →
        block.length ≤ limit → limit ≤ maxWord →
        ∃ after, readBlock limit cursor = .ok headers after ∧
          after.Faces (offset + extent text) (text.drop (extent text)) := by
  have hdecode := Text.Charset.decode_of_not_utf8 hutf8 hmark
  refine ⟨_, readsBytewise_unfold block, ?_, ?_⟩
  · rintro limit cursor lines after hlines rfl
    rw [readBlock, hlines]
    simp only [hdecode]
  · rintro limit cursor offset text hfaces rfl hfits hword
    rw [← hdecode]
    exact readBlock_of_fits hfaces hfits (Nat.le_trans hfits hword)

def accentedNote : List UInt8 :=
  encode "X-Note: caf".toList ++ 0xE9 :: encode "\r\nContent-Id: <a>\r\n".toList

theorem readBlock_bytewise_accented_note :
    (∀ text, encode text ≠ accentedNote) ∧ (∀ mark ∈ marks, ¬mark <+: accentedNote) ∧
      ∃ headers, ReadsBytewise accentedNote headers ∧
        headers = [⟨"x-note", "café"⟩, ⟨"content-id", "<a>"⟩] ∧
        ∃ after, readBlock 64 (.ofSource (.ofBytes (accentedNote ++ encode "\r\nbody".toList))) =
            .ok headers after ∧ after.Faces 33 (encode "body".toList) := by
  have hutf8 : ∀ text, encode text ≠ accentedNote :=
    Text.Utf8.decode?_eq_none_iff.mp (by decide +kernel)
  have hmark : ∀ mark ∈ marks, ¬mark <+: accentedNote := by decide +kernel
  obtain ⟨headers, hheaders, -, hread⟩ := readBlock_bytewise hutf8 hmark
  have hvalues : unfold (Text.Windows1252.decode accentedNote) =
      [⟨"x-note", "café"⟩, ⟨"content-id", "<a>"⟩] := by decide +kernel
  refine ⟨hutf8, hmark, headers, hheaders, ?_, ?_⟩
  · rw [hheaders.headers_eq, hvalues]
  · exact hread 64 _ 0 _ (Cursor.faces_ofBytes _ _) (by decide +kernel) (by decide +kernel)
      (by decide)

/-- A content id after a header whose name starts with a byte order mark. -/
def markedBlock : List UInt8 :=
  0xFF :: 0xFE :: encode "X: y\r\nContent-Id: <a>\r\n".toList

/-- After a mark no byte is a character of its own: the content id is lost. -/
theorem not_readBlock_bytewise :
    ¬∀ limit cursor lines after, readLines limit [] 0 cursor = .ok lines after →
      (∀ text, encode text ≠ lines.flatten) →
      readBlock limit cursor = .ok (unfold (Text.Windows1252.decode lines.flatten)) after := by
  intro hbytewise
  have hfaces := Cursor.faces_ofBytes markedBlock 8
  have hfits : (blockBytes markedBlock).length ≤ 64 := by decide +kernel
  have hutf8 : Text.Utf8.decode? (blockBytes markedBlock) = none := by decide +kernel
  have hlost : unfold (Text.Charset.decode (blockBytes markedBlock)) = [] := by decide +kernel
  have hkept : unfold (Text.Windows1252.decode (blockBytes markedBlock)) =
      [⟨"ÿþx", "y"⟩, ⟨"content-id", "<a>"⟩] := by decide +kernel
  have hword : (blockBytes markedBlock).length ≤ maxWord := Nat.le_trans hfits (by decide)
  have hsize : 0 + (blockBytes markedBlock).length ≤ 64 := by rwa [Nat.zero_add]
  obtain ⟨after, hlines, -⟩ := readLines_of_fits [] hfaces hsize hword
  obtain ⟨other, hactual, -⟩ := readBlock_of_fits hfaces hfits hword
  have hread : readBlock 64 _ =
      .ok (unfold (Text.Windows1252.decode (blockBytes markedBlock))) after :=
    hbytewise _ _ _ _ hlines (Text.Utf8.decode?_eq_none_iff.mp hutf8)
  rw [hactual, hlost, hkept] at hread
  cases hread

end Multipart.Header
