import Multipart.Proofs.Header.Rows
import Multipart.Proofs.Header.Trimming

/-! # Lines that are left out

A line without a colon that continues no header is left out: a block without it has the same
headers. The lines that continue it are not left out. They continue the header before it, so that
a block without them has other headers unless no header stands before them. -/

namespace Multipart.Header

open Text.Utf8 (encode)

/-- Whether some bytes are a block by themselves: none of their lines is blank. -/
def IsBlock (block : List UInt8) : Prop :=
  ∀ line ∈ Octet.lines block, ¬isBlankLine line

instance (block : List UInt8) : Decidable (IsBlock block) :=
  inferInstanceAs (Decidable (∀ line ∈ Octet.lines block, ¬isBlankLine line))

/-- What is read from a block: whenever its lines are taken from a stream, and on every stream
without faults that holds it within the limit. -/
structure ReadAs (block : List UInt8) (headers : List Header) : Prop where
  ofLines : ∀ limit cursor lines after, readLines limit [] 0 cursor = .ok lines after →
    lines.flatten = block → readBlock limit cursor = .ok headers after
  ofStream : ∀ limit cursor offset text, Cursor.Faces cursor offset text →
    blockBytes text = block → block.length ≤ limit → limit ≤ maxWord →
    ∃ after, readBlock limit cursor = .ok headers after ∧
      after.Faces (offset + extent text) (text.drop (extent text))

variable {line : List Char} {front folds back : List (List Char)} {draft : Draft}
  {text : List Char} {block : List UInt8}

/-! ## Blocks -/

theorem blockBytes_of_isBlock (h : IsBlock block) : blockBytes block = block := by
  have hall : blockLines block = Octet.lines block := by
    have hnone : ∀ line ∈ Octet.lines block, !isBlankLine line := by simpa [IsBlock] using h
    rw [blockLines, ← List.append_nil (Octet.lines block), List.takeWhile_append_of_pos hnone,
      List.takeWhile_nil]
  rw [blockBytes, hall, Octet.lines, Text.flatten_cutLines]

theorem readAs_unfold (text : List Char) : ReadAs (encode text) (unfold text) := by
  have hdecode : Text.Charset.decode (encode text) = text := by
    rw [Text.Charset.decode, Text.Utf8.decode?_encode, Option.getD_some]
  constructor
  · intro limit cursor lines after hlines hflatten
    rw [readBlock, hlines]
    simp only [hflatten, hdecode]
  · intro limit cursor offset stream hfaces hblock hfits hword
    rw [← hblock] at hfits
    rw [← hdecode, ← hblock]
    exact readBlock_of_fits hfaces hfits (Nat.le_trans hfits hword)

/-- Lines that are left of the lines of a block are a block. -/
theorem isBlock_of_subset {lines others : List (List Char)}
    (h : Text.AreLines (· = '\n') lines) (hsubset : lines ⊆ others)
    (hothers : Text.AreLines (· = '\n') others) (hblock : IsBlock (encode others.flatten)) :
    IsBlock (encode lines.flatten) := by
  rw [IsBlock, lines_encode, hothers] at hblock
  rw [IsBlock, lines_encode, h]
  intro row hrow
  obtain ⟨line, hline, rfl⟩ := List.mem_map.mp hrow
  exact hblock _ (List.mem_map_of_mem (hsubset hline))

theorem unfold_flatten {lines : List (List Char)} (h : Text.AreLines (· = '\n') lines) :
    unfold lines.flatten = unfoldLines (lines.map Text.stripEnd) := by
  rw [unfold_eq, Text.lines_eq_map, h]

/-! ## Lines with their line ends -/

theorem isContinuation_stripEnd (line : List Char) :
    isContinuation (Text.stripEnd line) = isContinuation line := by
  obtain ⟨lineEnd, hline, hend⟩ := Text.exists_lineEnd line
  generalize Text.stripEnd line = body at hline
  rw [hline]
  cases body with
  | cons c body => rfl
  | nil =>
      cases lineEnd with
      | nil => rfl
      | cons c lineEnd =>
          rcases hend c List.mem_cons_self with rfl | rfl <;> rfl

theorem mem_stripEnd_iff (line : List Char) : ':' ∈ Text.stripEnd line ↔ ':' ∈ line := by
  obtain ⟨lineEnd, hline, hend⟩ := Text.exists_lineEnd line
  have hnone : ':' ∉ lineEnd := by
    intro hmem
    rcases hend _ hmem with heq | heq <;> cases heq
  generalize Text.stripEnd line = body at hline
  rw [hline, List.mem_append, or_iff_left hnone]

theorem startsHeader_stripEnd (line : List Char) :
    startsHeader (Text.stripEnd line) = startsHeader line := by
  rw [startsHeader, startsHeader, isContinuation_stripEnd, Bool.eq_iff_iff, Bool.and_eq_true,
    Bool.and_eq_true, List.contains_iff_mem, List.contains_iff_mem, mem_stripEnd_iff]

/-! ## Continuation lines that are taken out -/

/-- A value gets longer with each piece. -/
theorem header_ne_of_pieces {more later : List (List Char)} (hmore : more ≠ [])
    (hpieces : draft.pieces ≠ []) :
    Draft.header { draft with pieces := later ++ draft.pieces } ≠
      Draft.header { draft with pieces := later ++ (more ++ draft.pieces) } := by
  intro heq
  have hlength := congrArg (fun header => header.value.toList.length + 1) heq
  simp only [Draft.header, String.toList_ofList] at hlength
  rw [Text.length_intercalate (by simp [hpieces]),
    Text.length_intercalate (by simp [hpieces])] at hlength
  obtain ⟨piece, more, rfl⟩ := List.exists_cons_of_ne_nil hmore
  simp only [List.reverse_append, List.reverse_cons, List.flatMap_append, List.flatMap_cons,
    List.length_append, List.length_cons] at hlength
  omega

/-- Continuation lines make a difference exactly if there are any and a header stands before
them. -/
theorem unfoldLines_folds_iff (hfolds : ∀ fold ∈ folds, isContinuation fold) :
    unfoldLines (front ++ back) = unfoldLines (front ++ (folds ++ back)) ↔
      folds = [] ∨ ∀ other ∈ front, ¬startsHeader other := by
  rw [← foldl_addLine_eq_nil_iff]
  simp only [unfoldLines, List.foldl_append]
  cases hfront : front.foldl addLine [] with
  | nil =>
      have hnone : folds.foldl addLine [] = [] := by
        rw [foldl_addLine_eq_nil_iff]
        intro fold hfold
        simp [startsHeader, hfolds fold hfold]
      simp [hnone]
  | cons last rest =>
      have hnone : ∀ draft ∈ ([] : List Draft), draft.Tidy := by simp
      have htidy : last.Tidy := by
        apply tidy_foldl hnone front
        rw [hfront]
        exact List.mem_cons_self
      obtain ⟨later, pieces, hback⟩ := exists_foldl_addLine back
      rw [foldl_addLine_of_isContinuation hfolds, hback, hback]
      constructor
      · intro heq
        simp only [List.map_append, List.map_cons, List.reverse_inj, List.append_cancel_left_eq,
          List.cons.injEq, and_true] at heq
        refine .inl (Decidable.byContradiction fun hne => ?_)
        exact header_ne_of_pieces (by simpa using hne) htidy.pieces_ne_nil heq
      · rintro (rfl | hnil)
        · rfl
        · cases hnil

/-! ## Blocks with lines taken out -/

/-- What is read from a block after a line of it is taken out, and after its continuation lines are
taken out too. -/
structure Omits (text : List Char) (front folds back : List (List Char)) : Prop where
  reads : ReadAs (encode text) (unfold text)
  isBlock_line : IsBlock (encode (front ++ (folds ++ back)).flatten)
  /-- Without the line the headers are the same. -/
  line : ReadAs (encode (front ++ (folds ++ back)).flatten) (unfold text)
  isBlock_folds : IsBlock (encode (front ++ back).flatten)
  folds : ∃ headers, ReadAs (encode (front ++ back).flatten) headers ∧
    (headers = unfold text ↔ folds = [] ∨ ∀ other ∈ front, ¬startsHeader other)

/-- A line without a colon that continues no header can be taken out of a block without effect. It
can be taken out together with continuation lines after it exactly if there are none or no line
before it starts a header. -/
theorem readBlock_omits (hblock : IsBlock (encode text))
    (hlines : Text.cutLines (· = '\n') text = front ++ (line :: (folds ++ back)))
    (hcolon : ':' ∉ line) (hline : ¬isContinuation line)
    (hfolds : ∀ fold ∈ folds, isContinuation fold) : Omits text front folds back := by
  have hall : Text.AreLines (· = '\n') (front ++ (line :: (folds ++ back))) := by
    rw [← hlines]
    exact Text.areLines_cutLines _ text
  have htext : (front ++ (line :: (folds ++ back))).flatten = text := by
    rw [← hlines, Text.flatten_cutLines]
  have hrest : Text.AreLines (· = '\n') (front ++ (folds ++ back)) := by
    rw [← List.singleton_append] at hall
    exact hall.remove (List.cons_ne_nil _ _)
  have hkept : Text.AreLines (· = '\n') (front ++ back) := by
    rw [← List.cons_append] at hall
    exact hall.remove (List.cons_ne_nil _ _)
  rw [← htext] at hblock
  -- Only the texts of the lines matter, without their line ends.
  have hstripped : unfold text = unfoldLines
      (front.map Text.stripEnd ++ (folds.map Text.stripEnd ++ back.map Text.stripEnd)) := by
    rw [← htext, unfold_flatten hall, List.map_append, List.map_cons, List.map_append]
    apply unfoldLines_omit
    · rw [startsHeader_stripEnd]
      simp [startsHeader, hcolon]
    · rwa [isContinuation_stripEnd]
  have hsame : unfold (front ++ (folds ++ back)).flatten = unfold text := by
    rw [hstripped, unfold_flatten hrest, List.map_append, List.map_append]
  refine ⟨readAs_unfold text, isBlock_of_subset hrest (by grind) hall hblock, ?_,
    isBlock_of_subset hkept (by grind) hall hblock, _, readAs_unfold _, ?_⟩
  · rw [← hsame]
    exact readAs_unfold _
  · have hstrip : ∀ fold ∈ folds.map Text.stripEnd, isContinuation fold := by
      intro fold hfold
      obtain ⟨row, hrow, rfl⟩ := List.mem_map.mp hfold
      rw [isContinuation_stripEnd]
      exact hfolds row hrow
    rw [hstripped, unfold_flatten hkept, List.map_append, unfoldLines_folds_iff hstrip]
    simp [startsHeader_stripEnd]

def idLine : List Char := "Content-Id: <a>\r\n".toList

def strayLine : List Char := "stray\r\n".toList

def strayFold : List Char := " x\r\n".toList

/-- A content id, and a line without a colon that is folded. -/
def strayBlock : List Char := idLine ++ strayLine ++ strayFold

theorem readBlock_omits_stray :
    IsBlock (encode strayBlock) ∧
      Text.cutLines (· = '\n') strayBlock = [idLine] ++ (strayLine :: ([strayFold] ++ [])) ∧
      ':' ∉ strayLine ∧ ¬isContinuation strayLine ∧
      (∀ fold ∈ [strayFold], isContinuation fold) ∧
      Omits strayBlock [idLine] [strayFold] [] ∧
      unfold strayBlock = [⟨"content-id", "<a> x"⟩] := by
  have hblock : IsBlock (encode strayBlock) := by decide +kernel
  have hlines : Text.cutLines (· = '\n') strayBlock =
      [idLine] ++ (strayLine :: ([strayFold] ++ [])) := by decide +kernel
  have hcolon : ':' ∉ strayLine := by decide +kernel
  have hline : ¬isContinuation strayLine := by decide +kernel
  have hfolds : ∀ fold ∈ [strayFold], isContinuation fold := by decide +kernel
  exact ⟨hblock, hlines, hcolon, hline, hfolds,
    readBlock_omits hblock hlines hcolon hline hfolds, by decide +kernel⟩

/-- A continuation line of a line that is left out changes the value of the header before. -/
theorem not_readBlock_omits_folds :
    ¬∀ text front line folds back, IsBlock (encode text) →
      Text.cutLines (· = '\n') text = front ++ (line :: (folds ++ back)) → ':' ∉ line →
      ¬isContinuation line → (∀ fold ∈ folds, isContinuation fold) →
      (∀ next ∈ back.head?, ¬isContinuation next) →
      ∀ limit cursor other headers after others last,
        Cursor.Faces cursor 0 (encode text) →
        Cursor.Faces other 0 (encode (front ++ back).flatten) →
        readBlock limit cursor = .ok headers after → readBlock limit other = .ok others last →
        others = headers := by
  intro hsame
  have hread : ∀ text : List Char, IsBlock (encode text) → (encode text).length ≤ 64 →
      ∃ after, readBlock 64 (.ofSource (.ofBytes (encode text))) = .ok (unfold text) after := by
    intro text hblock hfits
    obtain ⟨after, hread, -⟩ := (readAs_unfold text).ofStream 64 _ 0 _
      (Cursor.faces_ofBytes _ _) (blockBytes_of_isBlock hblock) hfits (by decide)
    exact ⟨after, hread⟩
  obtain ⟨after, hfirst⟩ := hread strayBlock (by decide +kernel) (by decide +kernel)
  obtain ⟨last, hsecond⟩ := hread ([idLine] ++ []).flatten (by decide +kernel) (by decide +kernel)
  have heq := hsame strayBlock [idLine] strayLine [strayFold] [] (by decide +kernel)
    (by decide +kernel) (by decide +kernel) (by decide +kernel) (by decide +kernel)
    (by decide +kernel) 64 _ _ _ _ _ _ (Cursor.faces_ofBytes _ _) (Cursor.faces_ofBytes _ _)
    hfirst hsecond
  exact absurd heq (by decide +kernel)

end Multipart.Header
