import Multipart.Proofs.Header.Extent
import Multipart.Proofs.Header.Unfolding

/-! # White space around names and values

Every name that is read is trimmed. A value is made of trimmed pieces that are joined by spaces, so
it is trimmed too unless it is folded and an empty piece stands at an end. A folded header reads
like the same header on one line exactly if its value is trimmed. -/

namespace Multipart.Header

open Text (Trimmed trim)

/-- The headers of a text with the pieces of their values, in its order. -/
def draftsOf (text : List Char) : List Draft :=
  ((Text.lines text).foldl addLine []).reverse

theorem unfold_eq_map (text : List Char) : unfold text = (draftsOf text).map Draft.header := by
  rw [unfold, draftsOf, List.map_reverse]

/-- The value stands on one line, or neither its first piece nor its last is empty. -/
def Draft.FullAtEnds (draft : Draft) : Prop :=
  draft.pieces.length = 1 ∨ draft.pieces.getLast? ≠ some [] ∧ draft.pieces.head? ≠ some []

instance (draft : Draft) : Decidable draft.FullAtEnds := by
  unfold Draft.FullAtEnds
  infer_instance

/-- A header on one line, its pieces joined by single spaces. -/
def onOneLine (line : List Char) (folds : List (List Char)) : List Char :=
  beforeColon line ++ ':' :: List.intercalate [' '] (trim (afterColon line) :: folds.map trim)

variable {line : List Char} {folds front back : List (List Char)} {drafts : List Draft}
  {draft : Draft} {headers : List Header}

/-! ## Pieces -/

structure Draft.Tidy (draft : Draft) : Prop where
  name : Trimmed draft.name
  pieces : ∀ piece ∈ draft.pieces, Trimmed piece
  pieces_ne_nil : draft.pieces ≠ []

theorem tidy_addLine (h : ∀ draft ∈ drafts, draft.Tidy) (line : List Char) :
    ∀ draft ∈ addLine drafts line, draft.Tidy := by
  rcases addLine_cases drafts line with heq | heq | ⟨last, rest, rfl, heq⟩
  · rw [heq, List.forall_mem_cons]
    refine ⟨⟨(Text.trimmed_trim _).lower, ?_, List.cons_ne_nil _ _⟩, h⟩
    intro piece hpiece
    rw [List.mem_singleton.mp hpiece]
    exact Text.trimmed_trim _
  · rwa [heq]
  · rw [List.forall_mem_cons] at h
    rw [heq, List.forall_mem_cons]
    refine ⟨⟨h.1.name, ?_, List.cons_ne_nil _ _⟩, h.2⟩
    rw [List.forall_mem_cons]
    exact ⟨Text.trimmed_trim line, h.1.pieces⟩

theorem tidy_foldl (h : ∀ draft ∈ drafts, draft.Tidy) (lines : List (List Char)) :
    ∀ draft ∈ lines.foldl addLine drafts, draft.Tidy := by
  induction lines generalizing drafts with
  | nil => exact h
  | cons line lines ih => exact ih (tidy_addLine h line)

theorem tidy_of_mem_draftsOf {text : List Char} (h : draft ∈ draftsOf text) : draft.Tidy :=
  tidy_foldl (fun _ hnone => absurd hnone List.not_mem_nil) _ draft (List.mem_reverse.mp h)

theorem Draft.Tidy.trimmed_name (h : draft.Tidy) : Trimmed draft.header.name.toList := by
  rw [Draft.header, String.toList_ofList]
  exact h.name

theorem Draft.Tidy.trimmed_value_iff (h : draft.Tidy) :
    Trimmed draft.header.value.toList ↔ draft.FullAtEnds := by
  have hpos := List.length_pos_iff.mpr h.pieces_ne_nil
  rw [Draft.header, String.toList_ofList]
  by_cases hone : draft.pieces.length = 1
  · obtain ⟨piece, hpiece⟩ := List.length_eq_one_iff.mp hone
    have htrimmed := h.pieces piece (by simp [hpiece])
    rw [hpiece, List.reverse_singleton, List.intercalate_singleton]
    exact ⟨fun _ => .inl hone, fun _ => htrimmed⟩
  · have hmore : 1 < draft.pieces.reverse.length := by
      rw [List.length_reverse]
      omega
    have hpieces : ∀ piece ∈ draft.pieces.reverse, Trimmed piece := by
      intro piece hpiece
      exact h.pieces piece (List.mem_reverse.mp hpiece)
    rw [Text.trimmed_intercalate_iff hmore hpieces, List.head?_reverse, List.getLast?_reverse]
    exact (or_iff_right hone).symm

/-! ## Folded and on one line -/

theorem startsHeader_onOneLine (h : startsHeader line) (folds : List (List Char)) :
    startsHeader (onOneLine line folds) := by
  simp only [startsHeader, Bool.and_eq_true, Bool.not_eq_true', List.contains_iff_mem] at h ⊢
  obtain ⟨hfold, hcolon⟩ := h
  obtain ⟨name, value, rfl, hname⟩ := List.eq_append_cons_of_mem hcolon
  rw [onOneLine, beforeColon_append value hname]
  refine ⟨?_, by simp⟩
  cases name with
  | nil => rfl
  | cons c name => exact hfold

theorem ofField_onOneLine (h : startsHeader line) (folds : List (List Char)) :
    ofField (onOneLine line folds) [] =
      { ofField line folds with
        value := String.ofList (trim (ofField line folds).value.toList) } := by
  have hcolon : ':' ∈ line := by
    simp only [startsHeader, Bool.and_eq_true, List.contains_iff_mem] at h
    exact h.2
  obtain ⟨name, value, rfl, hname⟩ := List.eq_append_cons_of_mem hcolon
  simp only [onOneLine, ofField, Draft.header, beforeColon_append _ hname,
    afterColon_append _ hname, List.reverse_reverse, List.map_nil, List.intercalate_singleton,
    String.toList_ofList]

/-- A folded header reads like the same header on one line if and only if its value is trimmed. -/
theorem unfoldLines_onOneLine_iff (hline : startsHeader line)
    (hfolds : ∀ fold ∈ folds, isContinuation fold)
    (hback : independent back) :
    unfoldLines (front ++ (onOneLine line folds :: back)) =
        unfoldLines (front ++ (line :: folds ++ back)) ↔
      Trimmed (ofField line folds).value.toList := by
  have hfield : unfoldLines (line :: folds ++ back) =
      unfoldLines (line :: folds) ++ unfoldLines back := unfoldLines_append hback
  have hone : unfoldLines ([onOneLine line folds] ++ back) =
      unfoldLines [onOneLine line folds] ++ unfoldLines back := unfoldLines_append hback
  have hstarts := startsHeader_onOneLine hline folds
  rw [unfoldLines_field hline hfolds] at hfield
  rw [unfoldLines_field hstarts (by simp), ofField_onOneLine hline] at hone
  -- The headers before and after are the same, and the names are: the values are left.
  rw [unfoldLines_append (by simp [independent_cons, hstarts]),
    unfoldLines_append (by simp [independent_cons, hline]),
    ← List.singleton_append, hone, hfield, List.append_cancel_left_eq,
    List.append_cancel_right_eq, List.cons.injEq, Text.trimmed_iff]
  simp only [and_true]
  constructor
  · intro heq
    have hvalue := congrArg (fun header => header.value.toList) heq
    rwa [String.toList_ofList] at hvalue
  · intro htrim
    rw [htrim, String.ofList_toList]

/-! ## Blocks -/

structure Trims (text : List Char) (headers : List Header) : Prop where
  names : ∀ header ∈ headers, Trimmed header.name.toList
  headers_eq : headers = (draftsOf text).map Draft.header
  values : ∀ draft ∈ draftsOf text,
    Trimmed draft.header.value.toList ↔ draft.FullAtEnds
  /-- A header that is folded reads the same on one line if its value is trimmed. -/
  oneLine : ∀ front line folds back, Text.lines text = front ++ (line :: folds ++ back) →
    startsHeader line → (∀ fold ∈ folds, isContinuation fold) → independent back →
    (unfoldLines (front ++ (onOneLine line folds :: back)) = headers ↔
      Trimmed (ofField line folds).value.toList)

theorem trims_unfold (text : List Char) : Trims text (unfold text) := by
  constructor
  · intro header hheader
    rw [unfold_eq_map] at hheader
    obtain ⟨draft, hdraft, rfl⟩ := List.mem_map.mp hheader
    exact (tidy_of_mem_draftsOf hdraft).trimmed_name
  · exact unfold_eq_map text
  · intro draft hdraft
    exact (tidy_of_mem_draftsOf hdraft).trimmed_value_iff
  · intro front line folds back hlines hline hfolds hback
    rw [unfold_eq, hlines]
    exact unfoldLines_onOneLine_iff hline hfolds hback

/-- The headers of every block that is read have trimmed names, and trimmed values but for those
that are folded with an empty piece at an end. -/
theorem readBlock_trims {limit : Nat} {cursor after : Cursor}
    (h : readBlock limit cursor = .ok headers after) :
    ∃ lines, readLines limit [] 0 cursor = .ok lines after ∧
      Trims (Text.Charset.decode lines.flatten) headers := by
  rw [readBlock] at h
  split at h
  · contradiction
  · rename_i lines last hlines
    cases h
    exact ⟨lines, hlines, trims_unfold _⟩

/-- A content id that starts on the line after its name. -/
def lateContentId : List UInt8 :=
  Text.Utf8.encode "Content-Id:\r\n <a>\r\n\r\n".toList

theorem readBlock_lateContentId :
    ∃ after, readBlock 64 (.ofSource (.ofBytes lateContentId)) =
      .ok [⟨"content-id", " <a>"⟩] after := by
  have hfits : (blockBytes lateContentId).length ≤ 64 := by decide +kernel
  obtain ⟨after, hread, -⟩ := readBlock_of_fits (Cursor.faces_ofBytes lateContentId _) hfits
    (Nat.le_trans hfits (by decide))
  have hheaders : unfold (Text.Charset.decode (blockBytes lateContentId)) =
      [⟨"content-id", " <a>"⟩] := by decide +kernel
  exact ⟨after, by rw [hread, hheaders]⟩

theorem readBlock_trims_late_content_id :
    ∃ headers after, readBlock 64 (.ofSource (.ofBytes lateContentId)) = .ok headers after ∧
      ∃ lines, readLines 64 [] 0 (.ofSource (.ofBytes lateContentId)) = .ok lines after ∧
        Trims (Text.Charset.decode lines.flatten) headers := by
  obtain ⟨after, hread⟩ := readBlock_lateContentId
  exact ⟨_, after, hread, readBlock_trims hread⟩

/-- A value that starts on a continuation line keeps the space before it. -/
theorem not_readBlock_trimmed :
    ¬∀ limit cursor headers after, readBlock limit cursor = .ok headers after →
      ∀ header ∈ headers, Trimmed header.name.toList ∧ Trimmed header.value.toList := by
  intro htrimmed
  obtain ⟨after, hread⟩ := readBlock_lateContentId
  have hvalue := (htrimmed _ _ _ _ hread _ List.mem_cons_self).2
  exact absurd hvalue (by decide +kernel)

end Multipart.Header
