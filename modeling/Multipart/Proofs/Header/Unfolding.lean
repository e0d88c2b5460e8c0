import Multipart.Header
import Multipart.Proofs.Text.Trim

/-! # Headers from lines

Unfolding goes line by line: a line starts a header, continues the one before, or is left out. A
header is made of the line that starts it and its continuation lines, whatever lines stand before
it. Its name is trimmed, and so is each piece of its value. -/

namespace Multipart.Header

def startsHeader (line : List Char) : Bool :=
  !isContinuation line && line.contains ':'

/-- Whether lines continue no header before them: no continuation line stands before the first line
that starts a header. -/
def independent (lines : List (List Char)) : Bool :=
  (lines.takeWhile fun line => !startsHeader line).all fun line => !isContinuation line

def beforeColon (line : List Char) : List Char :=
  line.takeWhile (· ≠ ':')

def afterColon (line : List Char) : List Char :=
  (line.dropWhile (· ≠ ':')).tail

/-- The header of a line with a colon and of its continuation lines. -/
def ofField (line : List Char) (folds : List (List Char)) : Header :=
  Draft.header ⟨Text.lower (Text.trim (beforeColon line)),
    (Text.trim (afterColon line) :: folds.map Text.trim).reverse⟩

def unfoldLines (lines : List (List Char)) : List Header :=
  ((lines.foldl addLine []).map Draft.header).reverse

theorem unfold_eq (text : List Char) : unfold text = unfoldLines (Text.lines text) := rfl

variable {line : List Char} {folds front back lines : List (List Char)} {drafts others : List Draft}
  {draft : Draft}

/-! ## One line -/

theorem dropWhile_colon {name : List Char} (value : List Char) (h : ':' ∉ name) :
    (name ++ ':' :: value).dropWhile (· ≠ ':') = ':' :: value := by
  rw [List.dropWhile_append_of_pos]
  · rfl
  · intro c hc
    simpa using ne_of_mem_of_not_mem hc h

theorem beforeColon_append {name : List Char} (value : List Char) (h : ':' ∉ name) :
    beforeColon (name ++ ':' :: value) = name := by
  rw [beforeColon, List.takeWhile_append_of_pos]
  · simp
  · intro c hc
    simpa using ne_of_mem_of_not_mem hc h

theorem afterColon_append {name : List Char} (value : List Char) (h : ':' ∉ name) :
    afterColon (name ++ ':' :: value) = value := by
  rw [afterColon, dropWhile_colon value h, List.tail_cons]

theorem ofLine?_of_mem (h : ':' ∈ line) :
    Draft.ofLine? line =
      some ⟨Text.lower (Text.trim (beforeColon line)), [Text.trim (afterColon line)]⟩ := by
  obtain ⟨name, value, rfl, hname⟩ := List.eq_append_cons_of_mem h
  rw [afterColon_append value hname, Draft.ofLine?, dropWhile_colon value hname]
  rfl

theorem ofLine?_of_not_mem (h : ':' ∉ line) : Draft.ofLine? line = none := by
  have hall : line.dropWhile (· ≠ ':') = [] := by
    rw [← List.append_nil line, List.dropWhile_append_of_pos]
    · rfl
    · intro c hc
      simpa using ne_of_mem_of_not_mem hc h
  rw [Draft.ofLine?, hall]

theorem addLine_of_startsHeader (h : startsHeader line) (drafts : List Draft) :
    addLine drafts line =
      ⟨Text.lower (Text.trim (beforeColon line)), [Text.trim (afterColon line)]⟩ :: drafts := by
  simp only [startsHeader, Bool.and_eq_true, Bool.not_eq_true', List.contains_iff_mem] at h
  simp only [addLine, h.1, Bool.false_eq_true, ite_false, ofLine?_of_mem h.2]

theorem addLine_of_isContinuation (h : isContinuation line) (draft : Draft)
    (drafts : List Draft) :
    addLine (draft :: drafts) line =
      { draft with pieces := Text.trim line :: draft.pieces } :: drafts := by
  simp only [addLine, h, ite_true]

/-- A line without a colon that continues nothing is left out. -/
theorem addLine_of_not_startsHeader (hstarts : ¬startsHeader line) (hfold : ¬isContinuation line)
    (drafts : List Draft) : addLine drafts line = drafts := by
  have hcolon : ':' ∉ line := by
    simpa [startsHeader, hfold] using hstarts
  simp only [addLine, hfold, ofLine?_of_not_mem hcolon, Bool.false_eq_true, ite_false]

/-- A line starts a header, is left out, or continues the last header. -/
theorem addLine_cases (drafts : List Draft) (line : List Char) :
    addLine drafts line =
        ⟨Text.lower (Text.trim (beforeColon line)), [Text.trim (afterColon line)]⟩ :: drafts ∨
      addLine drafts line = drafts ∨
      ∃ last rest, drafts = last :: rest ∧
        addLine drafts line = { last with pieces := Text.trim line :: last.pieces } :: rest := by
  by_cases hfold : isContinuation line
  · cases drafts with
    | nil => exact .inr (.inl (by simp only [addLine, hfold, ite_true]))
    | cons last rest =>
        exact .inr (.inr ⟨last, rest, rfl, addLine_of_isContinuation hfold last rest⟩)
  · by_cases hstarts : startsHeader line
    · exact .inl (addLine_of_startsHeader hstarts drafts)
    · exact .inr (.inl (addLine_of_not_startsHeader hstarts hfold drafts))

/-! ## Lines one after another -/

theorem addLine_ne_nil (h : drafts ≠ []) (line : List Char) : addLine drafts line ≠ [] := by
  rcases addLine_cases drafts line with heq | heq | ⟨last, rest, -, heq⟩
  · simp [heq]
  · rwa [heq]
  · simp [heq]

/-- A line reaches no further back than the last header. -/
theorem addLine_append (h : drafts ≠ []) (others : List Draft) (line : List Char) :
    addLine (drafts ++ others) line = addLine drafts line ++ others := by
  obtain ⟨last, rest, rfl⟩ := List.exists_cons_of_ne_nil h
  by_cases hfold : isContinuation line
  · rw [List.cons_append, addLine_of_isContinuation hfold, addLine_of_isContinuation hfold]
    rfl
  · simp only [addLine, hfold, Bool.false_eq_true, ite_false]
    cases Draft.ofLine? line <;> rfl

theorem foldl_addLine_append (h : drafts ≠ []) (others : List Draft) (lines : List (List Char)) :
    lines.foldl addLine (drafts ++ others) = lines.foldl addLine drafts ++ others := by
  induction lines generalizing drafts with
  | nil => rfl
  | cons line lines ih =>
      rw [List.foldl_cons, List.foldl_cons, addLine_append h, ih (addLine_ne_nil h line)]

theorem independent_cons (line : List Char) (lines : List (List Char)) :
    independent (line :: lines) =
      (startsHeader line || !isContinuation line && independent lines) := by
  rw [independent, List.takeWhile_cons]
  cases startsHeader line <;> rfl

theorem independent_append (hfront : independent front) (hback : independent back) :
    independent (front ++ back) := by
  induction front with
  | nil => exact hback
  | cons line front ih =>
      rw [independent_cons, Bool.or_eq_true, Bool.and_eq_true] at hfront
      rw [List.cons_append, independent_cons, Bool.or_eq_true, Bool.and_eq_true]
      exact hfront.imp_right fun h => ⟨h.1, ih h.2⟩

/-- Lines that continue no header leave the headers before them as they are. -/
theorem foldl_addLine_of_independent (h : independent lines) (drafts : List Draft) :
    lines.foldl addLine drafts = lines.foldl addLine [] ++ drafts := by
  induction lines with
  | nil => rfl
  | cons line lines ih =>
      rw [List.foldl_cons, List.foldl_cons]
      by_cases hstarts : startsHeader line
      · rw [addLine_of_startsHeader hstarts, addLine_of_startsHeader hstarts]
        exact foldl_addLine_append (List.cons_ne_nil _ []) drafts lines
      · simp only [independent_cons, hstarts, Bool.false_or, Bool.and_eq_true,
          Bool.not_eq_true'] at h
        have hfold : ¬isContinuation line := by simp [h.1]
        rw [addLine_of_not_startsHeader hstarts hfold, addLine_of_not_startsHeader hstarts hfold]
        exact ih h.2

theorem unfoldLines_append (h : independent back) :
    unfoldLines (front ++ back) = unfoldLines front ++ unfoldLines back := by
  rw [unfoldLines, List.foldl_append, foldl_addLine_of_independent h, List.map_append,
    List.reverse_append]
  rfl

theorem foldl_addLine_ne_nil (h : drafts ≠ []) (lines : List (List Char)) :
    lines.foldl addLine drafts ≠ [] := by
  induction lines generalizing drafts with
  | nil => exact h
  | cons line lines ih => exact ih (addLine_ne_nil h line)

/-- There are headers exactly if a line starts one. -/
theorem foldl_addLine_eq_nil_iff :
    lines.foldl addLine [] = [] ↔ ∀ line ∈ lines, ¬startsHeader line := by
  induction lines with
  | nil => simp
  | cons line lines ih =>
      rw [List.foldl_cons, List.forall_mem_cons]
      by_cases hstarts : startsHeader line
      · rw [addLine_of_startsHeader hstarts]
        simp [hstarts, foldl_addLine_ne_nil]
      · have hnone : addLine [] line = [] := by
          by_cases hfold : isContinuation line
          · simp only [addLine, hfold, ite_true]
          · exact addLine_of_not_startsHeader hstarts hfold []
        rw [hnone, ih]
        simp [hstarts]

/-- A line that is left out changes nothing. -/
theorem unfoldLines_omit (hstarts : ¬startsHeader line) (hfold : ¬isContinuation line) :
    unfoldLines (front ++ line :: back) = unfoldLines (front ++ back) := by
  rw [unfoldLines, List.foldl_append, List.foldl_cons,
    addLine_of_not_startsHeader hstarts hfold, ← List.foldl_append, ← unfoldLines]

/-- What lines add to the last header depends neither on it nor on the headers before it. -/
theorem exists_foldl_addLine (lines : List (List Char)) :
    ∃ later pieces, ∀ (draft : Draft) (drafts : List Draft),
      lines.foldl addLine (draft :: drafts) =
        later ++ { draft with pieces := pieces ++ draft.pieces } :: drafts := by
  induction lines with
  | nil => exact ⟨[], [], fun draft drafts => rfl⟩
  | cons line lines ih =>
      obtain ⟨later, pieces, hlines⟩ := ih
      by_cases hstarts : startsHeader line
      · refine ⟨lines.foldl addLine
          [⟨Text.lower (Text.trim (beforeColon line)), [Text.trim (afterColon line)]⟩], [], ?_⟩
        intro draft drafts
        rw [List.foldl_cons, addLine_of_startsHeader hstarts]
        exact foldl_addLine_append (List.cons_ne_nil _ []) (draft :: drafts) lines
      · by_cases hfold : isContinuation line
        · refine ⟨later, pieces ++ [Text.trim line], fun draft drafts => ?_⟩
          rw [List.foldl_cons, addLine_of_isContinuation hfold, hlines]
          simp
        · refine ⟨later, pieces, fun draft drafts => ?_⟩
          rw [List.foldl_cons, addLine_of_not_startsHeader hstarts hfold, hlines]

/-- Continuation lines add their pieces to the last header. -/
theorem foldl_addLine_of_isContinuation (h : ∀ fold ∈ folds, isContinuation fold) (draft : Draft)
    (drafts : List Draft) :
    folds.foldl addLine (draft :: drafts) =
      { draft with pieces := (folds.map Text.trim).reverse ++ draft.pieces } :: drafts := by
  induction folds generalizing draft with
  | nil => rfl
  | cons fold folds ih =>
      rw [List.forall_mem_cons] at h
      rw [List.foldl_cons, addLine_of_isContinuation h.1, ih h.2]
      simp

/-- A line that starts a header and its continuation lines make up one header. -/
theorem unfoldLines_field (hline : startsHeader line)
    (hfolds : ∀ fold ∈ folds, isContinuation fold) :
    unfoldLines (line :: folds) = [ofField line folds] := by
  rw [unfoldLines, List.foldl_cons, addLine_of_startsHeader hline,
    foldl_addLine_of_isContinuation hfolds, ofField, List.reverse_cons]
  rfl

end Multipart.Header
