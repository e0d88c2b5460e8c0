import Multipart.Decoder.Extract
import Multipart.Proofs.Scan.Search
import Multipart.Proofs.Header.Lines

/-! # Errors of an extraction

A scan or a header block fails because reading fails, or because what is read is malformed or too
long. What only a decoder can tell, such as that a part lacks its delimiter, is added by the
decoder. That an earlier query has failed is never the error of an extraction. -/

namespace Multipart

/-- Whether an error tells of what is read, wherever in a stream it is read. -/
def Error.isOfReading : Error → Bool
  | stream _ | delimiterInsideLine _ | unendedDelimiterLine _ | loneHyphen _ | headerTooLong _
  | bodyTooLong _ => true
  | noBoundary _ | noFirstDelimiter | closedBeforeFirstPart _ | unendedPart _ | unusable => false

/-! ## Errors of scans and header blocks -/

namespace Scan

variable {delimiter : Delimiter} {cursor after : Cursor} {body last : Option Body} {error : Error}
  {kind : DelimiterKind} {value : Option UInt8} {offset : Nat}

theorem isOfReading_next (h : next cursor = .error error after) :
    error.isOfReading := by
  simp only [next] at h
  split at h
  · cases h
  · cases h
    rfl

theorem isOfReading_skipPadding (h : skipPadding value cursor = .error error after) :
    error.isOfReading := by
  induction value, cursor using skipPadding.induct with
  | case1 cursor =>
      rw [skipPadding_none] at h
      cases h
  | case2 cursor byte hblank failure failed hnext =>
      rw [skipPadding_of_blank hblank, next_eq_error_of_cursor hnext] at h
      cases h
      rfl
  | case3 cursor byte hblank ended hnext =>
      rw [skipPadding_of_blank hblank, next_eq_ok_of_cursor hnext] at h
      simp only [skipPadding_none] at h
      cases h
  | case4 cursor byte hblank value between hnext ih =>
      rw [skipPadding_of_blank hblank, next_eq_ok_of_cursor hnext] at h
      exact ih h
  | case5 cursor byte hblank =>
      rw [skipPadding_of_not_blank hblank] at h
      cases h

theorem isOfReading_endLineEarly (h : endLineEarly kind cursor = .error error after) :
    error.isOfReading := by
  cases kind with
  | opening =>
      cases h
      rfl
  | closing => cases h

theorem isOfReading_endLine (h : endLine kind value cursor = .error error after) :
    error.isOfReading := by
  simp only [endLine] at h
  split at h
  · rename_i hpadding
    cases h
    exact isOfReading_skipPadding hpadding
  · split at h
    · cases h
    · split at h
      · split at h
        · rename_i hnext
          cases h
          exact isOfReading_next hnext
        · split at h
          · cases h
          · exact isOfReading_endLineEarly h
      · exact isOfReading_endLineEarly h

theorem isOfReading_delimiterLine (h : delimiterLine cursor = .error error after) :
    error.isOfReading := by
  simp only [delimiterLine] at h
  split at h
  · rename_i hfirst
    cases h
    exact isOfReading_next hfirst
  · split at h
    · split at h
      · rename_i hsecond
        cases h
        exact isOfReading_next hsecond
      · split at h
        · split at h
          · rename_i hthird
            cases h
            exact isOfReading_next hthird
          · exact isOfReading_endLine h
        · cases h
          rfl
    · exact isOfReading_endLine h

theorem isOfReading_terminate (h : terminate body offset = .error error last) :
    error.isOfReading := by
  cases body with
  | none => cases h
  | some body =>
      cases hbody : body.terminate offset with
      | ok _ rest => simp [terminate, hbody] at h
      | error refusal rest =>
          simp only [terminate, hbody, EStateM.Result.error.injEq] at h
          obtain ⟨rfl, -⟩ := h
          rcases Body.terminate_eq_error hbody with rfl | rfl <;> rfl

theorem isOfReading_find (h : (find delimiter cursor body).outcome = .error error) :
    error.isOfReading := by
  have hslides := slides_seek delimiter cursor body
  simp only [find] at h
  generalize seek delimiter cursor body = halt at hslides h
  cases hslides with
  | matched _ _ _ _ =>
      simp only at h
      split at h
      · rename_i hline
        cases h
        exact isOfReading_delimiterLine hline
      · cases h
  | refused _ _ _ hrefused =>
      cases h
      exact isOfReading_terminate hrefused
  | ended _ _ _ => cases h
  | overflow _ _ _ hrefuses =>
      cases h
      obtain ⟨_, _, rfl, -⟩ := hrefuses
      rfl
  | overflowAtEnd _ _ _ hrefuses =>
      cases h
      obtain ⟨_, _, rfl, -⟩ := hrefuses
      rfl
  | failure _ _ =>
      cases h
      rfl

end Scan

namespace Header

variable {limit size : Nat} {taken : List (List UInt8)} {cursor after : Cursor} {error : Error}

theorem isOfReading_readLines (h : readLines limit taken size cursor = .error error after) :
    error.isOfReading := by
  induction taken, size, cursor using readLines_induction limit with
  | failure taken size cursor failure herror =>
      rw [readLines_of_failure herror] at h
      cases h
      rfl
  | last taken size cursor hnone hend =>
      rw [readLines_of_end hnone hend] at h
      cases h
  | tooLong taken size cursor hnone hend hlong =>
      rw [readLines_of_tooLong hnone hend hlong] at h
      cases h
      rfl
  | line taken size cursor hnone hend hfits ih =>
      rw [readLines_of_line hnone hend hfits] at h
      exact ih h

theorem isOfReading_readBlock (h : readBlock limit cursor = .error error after) :
    error.isOfReading := by
  simp only [readBlock] at h
  split at h
  · rename_i hlines
    cases h
    exact isOfReading_readLines hlines
  · cases h

end Header

namespace Decoder

variable {decoder after : Decoder} {error : Error}

theorem isOfReading_scan {body : Option Body} (h : decoder.scan body = .error error after) :
    error.isOfReading := by
  simp only [scan] at h
  split at h
  · cases h
  · rename_i hfind
    cases h
    exact Scan.isOfReading_find hfind

theorem isOfReading_readHeaders (h : decoder.readHeaders = .error error after) :
    error.isOfReading := by
  simp only [readHeaders] at h
  split at h
  · rename_i hblock
    cases h
    exact Header.isOfReading_readBlock hblock
  · cases h

/-- Before the first part the first delimiter may be missing, or be a closing one. -/
theorem error_of_start (h : decoder.start = .error error after) :
    error.isOfReading ∨ error = .noFirstDelimiter ∨
      ∃ offset, error = .closedBeforeFirstPart offset := by
  simp only [start] at h
  split at h
  · split at h
    · rename_i hskip
      cases h
      simp only [skipPreamble] at hskip
      split at hskip
      · rename_i hscan
        cases hskip
        exact .inl (isOfReading_scan hscan)
      · cases hskip
      · cases hskip
        exact .inr (.inr ⟨_, rfl⟩)
      · cases hskip
        exact .inr (.inl rfl)
    · cases h
  · cases h

theorem error_of_endWithStream {offset : Nat} {body : Body}
    (h : decoder.endWithStream offset body = .error error after) :
    error.isOfReading ∨ ∃ offset, error = .unendedPart offset := by
  simp only [endWithStream] at h
  split at h
  · cases hlimit : body.checkLimit with
    | ok _ => simp [hlimit] at h
    | error refusal =>
        rw [hlimit] at h
        cases h
        simp only [Body.checkLimit] at hlimit
        split at hlimit
        · cases hlimit
          exact .inl rfl
        · cases hlimit
  · cases h
    exact .inr ⟨_, rfl⟩

/-- The delimiter of a part may be missing. -/
theorem error_of_readPart (h : decoder.readPart = .error error after) :
    error.isOfReading ∨ ∃ offset, error = .unendedPart offset := by
  simp only [readPart] at h
  split at h
  · rename_i hheaders
    cases h
    exact .inl (isOfReading_readHeaders hheaders)
  · split at h
    · rename_i hbody
      cases h
      simp only [readBody] at hbody
      split at hbody
      · rename_i hscan
        cases hbody
        exact .inl (isOfReading_scan hscan)
      · split at hbody
        · cases hbody
        · cases hbody
        · split at hbody
          · rename_i hend
            cases hbody
            exact error_of_endWithStream hend
          · cases hbody
    · cases h

/-- An extraction does not fail because a query has failed before. -/
theorem ne_unusable_of_advance (h : decoder.advance = .error error after) :
    error ≠ .unusable := by
  rintro rfl
  simp only [advance, extract] at h
  cases hstart : decoder.start with
  | error failure started =>
      simp only [hstart, EStateM.Result.error.injEq] at h
      obtain ⟨rfl, -⟩ := h
      rcases error_of_start hstart with hreading | hfirst | ⟨offset, hclosed⟩
      · cases hreading
      · cases hfirst
      · cases hclosed
  | ok _ started =>
      cases hread : started.readPart with
      | ok found read => simp [hstart, hread] at h
      | error failure read =>
          simp only [hstart, hread, EStateM.Result.error.injEq] at h
          obtain ⟨rfl, -⟩ := h
          rcases error_of_readPart hread with hreading | ⟨offset, hunended⟩
          · cases hreading
          · cases hunended

end Decoder

end Multipart
