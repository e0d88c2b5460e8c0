import Multipart.Proofs.Header.Lines

/-! # Header blocks and their limit

The limit of a header block only cuts it off. A block that is read within a limit is read in the
same way within every larger one. -/

namespace Multipart

/-- A reading that does not end at its count ends in the same way at every larger one. -/
theorem Cursor.gatherFrom_mono {last : UInt8 → Bool} {count most : Nat} {taken : List UInt8}
    {cursor : Cursor} (hle : count ≤ most) (hnone : ∀ value ∈ taken, ¬last value)
    (hstop : (gatherFrom last count taken cursor).bytes.length < taken.length + count ∨
      ∃ value ∈ (gatherFrom last count taken cursor).bytes, last value) :
    gatherFrom last most taken cursor = gatherFrom last count taken cursor := by
  induction count generalizing most taken cursor with
  | zero =>
      rcases hstop with hshort | ⟨value, hmem, hlast⟩
      · simp [gatherFrom] at hshort
      · rw [gatherFrom, List.mem_reverse] at hmem
        exact absurd hlast (hnone value hmem)
  | succ count ih =>
      obtain ⟨most, rfl⟩ : ∃ rest, most = rest + 1 := ⟨most - 1, by omega⟩
      simp only [gatherFrom] at hstop ⊢
      cases hnext : cursor.next with
      | error error after => rfl
      | ok found after =>
          cases found with
          | none => rfl
          | some value =>
              simp only [hnext] at hstop ⊢
              by_cases hlast : last value
              · rw [if_pos hlast, if_pos hlast]
              · rw [if_neg hlast] at hstop ⊢
                rw [if_neg hlast]
                refine ih (Nat.le_of_succ_le_succ hle) ?_ (hstop.imp_left fun hshort => ?_)
                · intro other hother
                  rcases List.mem_cons.mp hother with rfl | hother
                  · exact hlast
                  · exact hnone other hother
                · rw [List.length_cons]
                  omega

namespace Header

variable {limit most size : Nat} {taken lines : List (List UInt8)} {headers : List Header}
  {cursor after : Cursor}

theorem eq_of_endsBlock {line : List UInt8} (h : endsBlock line) :
    line = [] ∨ line = [Octet.cr, Octet.lf] ∨ line = [Octet.lf] := by
  simpa [endsBlock, isBlankLine, or_assoc] using h

/-- A line that ends the block or fits is read within every larger limit. -/
theorem nextLine_mono (hle : limit ≤ most)
    (hfits : endsBlock (nextLine limit size cursor).bytes ∨
      size + (nextLine limit size cursor).bytes.length ≤ limit) :
    nextLine most size cursor = nextLine limit size cursor := by
  have hcapped : addCapped (limit - size) 2 ≤ addCapped (most - size) 2 := by
    simp only [addCapped]
    omega
  by_cases hsame : addCapped (most - size) 2 = addCapped (limit - size) 2
  · rw [nextLine, nextLine, hsame]
  · have hbudget : addCapped (limit - size) 2 = limit - size + 2 := by
      simp only [addCapped] at hsame ⊢
      omega
    refine Cursor.gatherFrom_mono hcapped (by simp) ?_
    change (nextLine limit size cursor).bytes.length < _ ∨
      ∃ value ∈ (nextLine limit size cursor).bytes, _
    rcases hfits with hend | hfits
    · rcases eq_of_endsBlock hend with hbytes | hbytes | hbytes
      · left
        rw [hbytes, List.length_nil]
        omega
      · exact .inr ⟨Octet.lf, by simp [hbytes], by simp⟩
      · exact .inr ⟨Octet.lf, by simp [hbytes], by simp⟩
    · left
      rw [List.length_nil]
      omega

theorem readLines_mono (hle : limit ≤ most)
    (h : readLines limit taken size cursor = .ok lines after) :
    readLines most taken size cursor = .ok lines after := by
  induction taken, size, cursor using readLines_induction limit with
  | failure taken size cursor error herror =>
      rw [readLines_of_failure herror] at h
      cases h
  | last taken size cursor hnone hend =>
      have hline := nextLine_mono hle (.inl hend)
      rw [readLines_of_end hnone hend] at h
      rw [readLines_of_end (hline ▸ hnone) (hline ▸ hend), hline]
      exact h
  | tooLong taken size cursor hnone hend hlong =>
      rw [readLines_of_tooLong hnone hend hlong] at h
      cases h
  | line taken size cursor hnone hend hfits ih =>
      have hline := nextLine_mono hle (.inr (Nat.le_of_not_lt hfits))
      rw [readLines_of_line hnone hend hfits] at h
      have hmost : ¬most < size + (nextLine most size cursor).bytes.length := by
        rw [hline]
        omega
      rw [readLines_of_line (hline ▸ hnone) (hline ▸ hend) hmost, hline]
      exact ih h

/-- A block that is read within a limit is read within every larger one. -/
theorem readBlock_mono (hle : limit ≤ most) (h : readBlock limit cursor = .ok headers after) :
    readBlock most cursor = .ok headers after := by
  simp only [readBlock] at h ⊢
  split at h
  · cases h
  · rename_i hlines
    rw [readLines_mono hle hlines]
    exact h

end Header

end Multipart
