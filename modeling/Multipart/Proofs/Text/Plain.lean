import Multipart.Text.Lowercase

/-! # Plain texts

The lower case of a text of ASCII characters is that of its ASCII letters. -/

namespace Multipart.Text

/-- Only the first mapping is about ASCII. -/
theorem find?_lowerMappings_of_ascii {n : Nat} (h : n < 0x80) :
    CaseData.lowerMappings.find? (·.covers n) =
      if 0x41 ≤ n ∧ n ≤ 0x5A then some ⟨0x41, 0x5A, 1, 32⟩ else none := by
  have hsplit : CaseData.lowerMappings = ⟨0x41, 0x5A, 1, 32⟩ :: CaseData.lowerMappings.tail := rfl
  have hhigh : CaseData.lowerMappings.tail.all (0x80 ≤ ·.first) := by decide +kernel
  have hrest : CaseData.lowerMappings.tail.find? (·.covers n) = none := by
    refine List.find?_eq_none.mpr fun mapping hmapping hcovers => ?_
    have hfirst := List.all_eq_true.mp hhigh mapping hmapping
    simp only [CaseData.Mapping.covers, Bool.and_eq_true, decide_eq_true_eq] at hfirst hcovers
    omega
  have hcovers : CaseData.Mapping.covers ⟨0x41, 0x5A, 1, 32⟩ n = decide (0x41 ≤ n ∧ n ≤ 0x5A) := by
    simp [CaseData.Mapping.covers, Nat.mod_one]
  rw [hsplit, List.find?_cons, hcovers, hrest]
  by_cases hcapital : 0x41 ≤ n ∧ n ≤ 0x5A <;> simp [hcapital]

theorem lowerChar_of_ascii {c : Char} (h : c.toNat < 0x80) : lowerChar c = [c.toLower] := by
  have hall : ∀ n < 0x80, (Char.ofNat n).toLower =
      if 0x41 ≤ n ∧ n ≤ 0x5A then Char.ofNat (n + 32) else Char.ofNat n := by decide +kernel
  have hlower := hall c.toNat h
  rw [Char.ofNat_toNat] at hlower
  rw [lowerChar, if_neg (by omega), find?_lowerMappings_of_ascii h, hlower]
  by_cases hcapital : 0x41 ≤ c.toNat ∧ c.toNat ≤ 0x5A
  · rw [if_pos hcapital, if_pos hcapital]
    rfl
  · rw [if_neg hcapital, if_neg hcapital]

theorem lower_of_ascii {text : List Char} (h : ∀ c ∈ text, c.toNat < 0x80) :
    lower text = lowerAscii text := by
  suffices hfrom : ∀ lowered before, lowerFrom lowered before text =
      lowered.reverse ++ lowerAscii text from hfrom [] []
  induction text with
  | nil => simp [lowerFrom, lowerAscii]
  | cons c text ih =>
      intro lowered before
      have hc := h c List.mem_cons_self
      have hsigma : c ≠ 'Σ' := by
        rintro rfl
        simp at hc
      rw [lowerFrom, lowerBetween, if_neg hsigma, lowerChar_of_ascii hc,
        ih fun d hd => h d (List.mem_cons_of_mem _ hd)]
      simp [lowerAscii]

end Multipart.Text
