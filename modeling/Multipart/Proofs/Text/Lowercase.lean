import Multipart.Proofs.Text.Plain
import Multipart.Proofs.Text.Trim

/-! # Lower case

What is in lower case has no other lower case, so that a text in lower case does not change any
more. ASCII letters may be put into lower case first. Nothing else has to be exactly if the text has
no capitals beyond ASCII. -/

namespace Multipart.Text

def IsLower (c : Char) : Prop :=
  c ≠ 'Σ' ∧ lowerChar c = [c]

instance (c : Char) : Decidable (IsLower c) :=
  inferInstanceAs (Decidable (c ≠ 'Σ' ∧ lowerChar c = [c]))

variable {text : List Char}

/-! ## Characters in lower case -/

/-- Whether a range of code points, all of them or every other one, has none in common with those
that a mapping applies to. -/
def CaseData.Mapping.avoids (mapping : CaseData.Mapping) (low high : Nat) (even : Bool) : Bool :=
  Nat.blt high mapping.first || Nat.blt mapping.last low ||
    even && mapping.step == 2 && (low + mapping.first) % 2 == 1

/-- No mapping applies to what a mapping leads to. -/
theorem lowerMappings_avoid : CaseData.lowerMappings.all fun mapping =>
    CaseData.lowerMappings.all fun other =>
      other.avoids (mapping.first + mapping.offset).toNat (mapping.last + mapping.offset).toNat
        (mapping.step == 2 || mapping.first == mapping.last) := by decide +kernel

/-- No mapping leads to a capital with a dot, or below the first code point. -/
theorem lowerMappings_bounds : CaseData.lowerMappings.all fun mapping =>
    0 < mapping.first + mapping.offset &&
      (mapping.last + mapping.offset < 0x130 || 0x130 < mapping.first + mapping.offset) := by
  decide +kernel

theorem not_covers_of_covers {mapping other : CaseData.Mapping} {n : Nat}
    (h : mapping ∈ CaseData.lowerMappings) (hother : other ∈ CaseData.lowerMappings)
    (hcovers : mapping.covers n) : ¬other.covers (n + mapping.offset).toNat := by
  have havoids := List.all_eq_true.mp (List.all_eq_true.mp lowerMappings_avoid mapping h) _ hother
  have hbounds := List.all_eq_true.mp lowerMappings_bounds mapping h
  simp only [CaseData.Mapping.avoids, CaseData.Mapping.covers, Bool.or_eq_true, Bool.and_eq_true,
    Nat.blt_eq, decide_eq_true_eq, beq_iff_eq] at havoids hbounds hcovers ⊢
  rintro ⟨⟨hlow, hhigh⟩, hstep⟩
  rcases havoids with (hbelow | habove) | ⟨⟨heven, htwo⟩, hodd⟩
  · omega
  · omega
  · rw [htwo] at hstep
    rcases heven with heven | heven
    · rw [heven] at hcovers
      omega
    · omega

/-- A character that no mapping applies to is in lower case: one applies to the capital sigma. -/
theorem isLower_of_not_covers {c : Char} (hdot : c.toNat ≠ 0x130)
    (h : ∀ mapping ∈ CaseData.lowerMappings, ¬mapping.covers c.toNat) : IsLower c := by
  constructor
  · rintro rfl
    exact h ⟨0x3A3, 0x3AB, 1, 32⟩ (by decide +kernel) (by decide +kernel)
  · rw [lowerChar, if_neg hdot, List.find?_eq_none.mpr h]

theorem isLower_ofNat_of_covers {mapping : CaseData.Mapping} {n : Nat}
    (h : mapping ∈ CaseData.lowerMappings) (hcovers : mapping.covers n) :
    IsLower (Char.ofNat (n + mapping.offset).toNat) := by
  by_cases hvalid : (n + mapping.offset).toNat.isValidChar
  · have hcode : (Char.ofNat (n + mapping.offset).toNat).toNat = (n + mapping.offset).toNat := by
      rw [Char.ofNat, dif_pos hvalid]
      rfl
    apply isLower_of_not_covers
    · have hbounds := List.all_eq_true.mp lowerMappings_bounds mapping h
      simp only [CaseData.Mapping.covers, Bool.and_eq_true, Bool.or_eq_true,
        decide_eq_true_eq] at hbounds hcovers
      omega
    · intro other hother
      rw [hcode]
      exact not_covers_of_covers h hother hcovers
  · rw [Char.ofNat, dif_neg hvalid]
    decide +kernel

/-- The lower case of a character is in lower case. -/
theorem isLower_of_mem_lowerChar {c d : Char} (hc : c ≠ 'Σ') (hd : d ∈ lowerChar c) :
    IsLower d := by
  rw [lowerChar] at hd
  split at hd
  · simp only [List.mem_cons, List.not_mem_nil, or_false] at hd
    rcases hd with rfl | rfl <;> decide +kernel
  · rename_i hdot
    split at hd
    · rename_i mapping hfind
      have hcovers := List.find?_some hfind
      rw [List.mem_singleton.mp hd]
      exact isLower_ofNat_of_covers (List.mem_of_find?_eq_some hfind) hcovers
    · rename_i hfind
      rw [List.mem_singleton.mp hd]
      exact ⟨hc, by rw [lowerChar, if_neg hdot, hfind]⟩

theorem isLower_of_mem_lowerBetween {before after : List Char} {c d : Char}
    (hd : d ∈ lowerBetween before c after) : IsLower d := by
  rw [lowerBetween] at hd
  split at hd
  · rw [List.mem_singleton.mp hd, lowerSigma]
    split <;> decide +kernel
  · rename_i hc
    exact isLower_of_mem_lowerChar hc hd

theorem isLower_of_mem_lower {c : Char} (h : c ∈ lower text) : IsLower c := by
  suffices hfrom : ∀ before, c ∈ lowerFrom [] before text → IsLower c from hfrom [] h
  clear h
  induction text with
  | nil =>
      intro before hc
      cases hc
  | cons d text ih =>
      intro before hc
      rw [lowerFrom_cons, List.mem_append] at hc
      rcases hc with hc | hc
      · exact isLower_of_mem_lowerBetween hc
      · exact ih _ hc

/-! ## Texts in lower case -/

theorem IsLower.lowerBetween_eq {c : Char} (h : IsLower c) (before after : List Char) :
    lowerBetween before c after = [c] := by
  rw [lowerBetween, if_neg h.1, h.2]

theorem lower_of_isLower (h : ∀ c ∈ text, IsLower c) : lower text = text := by
  suffices hfrom : ∀ before, lowerFrom [] before text = text from hfrom []
  induction text with
  | nil => exact fun before => rfl
  | cons c text ih =>
      intro before
      rw [List.forall_mem_cons] at h
      rw [lowerFrom_cons, h.1.lowerBetween_eq, ih h.2, List.singleton_append]

@[simp] theorem lower_lower (text : List Char) : lower (lower text) = lower text :=
  lower_of_isLower fun _ h => isLower_of_mem_lower h

/-! ## ASCII letters -/

/-- Lower case changes only capitals, and leads from them to small letters. -/
theorem toLower_cases (c : Char) :
    c.toLower = c ∨ (0x41 ≤ c.toNat ∧ c.toNat ≤ 0x5A) ∧ c.toLower.toNat = c.toNat + 32 := by
  by_cases h : c.val ≥ 'A'.val ∧ c.val ≤ 'Z'.val
  · have hcode : ∀ n ≤ 0x5A, 0x41 ≤ n → (Char.ofNat n).toLower.toNat = n + 32 := by decide +kernel
    have hbounds : 0x41 ≤ c.toNat ∧ c.toNat ≤ 0x5A := h
    have hc := hcode c.toNat hbounds.2 hbounds.1
    rw [Char.ofNat_toNat] at hc
    exact .inr ⟨hbounds, hc⟩
  · exact .inl (dif_neg h)

theorem toLower_of_not_ascii {c : Char} (h : ¬c.toNat < 0x80) : c.toLower = c := by
  rcases toLower_cases c with hsame | ⟨hbounds, -⟩
  · exact hsame
  · omega

theorem inRanges_caseIgnorable_letter {c : Char}
    (h : 0x41 ≤ c.toNat ∧ c.toNat ≤ 0x5A ∨ 0x61 ≤ c.toNat ∧ c.toNat ≤ 0x7A) :
    inRanges CaseData.caseIgnorable c = false := by
  have hapart : CaseData.caseIgnorable.all fun range =>
      range.2 < 0x41 || 0x5A < range.1 && range.2 < 0x61 || 0x7A < range.1 := by decide +kernel
  rw [inRanges, List.any_eq_false]
  intro range hrange
  have hrange := List.all_eq_true.mp hapart range hrange
  simp only [Bool.or_eq_true, Bool.and_eq_true, decide_eq_true_eq] at hrange ⊢
  omega

theorem inRanges_cased_letter {c : Char}
    (h : 0x41 ≤ c.toNat ∧ c.toNat ≤ 0x5A ∨ 0x61 ≤ c.toNat ∧ c.toNat ≤ 0x7A) :
    inRanges CaseData.cased c = true := by
  rw [inRanges, List.any_eq_true]
  rcases h with h | h
  · exact ⟨(0x41, 0x5A), by decide +kernel, by simp [h]⟩
  · exact ⟨(0x61, 0x7A), by decide +kernel, by simp [h]⟩

theorem inRanges_caseIgnorable_toLower (c : Char) :
    inRanges CaseData.caseIgnorable c.toLower = inRanges CaseData.caseIgnorable c := by
  rcases toLower_cases c with hsame | ⟨hbounds, hcode⟩
  · rw [hsame]
  · rw [inRanges_caseIgnorable_letter (.inl hbounds), inRanges_caseIgnorable_letter (by omega)]

theorem inRanges_cased_toLower (c : Char) :
    inRanges CaseData.cased c.toLower = inRanges CaseData.cased c := by
  rcases toLower_cases c with hsame | ⟨hbounds, hcode⟩
  · rw [hsame]
  · rw [inRanges_cased_letter (.inl hbounds), inRanges_cased_letter (by omega)]

theorem lowerChar_toLower (c : Char) : lowerChar c.toLower = lowerChar c := by
  rcases toLower_cases c with hsame | ⟨hbounds, hcode⟩
  · rw [hsame]
  · rcases toLower_cases c.toLower with hsame | ⟨hcapital, -⟩
    · rw [lowerChar_of_ascii (by omega), lowerChar_of_ascii (by omega), hsame]
    · omega

theorem toLower_eq_sigma_iff (c : Char) : c.toLower = 'Σ' ↔ c = 'Σ' := by
  rcases toLower_cases c with hsame | ⟨hbounds, hcode⟩
  · rw [hsame]
  · have hsigma : 'Σ'.toNat = 0x3A3 := rfl
    constructor
    · intro heq
      rw [heq, hsigma] at hcode
      omega
    · intro heq
      rw [heq, hsigma] at hbounds
      omega

theorem startsCased_lowerAscii (text : List Char) :
    startsCased (lowerAscii text) = startsCased text := by
  induction text with
  | nil => rfl
  | cons c text ih =>
      simp only [startsCased, lowerAscii, List.map_cons, List.dropWhile_cons,
        inRanges_caseIgnorable_toLower] at ih ⊢
      by_cases hignorable : inRanges CaseData.caseIgnorable c
      · rw [if_pos hignorable, if_pos hignorable]
        exact ih
      · rw [if_neg hignorable, if_neg hignorable]
        exact inRanges_cased_toLower c

theorem lowerBetween_lowerAscii (before : List Char) (c : Char) (after : List Char) :
    lowerBetween (lowerAscii before) c.toLower (lowerAscii after) =
      lowerBetween before c after := by
  simp only [lowerBetween, lowerSigma, startsCased_lowerAscii, lowerChar_toLower,
    toLower_eq_sigma_iff]

/-- Lower case does not depend on the case of ASCII letters. -/
@[simp] theorem lower_lowerAscii (text : List Char) : lower (lowerAscii text) = lower text := by
  suffices hfrom : ∀ before,
      lowerFrom [] (lowerAscii before) (lowerAscii text) = lowerFrom [] before text from hfrom []
  induction text with
  | nil => exact fun before => rfl
  | cons c text ih =>
      intro before
      have hrest := ih (c :: before)
      have hcons : lowerAscii (c :: text) = c.toLower :: lowerAscii text := rfl
      rw [hcons, lowerFrom_cons, lowerFrom_cons, lowerBetween_lowerAscii]
      exact congrArg _ hrest

/-! ## The two lower cases -/

/-- A text in which only ASCII letters are capitals. -/
def AsciiCased (text : List Char) : Prop :=
  ∀ c ∈ text, 0x80 ≤ c.toNat → IsLower c

instance (text : List Char) : Decidable (AsciiCased text) :=
  inferInstanceAs (Decidable (∀ c ∈ text, 0x80 ≤ c.toNat → IsLower c))

/-- ASCII lower case is lower case exactly if there is no capital beyond ASCII. -/
theorem lower_eq_lowerAscii_iff : lower text = lowerAscii text ↔ AsciiCased text := by
  suffices hfrom : ∀ before, lowerFrom [] before text = lowerAscii text ↔ AsciiCased text from
    hfrom []
  induction text with
  | nil => exact fun before => ⟨fun _ _ h => absurd h List.not_mem_nil, fun _ => rfl⟩
  | cons c text ih =>
      intro before
      rw [lowerFrom_cons, AsciiCased, List.forall_mem_cons, ← AsciiCased, ← ih (c :: before),
        lowerAscii, List.map_cons, ← lowerAscii]
      by_cases hascii : c.toNat < 0x80
      · have hsigma : c ≠ 'Σ' := by
          rintro rfl
          simp at hascii
        rw [lowerBetween, if_neg hsigma, lowerChar_of_ascii hascii, List.singleton_append,
          List.cons.injEq]
        simp [Nat.not_le.mpr hascii]
      · rw [toLower_of_not_ascii hascii]
        constructor
        · intro heq
          -- The first character of its lower case is the character itself.
          obtain ⟨d, lowered, hlowered⟩ :=
            List.exists_cons_of_ne_nil (lowerBetween_ne_nil before c text)
          have hd : IsLower d := by
            have hmem : d ∈ lowerBetween before c text := by
              rw [hlowered]
              exact List.mem_cons_self
            exact isLower_of_mem_lowerBetween hmem
          have hc : d = c := by
            rw [hlowered] at heq
            exact (List.cons.inj heq).1
          rw [hc] at hd
          rw [hd.lowerBetween_eq, List.singleton_append, List.cons.injEq] at heq
          exact ⟨fun _ => hd, heq.2⟩
        · rintro ⟨hc, hrest⟩
          rw [(hc (Nat.le_of_not_lt hascii)).lowerBetween_eq, hrest, List.singleton_append]

end Multipart.Text
