import Mathlib.Data.List.DropRight
import Multipart.Text.Blank
import Multipart.Text.Lowercase

/-! # Texts without white space around them

Trimming leaves no white space at either end, and changes no text that has none there. Lower case
keeps a text trimmed. Trimmed texts that are joined by spaces make up a trimmed text unless an empty
one stands at an end. -/

namespace Multipart.Text

structure Trimmed (text : List Char) : Prop where
  head : ∀ c, text.head? = some c → isBlank c = false
  last : ∀ c, text.getLast? = some c → isBlank c = false

variable {text first second : List Char} {pieces : List (List Char)}

theorem trimmed_of_not_blank (h : ∀ c ∈ text, isBlank c = false) : Trimmed text :=
  ⟨fun c hc => h c (List.mem_of_mem_head? hc), fun c hc => h c (List.mem_of_mem_getLast? hc)⟩

theorem Trimmed.reverse (h : Trimmed text) : Trimmed text.reverse :=
  ⟨fun c hc => h.last c (by rwa [List.head?_reverse] at hc),
    fun c hc => h.head c (by rwa [List.getLast?_reverse] at hc)⟩

/-! ## Trimming -/

/-- Trimming the end drops from the right. -/
theorem trimEnd_eq_rdropWhile (text : List Char) : trimEnd text = text.rdropWhile isBlank := rfl

theorem trimEnd_subset : trimEnd text ⊆ text :=
  (List.rdropWhile_prefix isBlank text).subset

theorem trim_subset : trim text ⊆ text :=
  fun _ hc => List.dropWhile_subset _ (trimEnd_subset hc)

theorem trimmed_trim (text : List Char) : Trimmed (trim text) := by
  constructor
  · intro c hc
    obtain ⟨rest, hrest⟩ := List.rdropWhile_prefix isBlank (text.dropWhile isBlank)
    have hstop := List.head?_dropWhile_not isBlank text
    rw [← hrest, List.head?_append, ← trimEnd_eq_rdropWhile, ← trim, hc] at hstop
    exact hstop
  · intro c hc
    obtain ⟨hne, hlast⟩ := List.mem_getLast?_eq_getLast hc
    rw [hlast]
    exact Bool.eq_false_iff.mpr (List.rdropWhile_last_not isBlank _ hne)

theorem dropWhile_append_of_stop {p : Char → Bool} (h : second.dropWhile p = second) :
    (first ++ second).dropWhile p = first.dropWhile p ++ second := by
  rw [List.dropWhile_append]
  split
  · rename_i hempty
    rw [List.isEmpty_iff.mp hempty, h, List.nil_append]
  · rfl

theorem Trimmed.trim_eq (h : Trimmed text) : trim text = text := by
  have hhead : text.dropWhile isBlank = text := List.dropWhile_eq_self_iff.mpr fun hpos =>
    Bool.eq_false_iff.mp (h.head _ (List.head?_eq_getElem?.trans (List.getElem?_eq_getElem hpos)))
  have hlast : text.rdropWhile isBlank = text := List.rdropWhile_eq_self_iff.mpr fun hne =>
    Bool.eq_false_iff.mp (h.last _ (List.getLast?_eq_some_getLast hne))
  rw [trim, hhead, trimEnd_eq_rdropWhile, hlast]

theorem trimmed_iff : Trimmed text ↔ trim text = text := by
  constructor
  · exact Trimmed.trim_eq
  · intro h
    rw [← h]
    exact trimmed_trim text

instance (text : List Char) : Decidable (Trimmed text) :=
  decidable_of_iff _ trimmed_iff.symm

/-- White space before a text is cut off. -/
theorem trim_append (h : ∀ c ∈ first, isBlank c) : trim (first ++ second) = trim second := by
  rw [trim, List.dropWhile_append_of_pos h, ← trim]

/-- It does not matter if some of the white space before a text is passed over first. -/
theorem trim_dropWhile {p : Char → Bool} (h : ∀ c ∈ text, p c → isBlank c) :
    trim (text.dropWhile p) = trim text := by
  have hblank : ∀ c ∈ text.takeWhile p, isBlank c := fun c hc =>
    h c (List.takeWhile_subset _ hc) (List.mem_takeWhile_imp hc)
  conv => rhs; rw [← List.takeWhile_append_dropWhile (p := p) (l := text)]
  exact (trim_append hblank).symm

/-- What stands before a character that is not white space is not cut off. -/
theorem trimEnd_append_cons {c : Char} (h : isBlank c = false) :
    trimEnd (first ++ c :: second) = first ++ c :: trimEnd second := by
  rw [trimEnd, trimEnd, List.reverse_append, List.reverse_cons, List.append_assoc,
    List.dropWhile_append]
  split
  · rename_i hempty
    rw [List.isEmpty_iff.mp hempty, List.singleton_append, List.dropWhile_cons_of_neg (by simp [h])]
    simp
  · simp

theorem trimEnd_append_right (h : ∀ c ∈ second, isBlank c) :
    trimEnd (first ++ second) = trimEnd first := by
  rw [trimEnd, List.reverse_append, List.dropWhile_append_of_pos, ← trimEnd]
  exact fun c hc => h c (List.mem_reverse.mp hc)

/-- White space after a text is cut off. -/
theorem trim_append_right (h : ∀ c ∈ second, isBlank c) : trim (first ++ second) = trim first := by
  rw [trim, List.dropWhile_append, trim]
  split
  · rename_i hempty
    have hnil : (second ++ []).dropWhile isBlank = [] := List.dropWhile_append_of_pos h
    rw [List.append_nil] at hnil
    rw [List.isEmpty_iff.mp hempty, hnil]
  · exact trimEnd_append_right h

theorem trim_trimEnd (text : List Char) : trim (trimEnd text) = trim text := by
  have hblank : ∀ c ∈ text.rtakeWhile isBlank, isBlank c := fun _ => List.mem_rtakeWhile_imp
  conv => rhs; rw [← List.rdropWhile_append_rtakeWhile (p := isBlank) (l := text)]
  exact (trim_append_right hblank).symm

/-! ## Lower case -/

def blankCodes : List Nat :=
  [0x09, 0x0A, 0x0B, 0x0C, 0x0D, 0x20, 0x85, 0xA0, 0x1680, 0x2000, 0x2001, 0x2002, 0x2003, 0x2004,
   0x2005, 0x2006, 0x2007, 0x2008, 0x2009, 0x200A, 0x2028, 0x2029, 0x202F, 0x205F, 0x3000]

theorem mem_blankCodes {n : Nat} (h : isBlank (Char.ofNat n)) : n ∈ blankCodes := by
  by_cases hvalid : n.isValidChar
  · have hcode : (Char.ofNat n).toNat = n := by
      rw [Char.ofNat, dif_pos hvalid]
      rfl
    simp only [isBlank, hcode, Bool.or_eq_true, Bool.and_eq_true, decide_eq_true_eq,
      beq_iff_eq] at h
    simp only [blankCodes, List.mem_cons, List.not_mem_nil, or_false]
    omega
  · rw [Char.ofNat, dif_neg hvalid] at h
    cases h

/-- The lower case of a code point that has one is not white space: no range of lower cases meets
the code points of white space. -/
theorem not_isBlank_of_covers {mapping : CaseData.Mapping} (h : mapping ∈ CaseData.lowerMappings)
    {n : Nat} (hcovers : mapping.covers n) :
    isBlank (Char.ofNat (n + mapping.offset).toNat) = false := by
  have hapart : CaseData.lowerMappings.all fun mapping => blankCodes.all fun (code : Nat) =>
      code < mapping.first + mapping.offset || mapping.last + mapping.offset < code := by
    decide +kernel
  rw [← Bool.not_eq_true]
  intro hblank
  have hmem := mem_blankCodes hblank
  have hpos : ∀ code ∈ blankCodes, 0 < code := by decide
  have hcode := List.all_eq_true.mp (List.all_eq_true.mp hapart mapping h) _ hmem
  replace hpos := hpos _ hmem
  simp only [CaseData.Mapping.covers, Bool.and_eq_true, Bool.or_eq_true,
    decide_eq_true_eq] at hcovers hcode
  omega

theorem not_isBlank_lowerChar {c d : Char} (h : isBlank c = false) (hd : d ∈ lowerChar c) :
    isBlank d = false := by
  rw [lowerChar] at hd
  split at hd
  · simp only [List.mem_cons, List.not_mem_nil, or_false] at hd
    rcases hd with rfl | rfl <;> rfl
  · split at hd
    · rename_i mapping hfind
      rw [List.mem_singleton.mp hd]
      have hcovers := List.find?_some hfind
      exact not_isBlank_of_covers (List.mem_of_find?_eq_some hfind) hcovers
    · rwa [List.mem_singleton.mp hd]

theorem not_isBlank_lowerBetween {before after : List Char} {c d : Char} (h : isBlank c = false)
    (hd : d ∈ lowerBetween before c after) : isBlank d = false := by
  rw [lowerBetween] at hd
  split at hd
  · rw [List.mem_singleton.mp hd, lowerSigma]
    split <;> rfl
  · exact not_isBlank_lowerChar h hd

theorem lowerBetween_ne_nil (before : List Char) (c : Char) (after : List Char) :
    lowerBetween before c after ≠ [] := by
  rw [lowerBetween, lowerChar]
  split
  · simp
  · split
    · simp
    · split <;> simp

theorem lowerFrom_cons (before : List Char) (c : Char) (after : List Char) :
    lowerFrom [] before (c :: after) =
      lowerBetween before c after ++ lowerFrom [] (c :: before) after := by
  rw [lowerFrom, lowerFrom_append, List.append_nil, List.reverse_reverse]

/-- The lower case of a text ends with that of its last character. -/
theorem lowerFrom_concat (before front : List Char) (c : Char) :
    ∃ lowered between,
      lowerFrom [] before (front ++ [c]) = lowered ++ lowerBetween between c [] := by
  induction front generalizing before with
  | nil => exact ⟨[], before, by simp [lowerFrom_cons, lowerFrom]⟩
  | cons d front ih =>
      obtain ⟨lowered, between, hlower⟩ := ih (d :: before)
      refine ⟨lowerBetween before d (front ++ [c]) ++ lowered, between, ?_⟩
      rw [List.cons_append, lowerFrom_cons, hlower, List.append_assoc]

theorem Trimmed.lower (h : Trimmed text) : Trimmed (lower text) := by
  constructor
  · intro d hd
    cases text with
    | nil => cases hd
    | cons c rest =>
        obtain ⟨e, lowered, hlower⟩ :=
          List.exists_cons_of_ne_nil (lowerBetween_ne_nil [] c rest)
        have hmem : e ∈ lowerBetween [] c rest := by
          rw [hlower]
          exact List.mem_cons_self
        rw [Text.lower, lowerFrom_cons, hlower] at hd
        cases hd
        exact not_isBlank_lowerBetween (h.head c rfl) hmem
  · intro d hd
    rcases List.eq_nil_or_concat text with rfl | ⟨front, c, rfl⟩
    · cases hd
    · rw [List.concat_eq_append] at h hd
      obtain ⟨lowered, between, hlower⟩ := lowerFrom_concat [] front c
      rw [Text.lower, hlower, List.getLast?_append,
        List.getLast?_eq_some_getLast (lowerBetween_ne_nil between c [])] at hd
      cases hd
      exact not_isBlank_lowerBetween (h.last c (by simp)) (List.getLast_mem _)

/-! ## Texts that are joined -/

theorem head?_intercalate (first : List Char) (pieces : List (List Char)) (h : pieces ≠ []) :
    (List.intercalate [' '] (first :: pieces)).head? = some (first.head?.getD ' ') := by
  obtain ⟨second, rest, rfl⟩ := List.exists_cons_of_ne_nil h
  rw [List.intercalate_cons_cons, List.append_assoc, List.head?_append]
  cases first <;> rfl

theorem intercalate_concat (pieces : List (List Char)) (last : List Char) (h : pieces ≠ []) :
    List.intercalate [' '] (pieces ++ [last]) = List.intercalate [' '] pieces ++ ' ' :: last := by
  induction pieces with
  | nil => exact absurd rfl h
  | cons first pieces ih =>
      cases pieces with
      | nil => simp [List.intercalate_cons_cons, List.intercalate_singleton]
      | cons second rest =>
          rw [List.cons_append, List.cons_append, List.intercalate_cons_cons,
            List.intercalate_cons_cons, ← List.cons_append, ih (List.cons_ne_nil _ _)]
          simp

theorem getLast?_intercalate (pieces : List (List Char)) (last : List Char) (h : pieces ≠ []) :
    (List.intercalate [' '] (pieces ++ [last])).getLast? = some (last.getLast?.getD ' ') := by
  rw [intercalate_concat pieces last h, List.getLast?_append, List.getLast?_cons, Option.some_or]

/-- Joining adds a space before each piece but the first. -/
theorem length_intercalate (h : pieces ≠ []) :
    (List.intercalate [' '] pieces).length + 1 =
      (pieces.flatMap fun piece => ' ' :: piece).length := by
  induction pieces with
  | nil => exact absurd rfl h
  | cons first pieces ih =>
      cases pieces with
      | nil => simp [List.intercalate_singleton]
      | cons second rest =>
          have hrest := ih (List.cons_ne_nil second rest)
          rw [List.intercalate_cons_cons, List.flatMap_cons, List.length_append, List.length_append,
            List.length_append, ← hrest]
          simp only [List.length_cons, List.length_nil]
          omega

/-- A trimmed text that follows a space ends a trimmed text unless it is empty. -/
theorem Trimmed.not_isBlank_last_iff (h : Trimmed text) :
    isBlank (text.getLast?.getD ' ') = false ↔ text ≠ [] := by
  constructor
  · rintro hlast rfl
    cases hlast
  · intro hne
    have hsome := List.getLast?_eq_some_getLast hne
    rw [hsome]
    exact h.last _ hsome

theorem Trimmed.not_isBlank_head_iff (h : Trimmed text) :
    isBlank (text.head?.getD ' ') = false ↔ text ≠ [] := by
  rw [← List.getLast?_reverse, h.reverse.not_isBlank_last_iff]
  exact not_congr List.reverse_eq_nil_iff

/-- Two or more trimmed pieces that are joined by spaces make up a trimmed text if and only if the
first and the last of them are not empty. -/
theorem trimmed_intercalate_iff (hmore : 1 < pieces.length)
    (h : ∀ piece ∈ pieces, Trimmed piece) :
    Trimmed (List.intercalate [' '] pieces) ↔
      pieces.head? ≠ some [] ∧ pieces.getLast? ≠ some [] := by
  obtain ⟨first, others, rfl⟩ := List.exists_cons_of_length_pos (Nat.zero_lt_of_lt hmore)
  have hothers : others ≠ [] := List.length_pos_iff.mp (Nat.lt_of_succ_lt_succ hmore)
  have hhead := head?_intercalate first others hothers
  obtain ⟨front, last, hconcat⟩ : ∃ front last, first :: others = front ++ [last] :=
    ⟨_, _, (List.dropLast_concat_getLast (List.cons_ne_nil first others)).symm⟩
  have hfront : front ≠ [] := by
    rintro rfl
    rw [hconcat] at hmore
    exact absurd hmore (Nat.lt_irrefl 1)
  have hlast := getLast?_intercalate front last hfront
  have hfirst := (h first List.mem_cons_self).not_isBlank_head_iff
  have hend := (h last (by simp [hconcat])).not_isBlank_last_iff
  rw [← hconcat] at hlast
  have hends : (first :: others).getLast? = some last := by simp [hconcat]
  rw [hends, List.head?_cons, Ne, Ne, Option.some.injEq, Option.some.injEq, ← Ne, ← Ne, ← hfirst,
    ← hend]
  constructor
  · intro htrimmed
    exact ⟨htrimmed.head _ hhead, htrimmed.last _ hlast⟩
  · rintro ⟨hblank, hblank'⟩
    constructor
    · intro c hc
      rw [hhead, Option.some.injEq] at hc
      rwa [← hc]
    · intro c hc
      rw [hlast, Option.some.injEq] at hc
      rwa [← hc]

end Multipart.Text
