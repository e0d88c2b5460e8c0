import Multipart.Proofs.Delimiter.Shifts

/-! # The table of suffix shifts

The suffix shifts can be written into a table in place, from the right, once for each shift, the
largest first. A slot is written as soon as the bytes after it agree with those that the shift
brings under them, and is written again by every smaller shift of which that holds. In the end each
slot holds the smallest of them, and no access to the delimiter or the table has gone out of
range. -/

namespace Multipart.Delimiter

/-! ## Filling a table in place -/

def minus? (a b : Nat) : Option Nat :=
  if b ≤ a then some (a - b) else none

def write? (table : List Nat) (index value : Nat) : Option (List Nat) :=
  if index < table.length then some (table.set index value) else none

/-- Writes a shift into all slots before an index. -/
def fillBefore (shift : Nat) : Nat → List Nat → Option (List Nat)
  | 0, table => some table
  | index + 1, table => do
      let table ← write? table index shift
      fillBefore shift index table

/-- Compares the bytes from an index down with those that a shift brings under them, and writes the
shift into the slot before each byte that agrees. Where the shift brings no byte under one, all
slots before it are written. None if an index is out of range: no slot is before the first byte. -/
def fillFrom (pattern : List UInt8) (shift : Nat) : Nat → List Nat → Option (List Nat)
  | index, table =>
      if shift ≤ index then do
        let byte ← pattern[index]?
        let under ← minus? index shift
        let other ← pattern[under]?
        if byte = other then
          match index with
          | 0 => none
          | before + 1 => do
              let table ← write? table before shift
              fillFrom pattern shift before table
        else some table
      else fillBefore shift index table

/-- Fills in the shifts from `shift` down to one. -/
def fillAll (pattern : List UInt8) : Nat → List Nat → Option (List Nat)
  | 0, table => some table
  | shift + 1, table => do
      let last ← minus? pattern.length 1
      let table ← fillFrom pattern (shift + 1) last table
      fillAll pattern shift table

/-- The table with a slot for each index. None if an index is out of range on the way. -/
def suffixTable? (pattern : List UInt8) : Option (List Nat) := do
  let table ← fillAll pattern pattern.length (List.replicate pattern.length 0)
  let last ← minus? pattern.length 1
  write? table last 1

/-! ## The bytes that a shift brings under others -/

variable {pattern : List UInt8} {table : List Nat} {bound index shift : Nat}

theorem repeats_of_lt (h : bound ≤ shift) : Repeats pattern bound index shift := by
  intro later hlater _ hle
  omega

theorem repeats_of_le (h : bound ≤ index + 1) : Repeats pattern bound index shift := by
  intro later hlater hlt _
  omega

theorem repeats_succ_iff (hindex : index < bound) (hshift : shift ≤ bound) :
    Repeats pattern (bound + 1) index shift ↔
      pattern[bound]? = pattern[bound - shift]? ∧ Repeats pattern bound index shift := by
  constructor
  · intro h
    exact ⟨h bound (Nat.lt_succ_self bound) hindex hshift,
      fun later hlater => h later (Nat.lt_succ_of_lt hlater)⟩
  · rintro ⟨hbound, hbefore⟩ later hlater hlt hle
    rcases Nat.lt_succ_iff_lt_or_eq.mp hlater with hlater | rfl
    · exact hbefore later hlater hlt hle
    · exact hbound

/-! ## What filling leaves -/

theorem minus?_of_le {a b : Nat} (h : b ≤ a) : minus? a b = some (a - b) :=
  if_pos h

theorem write?_of_lt (h : index < table.length) (value : Nat) :
    write? table index value = some (table.set index value) :=
  if_pos h

def rewrite (table : List Nat) (shift : Nat) (chosen : Nat → Prop) [DecidablePred chosen] :
    List Nat :=
  table.mapIdx fun index slot => if chosen index then shift else slot

section rewrite

variable {chosen other : Nat → Prop} [DecidablePred chosen] [DecidablePred other]

@[simp] theorem length_rewrite : (rewrite table shift chosen).length = table.length :=
  List.length_mapIdx

theorem getElem?_rewrite :
    (rewrite table shift chosen)[index]? =
      table[index]?.map fun slot => if chosen index then shift else slot :=
  List.getElem?_mapIdx

theorem rewrite_of_none (h : ∀ index < table.length, ¬chosen index) :
    rewrite table shift chosen = table := by
  apply List.ext_getElem?
  intro index
  rw [getElem?_rewrite]
  by_cases hindex : index < table.length
  · simp [hindex, h index hindex]
  · simp [List.getElem?_eq_none (Nat.le_of_not_lt hindex)]

/-- A slot is written, and then others. -/
theorem rewrite_set (hindex : index < table.length) :
    rewrite (table.set index shift) shift chosen =
      rewrite table shift fun slot => slot = index ∨ chosen slot := by
  apply List.ext_getElem?
  intro slot
  rw [getElem?_rewrite, getElem?_rewrite, List.getElem?_set]
  by_cases hslot : index = slot
  · subst hslot
    simp [hindex]
  · simp [hslot, Ne.symm hslot]

theorem rewrite_congr (h : ∀ index < table.length, chosen index ↔ other index) :
    rewrite table shift chosen = rewrite table shift other := by
  apply List.ext_getElem?
  intro index
  rw [getElem?_rewrite, getElem?_rewrite]
  by_cases hindex : index < table.length
  · simp [h index hindex]
  · simp [List.getElem?_eq_none (Nat.le_of_not_lt hindex)]

end rewrite

theorem fillBefore_eq (shift : Nat) (h : index ≤ table.length) :
    fillBefore shift index table = some (rewrite table shift (· < index)) := by
  induction index generalizing table with
  | zero =>
      rw [fillBefore, rewrite_of_none]
      exact fun index _ => index.not_lt_zero
  | succ index ih =>
      have hrest := @ih (table.set index shift) (by rw [List.length_set]; omega)
      rw [fillBefore, write?_of_lt h, Option.bind_eq_bind, Option.bind_some, hrest, rewrite_set h]
      refine congrArg some (rewrite_congr fun slot _ => ?_)
      omega

/-- One shift is written into the slots after which the bytes agree. -/
theorem fillFrom_eq (hshift : 0 < shift) (hindex : index < pattern.length)
    (htable : table.length = pattern.length) :
    fillFrom pattern shift index table =
      some (rewrite table shift fun slot =>
        slot < index ∧ Repeats pattern (index + 1) slot shift) := by
  induction index generalizing table with
  | zero =>
      rw [fillFrom, if_neg (by omega), fillBefore, rewrite_of_none]
      exact fun slot _ h => slot.not_lt_zero h.1
  | succ before ih =>
      rw [fillFrom]
      by_cases hle : shift ≤ before + 1
      · have hunder : before + 1 - shift < pattern.length := by omega
        have hwrite : before < table.length := by omega
        have hbytes : pattern[before + 1] = pattern[before + 1 - shift] ↔
            pattern[before + 1]? = pattern[before + 1 - shift]? := by
          rw [List.getElem?_eq_getElem hindex, List.getElem?_eq_getElem hunder, Option.some.injEq]
        have hrepeats : ∀ slot < before + 1, Repeats pattern (before + 1 + 1) slot shift ↔
            pattern[before + 1] = pattern[before + 1 - shift] ∧
              Repeats pattern (before + 1) slot shift := by
          intro slot hslot
          rw [hbytes]
          exact repeats_succ_iff hslot hle
        simp only [if_pos hle, List.getElem?_eq_getElem hindex, minus?_of_le hle,
          List.getElem?_eq_getElem hunder, Option.bind_eq_bind, Option.bind_some]
        by_cases hsame : pattern[before + 1] = pattern[before + 1 - shift]
        · have hrest := @ih (table.set before shift) (by omega) (by rw [List.length_set, htable])
          rw [if_pos hsame, write?_of_lt hwrite, Option.bind_some, hrest, rewrite_set hwrite]
          refine congrArg some (rewrite_congr fun slot _ => ?_)
          constructor
          · rintro (rfl | ⟨hslot, hagrees⟩)
            · exact ⟨Nat.lt_succ_self _, (hrepeats _ (Nat.lt_succ_self _)).mpr
                ⟨hsame, repeats_of_le (Nat.le_refl _)⟩⟩
            · exact ⟨by omega, (hrepeats _ (by omega)).mpr ⟨hsame, hagrees⟩⟩
          · rintro ⟨hslot, hagrees⟩
            rcases Nat.lt_succ_iff_lt_or_eq.mp hslot with hlt | rfl
            · exact .inr ⟨hlt, ((hrepeats _ hslot).mp hagrees).2⟩
            · exact .inl rfl
        · rw [if_neg hsame, rewrite_of_none]
          rintro slot - ⟨hslot, hagrees⟩
          exact hsame ((hrepeats slot hslot).mp hagrees).1
      · rw [if_neg hle, fillBefore_eq shift (by omega)]
        refine congrArg some (rewrite_congr fun slot _ => ?_)
        have hagrees : Repeats pattern (before + 1 + 1) slot shift := repeats_of_lt (by omega)
        simp [hagrees]

/-! ## The smallest shift stays -/

theorem fillFrom_last (hshift : 0 < shift) (hpattern : 0 < pattern.length)
    (htable : table.length = pattern.length) :
    fillFrom pattern shift (pattern.length - 1) table =
      some (rewrite table shift fun slot =>
        slot < pattern.length - 1 ∧ Repeats pattern pattern.length slot shift) := by
  have hfill := fillFrom_eq hshift (Nat.sub_lt hpattern Nat.one_pos) htable
  rwa [Nat.sub_add_cancel hpattern] at hfill

theorem fillAll_succ (shift : Nat) (hpattern : 0 < pattern.length)
    (htable : table.length = pattern.length) :
    fillAll pattern (shift + 1) table =
      fillAll pattern shift (rewrite table (shift + 1) fun slot =>
        slot < pattern.length - 1 ∧ Repeats pattern pattern.length slot (shift + 1)) := by
  rw [fillAll, minus?_of_le hpattern, Option.bind_eq_bind, Option.bind_some,
    fillFrom_last shift.succ_pos hpattern htable, Option.bind_eq_bind, Option.bind_some]

/-- Filling never fails, and leaves alone the slots after which the bytes agree for no shift. -/
theorem exists_fillAll (count : Nat) (hpattern : 0 < pattern.length)
    (htable : table.length = pattern.length) :
    ∃ filled, fillAll pattern count table = some filled ∧ filled.length = pattern.length ∧
      ∀ slot, (∀ shift, 1 ≤ shift → shift ≤ count →
        ¬Repeats pattern pattern.length slot shift) → filled[slot]? = table[slot]? := by
  induction count generalizing table with
  | zero => exact ⟨table, rfl, htable, fun _ _ => rfl⟩
  | succ count ih =>
      obtain ⟨filled, hfill, hlength, hkeeps⟩ := @ih (rewrite table (count + 1) fun slot =>
        slot < pattern.length - 1 ∧ Repeats pattern pattern.length slot (count + 1))
        (by rw [length_rewrite, htable])
      refine ⟨filled, by rw [fillAll_succ count hpattern htable, hfill], hlength, ?_⟩
      intro slot hnone
      have hlast := hnone (count + 1) count.succ_pos (Nat.le_refl _)
      rw [hkeeps slot fun shift hpos hle => hnone shift hpos (Nat.le_succ_of_le hle),
        getElem?_rewrite]
      simp [hlast]

/-- The smallest shift is the last to be written. -/
theorem getElem?_fillAll {count : Nat} {filled : List Nat} (hpattern : 0 < pattern.length)
    (htable : table.length = pattern.length) (hindex : index < pattern.length - 1)
    (hleast : LeastShift pattern index shift) (hcount : shift ≤ count)
    (hfill : fillAll pattern count table = some filled) : filled[index]? = some shift := by
  induction count generalizing table with
  | zero => exact absurd hleast.pos (by omega)
  | succ count ih =>
      rw [fillAll_succ count hpattern htable] at hfill
      rcases Nat.le_succ_iff.mp hcount with hle | rfl
      · exact ih (by rw [length_rewrite, htable]) hle hfill
      · obtain ⟨last, hlast, -, hkeeps⟩ := @exists_fillAll pattern
          (rewrite table (count + 1) fun slot =>
            slot < pattern.length - 1 ∧ Repeats pattern pattern.length slot (count + 1))
          count hpattern (by rw [length_rewrite, htable])
        rw [hlast] at hfill
        cases hfill
        have hin : index < table.length := by omega
        rw [hkeeps index fun shift hpos hle => hleast.least shift hpos (Nat.lt_succ_of_le hle),
          getElem?_rewrite, List.getElem?_eq_getElem hin, Option.map_some,
          if_pos ⟨hindex, hleast.repeats⟩]

/-- After the last byte nothing has to agree. -/
theorem LeastShift.eq_one (h : LeastShift pattern (pattern.length - 1) shift) : shift = 1 := by
  apply Nat.le_antisymm _ h.pos
  apply Nat.le_of_not_lt
  intro hlt
  exact h.least 1 (Nat.le_refl 1) hlt (repeats_of_le (by omega))

/-- Each suffix shift is the smallest one for which the bytes after the index agree, after the last
byte it is one, and the table that is filled in place holds just these. -/
theorem suffixShift_exact (delimiter : Delimiter) :
    (∀ index < delimiter.length,
        LeastShift delimiter.bytes index (delimiter.suffixShift index)) ∧
      delimiter.suffixShift (delimiter.length - 1) = 1 ∧
      suffixTable? delimiter.bytes =
        some ((List.range delimiter.length).map delimiter.suffixShift) := by
  have hpos : 0 < delimiter.bytes.length := Nat.succ_pos _
  have hleast : ∀ index < delimiter.length,
      LeastShift delimiter.bytes index (delimiter.suffixShift index) :=
    fun index hindex => delimiter.leastShift_suffixShift hindex
  have hlast : delimiter.suffixShift (delimiter.length - 1) = 1 :=
    (hleast _ (Nat.sub_lt hpos Nat.one_pos)).eq_one
  refine ⟨hleast, hlast, ?_⟩
  have hzeros : (List.replicate delimiter.bytes.length 0).length = delimiter.bytes.length :=
    List.length_replicate
  obtain ⟨filled, hfill, hlength, -⟩ := exists_fillAll delimiter.bytes.length hpos hzeros
  have hwrite := @write?_of_lt filled (delimiter.bytes.length - 1) (by omega) 1
  rw [suffixTable?, hfill, minus?_of_le hpos]
  simp only [Option.bind_eq_bind, Option.bind_some, hwrite]
  apply congrArg some
  apply List.ext_getElem?
  intro index
  rw [length_bytes] at hlength ⊢
  rw [List.getElem?_set, List.getElem?_map, hlength]
  rcases Nat.lt_trichotomy index (delimiter.length - 1) with hlt | rfl | hgt
  · have hindex : index < delimiter.length := by omega
    rw [if_neg (Nat.ne_of_gt hlt), List.getElem?_range hindex,
      getElem?_fillAll hpos hzeros hlt (hleast index hindex) (hleast index hindex).le_length hfill]
    rfl
  · have hindex : delimiter.length - 1 < delimiter.length := Nat.sub_lt hpos Nat.one_pos
    rw [if_pos rfl, if_pos hindex, List.getElem?_range hindex, Option.map_some, hlast]
  · rw [if_neg (Nat.ne_of_lt hgt), List.getElem?_eq_none (by omega),
      List.getElem?_eq_none (by rw [List.length_range]; omega)]
    rfl

/-- A delimiter that starts with two hyphens and ends in one. -/
def edged : Delimiter := .ofBytes [65, Octet.dash]

theorem suffixShift_exact_edged :
    2 < edged.length ∧ LeastShift edged.bytes 2 2 ∧ suffixTable? edged.bytes = some [3, 3, 2, 1] :=
  ⟨by decide, (suffixShift_exact edged).1 2 (by decide), (suffixShift_exact edged).2.2⟩

end Multipart.Delimiter
