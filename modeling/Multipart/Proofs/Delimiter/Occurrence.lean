import Multipart.Delimiter

/-! # Where the delimiter stands

The places in a text where the delimiter stands, whatever else the text holds. A text is free of the
delimiter up to some place if the delimiter stands nowhere before it, however the text goes on. -/

namespace Multipart.Delimiter

def OccursAt (delimiter : Delimiter) (text : List UInt8) (offset : Nat) : Prop :=
  delimiter.bytes <+: text.drop offset

instance (delimiter : Delimiter) (text : List UInt8) (offset : Nat) :
    Decidable (delimiter.OccursAt text offset) :=
  inferInstanceAs (Decidable (_ <+: _))

/-- Nowhere before `count` stands the delimiter, however the text goes on. -/
def FreeBefore (delimiter : Delimiter) (count : Nat) (text : List UInt8) : Prop :=
  ∀ offset < count, ∀ future, ¬delimiter.OccursAt (text ++ future) offset

@[simp] theorem length_bytes (delimiter : Delimiter) :
    delimiter.bytes.length = delimiter.length := rfl

/-! ## One place -/

section OccursAt

variable {delimiter : Delimiter} {text front more : List UInt8} {offset : Nat}

theorem OccursAt.getElem? (h : delimiter.OccursAt text offset) (index : Nat)
    (hindex : index < delimiter.length) : text[offset + index]? = delimiter.bytes[index]? := by
  have hget := List.prefix_iff_getElem?.mp h index hindex
  rw [List.getElem?_drop] at hget
  rw [hget, List.getElem?_eq_getElem hindex]

theorem OccursAt.add_length_le (h : delimiter.OccursAt text offset) :
    offset + delimiter.length ≤ text.length := by
  have hle := h.length_le
  have hpos : 0 < delimiter.length := Nat.succ_pos _
  rw [length_bytes, List.length_drop] at hle
  omega

theorem not_occursAt_of_forall_lt (h : ∀ offset < text.length, ¬delimiter.OccursAt text offset)
    (offset : Nat) : ¬delimiter.OccursAt text offset := by
  intro hat
  have hle := hat.add_length_le
  have hpos : 0 < delimiter.length := Nat.succ_pos _
  exact h offset (by omega) hat

instance : Decidable (∀ offset, ¬delimiter.OccursAt text offset) :=
  decidable_of_iff (∀ offset < text.length, ¬delimiter.OccursAt text offset)
    ⟨not_occursAt_of_forall_lt, fun h offset _ => h offset⟩

theorem OccursAt.append (h : delimiter.OccursAt text offset) (more : List UInt8) :
    delimiter.OccursAt (text ++ more) offset := by
  have hle := h.add_length_le
  rw [OccursAt, List.drop_append_of_le_length (by omega)]
  exact h.trans (List.prefix_append _ _)

theorem OccursAt.of_append (h : delimiter.OccursAt (text ++ more) offset)
    (hlength : offset + delimiter.length ≤ text.length) : delimiter.OccursAt text offset := by
  rw [OccursAt, List.drop_append_of_le_length (by omega)] at h
  exact List.prefix_of_prefix_length_le h (List.prefix_append _ _)
    (by rw [length_bytes, List.length_drop]; omega)

theorem occursAt_append (delimiter : Delimiter) (front rest : List UInt8) (offset : Nat) :
    delimiter.OccursAt (front ++ rest) (front.length + offset) ↔
      delimiter.OccursAt rest offset := by
  rw [OccursAt, OccursAt, List.drop_length_add_append]

theorem occursAt_front (delimiter : Delimiter) (front rest : List UInt8) :
    delimiter.OccursAt (front ++ (delimiter.bytes ++ rest)) front.length := by
  rw [OccursAt, List.drop_left]
  exact List.prefix_append _ _

/-- A delimiter does not reach over a byte that it does not hold. -/
theorem OccursAt.of_not_mem {value : UInt8} (hvalue : value ∉ delimiter.bytes)
    (hle : offset ≤ front.length) (h : delimiter.OccursAt (front ++ value :: more) offset) :
    delimiter.OccursAt front offset := by
  by_cases hreach : offset + delimiter.length ≤ front.length
  · exact h.of_append hreach
  · have hget := h.getElem? (front.length - offset) (by omega)
    rw [Nat.add_sub_cancel' hle, List.getElem?_append_right (Nat.le_refl _), Nat.sub_self,
      List.getElem?_cons_zero] at hget
    exact absurd (List.mem_of_getElem? hget.symm) hvalue

/-- A byte that the delimiter does not hold makes no room for it. -/
theorem not_occursAt_concat {value : UInt8} (hvalue : value ∉ delimiter.bytes)
    (hfree : ∀ offset, ¬delimiter.OccursAt front offset) (offset : Nat) :
    ¬delimiter.OccursAt (front ++ [value]) offset := by
  intro h
  have hpos : 0 < delimiter.length := Nat.succ_pos _
  have hle := h.add_length_le
  rw [List.length_append, List.length_singleton] at hle
  exact hfree offset (h.of_not_mem hvalue (by omega))

/-- Whatever comes after such a byte, the delimiter does not stand before it. -/
theorem not_occursAt_append {value : UInt8} (hvalue : value ∉ delimiter.bytes)
    (hfree : ∀ offset, ¬delimiter.OccursAt (front ++ [value]) offset) :
    ∀ offset < (front ++ [value]).length,
      ¬delimiter.OccursAt (front ++ [value] ++ more) offset := by
  intro offset hlt h
  rw [List.length_append, List.length_singleton] at hlt
  rw [List.append_assoc, List.singleton_append] at h
  exact hfree offset ((h.of_not_mem hvalue (Nat.le_of_lt_succ hlt)).append [value])

end OccursAt

/-! ## The first place -/

section FreeBefore

variable {delimiter : Delimiter} {text front rest : List UInt8} {count : Nat}

theorem freeBefore_zero (delimiter : Delimiter) (text : List UInt8) :
    delimiter.FreeBefore 0 text := by
  intro offset hoffset
  exact absurd hoffset offset.not_lt_zero

theorem FreeBefore.append (h : delimiter.FreeBefore count text) (more : List UInt8) :
    delimiter.FreeBefore count (text ++ more) := by
  intro offset hoffset future
  rw [List.append_assoc]
  exact h offset hoffset (more ++ future)

theorem FreeBefore.trans (hfront : delimiter.FreeBefore front.length (front ++ rest))
    (hrest : delimiter.FreeBefore count rest) :
    delimiter.FreeBefore (front.length + count) (front ++ rest) := by
  intro offset hoffset future
  by_cases hlt : offset < front.length
  · exact hfront offset hlt future
  · obtain ⟨later, rfl⟩ := Nat.exists_eq_add_of_le (Nat.le_of_not_lt hlt)
    rw [List.append_assoc, occursAt_append]
    exact hrest later (by omega) future

theorem FreeBefore.not_occursAt (hfront : delimiter.FreeBefore front.length (front ++ rest))
    (hrest : ∀ offset, ¬delimiter.OccursAt rest offset) (offset : Nat) :
    ¬delimiter.OccursAt (front ++ rest) offset := by
  by_cases hlt : offset < front.length
  · have hnone := hfront offset hlt []
    rwa [List.append_nil] at hnone
  · obtain ⟨later, rfl⟩ := Nat.exists_eq_add_of_le (Nat.le_of_not_lt hlt)
    rw [occursAt_append]
    exact hrest later

/-- What is free of the delimiter ends before the first one. -/
theorem le_of_freeBefore {read left : List UInt8}
    (htext : front ++ (delimiter.bytes ++ rest) = read ++ left)
    (hfree : delimiter.FreeBefore count read) : count ≤ front.length := by
  apply Nat.le_of_not_lt
  intro hlt
  have hat := delimiter.occursAt_front front rest
  rw [htext] at hat
  exact hfree front.length hlt left hat

/-- There is one way to split a text at its first delimiter. -/
theorem eq_front_of_first {before left : List UInt8}
    (htext : front ++ (delimiter.bytes ++ rest) = before ++ (delimiter.bytes ++ left))
    (hfirst : ∀ count < front.length,
      ¬delimiter.OccursAt (front ++ (delimiter.bytes ++ rest)) count)
    (hle : before.length ≤ front.length) : before = front ∧ left = rest := by
  have hlength : before.length = front.length := by
    apply Nat.le_antisymm hle
    apply Nat.le_of_not_lt
    intro hlt
    have hat := delimiter.occursAt_front before left
    rw [← htext] at hat
    exact hfirst before.length hlt hat
  obtain ⟨hbefore, hrest⟩ := List.append_inj htext hlength.symm
  exact ⟨hbefore.symm, (List.append_cancel_left hrest).symm⟩

end FreeBefore

/-! ## Searching place by place -/

/-- The first place where the delimiter stands, found by trying one place after another. -/
def firstIn (delimiter : Delimiter) : List UInt8 → Option Nat
  | [] => none
  | value :: text =>
      if delimiter.OccursAt (value :: text) 0 then some 0
      else (delimiter.firstIn text).map (· + 1)

section firstIn

variable {delimiter : Delimiter} {text : List UInt8} {index : Nat}

theorem occursAt_cons_succ (delimiter : Delimiter) (value : UInt8) (text : List UInt8)
    (offset : Nat) :
    delimiter.OccursAt (value :: text) (offset + 1) ↔ delimiter.OccursAt text offset :=
  Iff.rfl

theorem firstIn_eq_none_iff : delimiter.firstIn text = none ↔
    ∀ offset, ¬delimiter.OccursAt text offset := by
  induction text with
  | nil =>
      refine iff_of_true rfl fun offset hoccurs => ?_
      have hle := hoccurs.add_length_le
      have hpos : 0 < delimiter.length := Nat.succ_pos _
      rw [List.length_nil] at hle
      omega
  | cons value text ih =>
      rw [firstIn]
      constructor
      · intro h offset hoccurs
        split at h
        · cases h
        · rename_i hnot
          cases offset with
          | zero => exact hnot hoccurs
          | succ offset => exact ih.mp (Option.map_eq_none_iff.mp h) offset hoccurs
      · intro h
        rw [if_neg (h 0), Option.map_eq_none_iff, ih]
        exact fun offset => h (offset + 1)

theorem firstIn_eq_some_iff : delimiter.firstIn text = some index ↔
    delimiter.OccursAt text index ∧ ∀ offset < index, ¬delimiter.OccursAt text offset := by
  induction text generalizing index with
  | nil =>
      have hnone := firstIn_eq_none_iff.mp (rfl : delimiter.firstIn [] = none)
      exact iff_of_false nofun fun h => hnone index h.1
  | cons value text ih =>
      rw [firstIn]
      by_cases hzero : delimiter.OccursAt (value :: text) 0
      · rw [if_pos hzero]
        constructor
        · rintro ⟨⟩
          exact ⟨hzero, fun offset hlt => absurd hlt offset.not_lt_zero⟩
        · rintro ⟨-, hfirst⟩
          cases index with
          | zero => rfl
          | succ index => exact absurd hzero (hfirst 0 index.succ_pos)
      · rw [if_neg hzero]
        cases index with
        | zero =>
            refine iff_of_false ?_ fun h => hzero h.1
            simp
        | succ index =>
            have hsucc : (delimiter.firstIn text).map (· + 1) = some (index + 1) ↔
                delimiter.firstIn text = some index := by
              cases delimiter.firstIn text <;> simp
            rw [hsucc, ih, occursAt_cons_succ]
            apply and_congr_right
            refine fun _ => ⟨fun hfirst offset hlt => ?_, fun hfirst offset hlt => ?_⟩
            · cases offset with
              | zero => exact hzero
              | succ offset => exact hfirst offset (Nat.lt_of_succ_lt_succ hlt)
            · exact hfirst (offset + 1) (Nat.succ_lt_succ hlt)

/-- A text is what stands before its first delimiter, the delimiter and the rest. -/
theorem split_of_firstIn (h : delimiter.firstIn text = some index) :
    ∃ front rest, text = front ++ (delimiter.bytes ++ rest) ∧ front.length = index ∧
      text.take index = front ∧ text.drop (index + delimiter.length) = rest ∧
      ∀ offset < front.length, ¬delimiter.OccursAt text offset := by
  obtain ⟨⟨rest, hrest⟩, hfirst⟩ := firstIn_eq_some_iff.mp h
  have hle := (firstIn_eq_some_iff.mp h).1.add_length_le
  have hlength : (text.take index).length = index := by
    rw [List.length_take]
    omega
  refine ⟨text.take index, rest, ?_, hlength, rfl, ?_, ?_⟩
  · rw [hrest, List.take_append_drop]
  · rw [← List.drop_drop, ← hrest, ← length_bytes, List.drop_left]
  · rwa [hlength]

theorem firstIn_of_short (h : text.length < delimiter.length) : delimiter.firstIn text = none := by
  rw [firstIn_eq_none_iff]
  intro offset hoccurs
  have hle := hoccurs.add_length_le
  omega

theorem firstIn_append {front rest : List UInt8}
    (h : ∀ offset < front.length, ¬delimiter.OccursAt (front ++ rest) offset) :
    delimiter.firstIn (front ++ rest) = (delimiter.firstIn rest).map (front.length + ·) := by
  induction front with
  | nil => simp
  | cons value front ih =>
      have hlater : ∀ offset < front.length, ¬delimiter.OccursAt (front ++ rest) offset :=
        fun offset hlt => h (offset + 1) (Nat.succ_lt_succ hlt)
      have hzero : ¬delimiter.OccursAt (value :: (front ++ rest)) 0 := h 0 (Nat.succ_pos _)
      rw [List.cons_append, firstIn, if_neg hzero, ih hlater, Option.map_map]
      congr 1
      funext index
      simp only [Function.comp_apply, List.length_cons]
      omega

end firstIn

/-- What stands in a text before the first delimiter: all of it if there is none. -/
def textBefore (delimiter : Delimiter) (text : List UInt8) : List UInt8 :=
  match delimiter.firstIn text with
  | some index => text.take index
  | none => text

section textBefore

variable {delimiter : Delimiter} {text : List UInt8}

theorem textBefore_of_none (h : delimiter.firstIn text = none) :
    delimiter.textBefore text = text := by
  rw [textBefore, h]

theorem textBefore_of_some {index : Nat} (h : delimiter.firstIn text = some index) :
    delimiter.textBefore text = text.take index := by
  rw [textBefore, h]

theorem length_textBefore_of_some {index : Nat} (h : delimiter.firstIn text = some index) :
    (delimiter.textBefore text).length = index := by
  have hle := (firstIn_eq_some_iff.mp h).1.add_length_le
  rw [textBefore_of_some h, List.length_take]
  omega

theorem textBefore_append {front rest : List UInt8}
    (h : ∀ offset < front.length, ¬delimiter.OccursAt (front ++ rest) offset) :
    delimiter.textBefore (front ++ rest) = front ++ delimiter.textBefore rest := by
  rw [textBefore, firstIn_append h, textBefore]
  cases delimiter.firstIn rest with
  | none => rfl
  | some index => exact List.take_length_add_append index

end textBefore

end Multipart.Delimiter
