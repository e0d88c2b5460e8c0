import Multipart.Octet

/-!
# Delimiters and their shifts

A delimiter is two hyphens and a boundary token. It is compared with a window of its own length from
the right; after a mismatch the window may slide by the larger of two shifts, one from the byte that
differs and one from the suffix that agrees. The suffix shifts are tabulated by one pass over all
candidate shifts, largest first. The main statement says that every shift makes progress.
-/

namespace Multipart

namespace Delimiter

/-! ## The byte that differs -/

/-- The index after the last occurrence of a byte, or zero if there is none. -/
def afterLast (value : UInt8) : List UInt8 → Nat
  | [] => 0
  | first :: rest =>
      match afterLast value rest with
      | 0 => if first = value then 1 else 0
      | index + 1 => index + 2

example : afterLast 97 [97, 98, 97, 98] = 3 ∧ afterLast 99 [97, 98] = 0 := by decide

/-! ## The suffix that agrees -/

/-- Enters a shift for every suffix that agrees with the pattern slid by that shift. The pattern
and the slid pattern are read from the right; where the slid pattern has run out, all longer
suffixes agree too. -/
def overlay (shift : Nat) : List UInt8 → List UInt8 → List Nat → List Nat
  | a :: pattern, b :: slid, slot :: slots =>
      if a = b then shift :: overlay shift pattern slid slots else slot :: slots
  | _, [], slots => slots.map fun _ => shift
  | _, _, slots => slots

/-- Enters the shifts from `shift` down to one, so that the smallest one stays in each slot. -/
def overlayFrom (reversed : List UInt8) : Nat → List Nat → List Nat
  | 0, slots => slots
  | shift + 1, slots =>
      overlayFrom reversed shift
        (overlay (shift + 1) reversed (reversed.drop (shift + 1)) slots)

/-- For each number of bytes that may agree, the smallest shift that keeps them in agreement. -/
def suffixShifts (pattern : List UInt8) : List Nat :=
  1 :: overlayFrom pattern.reverse pattern.length (List.replicate (pattern.length - 1) 1)

example : suffixShifts [97, 98, 97, 98] = [1, 2, 2, 2] := rfl

/-! ## The byte at the right -/

/-- The last index at which two lists differ. -/
def lastDifference : List UInt8 → List UInt8 → Option Nat
  | a :: pattern, b :: window =>
      match lastDifference pattern window with
      | some index => some (index + 1)
      | none => if a = b then none else some 0
  | _, _ => none

end Delimiter

/-- A boundary token with the suffix shifts of its delimiter line's first bytes. -/
structure Delimiter where
  token : List UInt8
  /-- The shift for each number of bytes at the right that agree. -/
  shifts : List Nat
  shifts_eq : shifts = Delimiter.suffixShifts (Octet.dash :: Octet.dash :: token)

namespace Delimiter

def ofBytes (token : List UInt8) : Delimiter :=
  ⟨token, suffixShifts (Octet.dash :: Octet.dash :: token), rfl⟩

/-- The bytes that open a delimiter line. -/
def bytes (delimiter : Delimiter) : List UInt8 :=
  Octet.dash :: Octet.dash :: delimiter.token

/-- The number of bytes, which is at least two. -/
def length (delimiter : Delimiter) : Nat :=
  delimiter.token.length + 2

def byteShift (delimiter : Delimiter) (value : UInt8) : Nat :=
  afterLast value delimiter.bytes

/-- The shift that the bytes after an index allow when they agree. -/
def suffixShift (delimiter : Delimiter) (index : Nat) : Nat :=
  delimiter.shifts.getD (delimiter.length - 1 - index) 1

/-- The last index at which a window differs from the delimiter. -/
def mismatch (delimiter : Delimiter) (window : List UInt8) : Option Nat :=
  lastDifference delimiter.bytes window

/-- How far the window may slide after it differs at an index, where it holds `value`. -/
def shift (delimiter : Delimiter) (index : Nat) (value : UInt8) : Nat :=
  max (index + 1 - delimiter.byteShift value) (delimiter.suffixShift index)

/-! ## Progress -/

theorem pos_of_mem_overlay {shift : Nat} (hshift : 0 < shift) (pattern slid : List UInt8)
    {slots : List Nat} (h : ∀ slot ∈ slots, 0 < slot) :
    ∀ slot ∈ overlay shift pattern slid slots, 0 < slot := by
  fun_induction overlay shift pattern slid slots with
  | case1 pattern a slid slot slots ih =>
      simp only [List.mem_cons, forall_eq_or_imp] at h ⊢
      exact ⟨hshift, ih h.2⟩
  | case2 => exact h
  | case3 =>
      intro slot hslot
      obtain ⟨_, -, rfl⟩ := List.mem_map.1 hslot
      exact hshift
  | case4 => exact h

theorem pos_of_mem_overlayFrom (reversed : List UInt8) (shift : Nat) {slots : List Nat}
    (h : ∀ slot ∈ slots, 0 < slot) : ∀ slot ∈ overlayFrom reversed shift slots, 0 < slot := by
  induction shift generalizing slots with
  | zero => exact h
  | succ shift ih => exact ih (pos_of_mem_overlay (Nat.succ_pos shift) _ _ h)

theorem suffixShift_pos (delimiter : Delimiter) (index : Nat) :
    0 < delimiter.suffixShift index := by
  have hall : ∀ slot ∈ delimiter.shifts, 0 < slot := by
    rw [delimiter.shifts_eq, suffixShifts]
    refine List.forall_mem_cons.2 ⟨Nat.one_pos, pos_of_mem_overlayFrom _ _ fun slot hslot => ?_⟩
    rw [List.eq_of_mem_replicate hslot]
    exact Nat.one_pos
  rw [suffixShift, List.getD_eq_getElem?_getD]
  cases hslot : delimiter.shifts[delimiter.length - 1 - index]? with
  | none => exact Nat.one_pos
  | some slot => exact hall slot (List.mem_of_getElem? hslot)

/-- The window slides by at least one byte. -/
theorem shift_pos (delimiter : Delimiter) (index : Nat) (value : UInt8) :
    0 < delimiter.shift index value :=
  Nat.lt_of_lt_of_le (delimiter.suffixShift_pos index) (Nat.le_max_right _ _)

end Delimiter

end Multipart
