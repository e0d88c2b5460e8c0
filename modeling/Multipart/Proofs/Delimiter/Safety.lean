import Multipart.Proofs.Delimiter.Shifts

/-! # Shifts that are safe

A window is compared from the right and slides by the shift that its last difference allows. It
slides on by its own length at most, and past no place where the delimiter may stand: what the
window shows already differs from a delimiter there. -/

namespace Multipart.Delimiter

variable {delimiter : Delimiter} {window : List UInt8} {index count : Nat}

/-! ## The last difference -/

/-- The last index at which a window differs from the delimiter. -/
structure LastDiffers (delimiter : Delimiter) (window : List UInt8) (index : Nat) : Prop where
  lt_length : index < delimiter.length
  differs : window[index]? ≠ delimiter.bytes[index]?
  same_after : ∀ later, index < later → later < delimiter.length →
    window[later]? = delimiter.bytes[later]?

theorem LastDiffers.unique {other : Nat} (h : delimiter.LastDiffers window index)
    (hother : delimiter.LastDiffers window other) : index = other := by
  apply Nat.le_antisymm
  · apply Nat.le_of_not_lt
    intro hlt
    exact h.differs (hother.same_after index hlt h.lt_length)
  · apply Nat.le_of_not_lt
    intro hlt
    exact hother.differs (h.same_after other hlt hother.lt_length)

theorem lastDiffers_of_mismatch (hlength : window.length = delimiter.length)
    (h : delimiter.mismatch window = some index) : delimiter.LastDiffers window index := by
  obtain ⟨hindex, hne, hsame⟩ := getElem?_of_lastDifference_some h
  exact ⟨hindex, hne, fun later hlater hlast => hsame later hlater hlast (by omega)⟩

/-- Comparing from the right finds the last difference, if there is one. -/
theorem mismatch_eq_some_iff (hlength : window.length = delimiter.length) :
    delimiter.mismatch window = some index ↔ delimiter.LastDiffers window index := by
  refine ⟨lastDiffers_of_mismatch hlength, fun hlast => ?_⟩
  cases hmismatch : delimiter.mismatch window with
  | none =>
      have hbytes := eq_bytes_of_mismatch_none hlength hmismatch
      exact absurd (congrArg (·[index]?) hbytes) hlast.differs
  | some found => rw [hlast.unique (lastDiffers_of_mismatch hlength hmismatch)]

/-! ## Places that a window rules out -/

/-- What a window shows differs from the delimiter that stands so many places further on. -/
def RulesOut (delimiter : Delimiter) (window : List UInt8) (count : Nat) : Prop :=
  ∃ index, count ≤ index ∧ index < delimiter.length ∧
    delimiter.bytes[index - count]? ≠ window[index]?

/-- A window that does not rule out a place may go on so that the delimiter stands there. -/
theorem occursAt_of_not_rulesOut (hlength : window.length = delimiter.length)
    (hcount : count ≤ delimiter.length) (h : ¬delimiter.RulesOut window count) :
    delimiter.OccursAt (window ++ delimiter.bytes.drop (delimiter.length - count)) count := by
  have hshown : window.drop count = delimiter.bytes.take (delimiter.length - count) := by
    apply List.ext_getElem?
    intro place
    rw [List.getElem?_drop]
    by_cases hplace : count + place < delimiter.length
    · rw [List.getElem?_take_of_lt (by omega)]
      apply Decidable.byContradiction
      intro hne
      refine h ⟨count + place, Nat.le_add_right _ _, hplace, ?_⟩
      rw [Nat.add_sub_cancel_left]
      exact Ne.symm hne
    · rw [List.getElem?_eq_none (by omega), List.getElem?_take_eq_none (by omega)]
  refine ⟨[], ?_⟩
  rw [List.append_nil, List.drop_append_of_le_length (by omega), hshown, List.take_append_drop]

/-- A place is ruled out if the delimiter stands there in no text that goes on from the window. -/
theorem rulesOut_iff (hlength : window.length = delimiter.length)
    (hcount : count ≤ delimiter.length) :
    delimiter.RulesOut window count ↔
      ∀ future, ¬delimiter.OccursAt (window ++ future) count := by
  constructor
  · rintro ⟨index, hindex, hlast, hne⟩ future hoccurs
    have hget := hoccurs.getElem? (index - count) (by omega)
    rw [Nat.add_sub_cancel' hindex, List.getElem?_append_left (by omega)] at hget
    exact hne hget.symm
  · intro hfree
    apply Classical.byContradiction
    intro hnot
    exact hfree _ (occursAt_of_not_rulesOut hlength hcount hnot)

/-! ## The shift -/

/-- A window that differs from the delimiter may slide by so much: it slides on by its length at
most, and at no place before does the delimiter stand, however the text goes on. -/
structure Safe (delimiter : Delimiter) (window : List UInt8) (shift : Nat) : Prop where
  pos : 1 ≤ shift
  le_length : shift ≤ delimiter.length
  rulesOut : ∀ count, 0 < count → count < shift → delimiter.RulesOut window count
  not_occursAt : ∀ count, 0 < count → count < shift → ∀ future,
    ¬delimiter.OccursAt (window ++ future) count

/-- A window finds its last difference if it has one, and then slides past no delimiter. -/
theorem shift_safe (hlength : window.length = delimiter.length) (index : Nat) :
    (delimiter.mismatch window = some index ↔ delimiter.LastDiffers window index) ∧
      (delimiter.mismatch window = some index →
        delimiter.Safe window (delimiter.shift index (window.getD index 0))) := by
  refine ⟨mismatch_eq_some_iff hlength, fun h => ?_⟩
  have hpos := delimiter.shift_pos index (window.getD index 0)
  have hle := shift_le_length h (window.getD index 0)
  have hfree : ∀ count, count < delimiter.shift index (window.getD index 0) → ∀ future,
      ¬delimiter.OccursAt (window ++ future) count :=
    fun count hlt future => not_occursAt_of_lt_shift hlength h hlt future
  constructor
  · exact hpos
  · exact hle
  · intro count _ hlt
    rw [rulesOut_iff hlength (by omega)]
    exact hfree count hlt
  · intro count _ hlt
    exact hfree count hlt

/-- A delimiter that repeats its first half: two hyphens, a letter, two hyphens and the letter. -/
def doubled : Delimiter := .ofBytes [65, Octet.dash, Octet.dash, 65]

/-- The byte that differs stands again at the end of the delimiter, and allows no shift itself. -/
def halfSeen : List UInt8 := [Octet.dash, 65, 65, Octet.dash, Octet.dash, 65]

theorem shift_safe_doubled :
    halfSeen.length = doubled.length ∧ doubled.mismatch halfSeen = some 1 ∧
      doubled.shift 1 (halfSeen.getD 1 0) = 3 ∧ doubled.Safe halfSeen 3 :=
  ⟨rfl, by decide, by decide, (@shift_safe doubled halfSeen rfl 1).2 (by decide)⟩

end Multipart.Delimiter
