import Multipart.Proofs.Delimiter.Occurrence

/-! # Shifts miss no delimiter

A window that differs from the delimiter slides past no place where the delimiter stands, whatever
comes after the window. The byte that differs has to meet an equal byte, and the bytes that agree
have to agree again. -/

namespace Multipart.Delimiter

/-! ## The byte that differs -/

theorem lt_afterLast {value : UInt8} {pattern : List UInt8} {index : Nat}
    (h : pattern[index]? = some value) : index < afterLast value pattern := by
  induction pattern generalizing index with
  | nil => simp at h
  | cons first rest ih =>
      cases index with
      | zero =>
          have hfirst : first = value := by simpa using h
          simp only [afterLast, hfirst]
          split <;> simp
      | succ index =>
          have hlt := ih (by simpa using h)
          simp only [afterLast]
          split
          · omega
          · omega

/-- The window may slide until the byte that differs meets its last equal in the delimiter. -/
theorem OccursAt.le_of_byteShift {delimiter : Delimiter} {text : List UInt8} {value : UInt8}
    {shift index : Nat} (h : delimiter.OccursAt text shift) (hindex : index < delimiter.length)
    (hvalue : text[index]? = some value) : index + 1 - delimiter.byteShift value ≤ shift := by
  by_cases hle : shift ≤ index
  · have hget := h.getElem? (index - shift) (by omega)
    rw [Nat.add_sub_cancel' hle, hvalue] at hget
    have hlt := lt_afterLast hget.symm
    rw [byteShift]
    omega
  · omega

/-! ## The suffix that agrees -/

/-- Sliding by a shift keeps so many bytes at the right in agreement. -/
def Agrees (reversed : List UInt8) (shift count : Nat) : Prop :=
  (reversed.drop shift).take count <+: reversed

instance (reversed : List UInt8) (shift count : Nat) : Decidable (Agrees reversed shift count) :=
  inferInstanceAs (Decidable (_ <+: _))

theorem agrees_length (reversed : List UInt8) (count : Nat) :
    Agrees reversed reversed.length count := by
  simp [Agrees]

theorem agrees_zero (reversed : List UInt8) (shift : Nat) : Agrees reversed shift 0 := by
  simp [Agrees]

theorem length_overlay (shift : Nat) (pattern slid : List UInt8) (slots : List Nat) :
    (overlay shift pattern slid slots).length = slots.length := by
  fun_induction overlay shift pattern slid slots with
  | case1 pattern a slid slot slots ih => rw [List.length_cons, List.length_cons, ih]
  | case2 => rfl
  | case3 => exact List.length_map _
  | case4 => rfl

theorem length_overlayFrom (reversed : List UInt8) (count : Nat) (slots : List Nat) :
    (overlayFrom reversed count slots).length = slots.length := by
  induction count generalizing slots with
  | zero => rfl
  | succ count ih => rw [overlayFrom, ih, length_overlay]

theorem getElem?_overlay (shift : Nat) (pattern slid : List UInt8) (slots : List Nat)
    (index : Nat) :
    (overlay shift pattern slid slots)[index]? =
      slots[index]?.map fun slot => if slid.take (index + 1) <+: pattern then shift else slot := by
  induction pattern, slid, slots using overlay.induct generalizing index with
  | case1 pattern a slid slot slots ih =>
      rw [overlay, if_pos rfl]
      cases index with
      | zero => simp
      | succ index => simp [ih]
  | case2 a pattern b slid slot slots hne =>
      have hne' : ¬b = a := Ne.symm hne
      rw [overlay, if_neg hne]
      simp [hne']
  | case3 pattern slots =>
      rw [overlay, List.getElem?_map]
      simp
  | case4 pattern slid slots hslid hother =>
      cases slots with
      | nil => simp [overlay]
      | cons slot slots =>
          cases slid with
          | nil => exact (hslid rfl).elim
          | cons b slid =>
              cases pattern with
              | nil => simp [overlay]
              | cons a pattern => exact (hother a pattern b slid slot slots rfl rfl rfl).elim

/-- The smallest of the shifts entered that keeps the bytes in agreement stays in a slot. -/
theorem getElem?_overlayFrom (reversed : List UInt8) (count : Nat) {slots : List Nat}
    {index slot : Nat} (h : (overlayFrom reversed count slots)[index]? = some slot) :
    (0 < slot ∧ slot ≤ count ∧ Agrees reversed slot (index + 1) ∧
        ∀ shift, 0 < shift → shift < slot → ¬Agrees reversed shift (index + 1)) ∨
      slots[index]? = some slot ∧
        ∀ shift, 0 < shift → shift ≤ count → ¬Agrees reversed shift (index + 1) := by
  induction count generalizing slots with
  | zero =>
      rw [overlayFrom] at h
      exact .inr ⟨h, by omega⟩
  | succ count ih =>
      rw [overlayFrom] at h
      rcases ih h with ⟨hpos, hle, hagrees, hleast⟩ | ⟨hslot, hnone⟩
      · exact .inl ⟨hpos, Nat.le_succ_of_le hle, hagrees, hleast⟩
      · rw [getElem?_overlay, Option.map_eq_some_iff] at hslot
        obtain ⟨old, hold, hslot⟩ := hslot
        have hslot : (if Agrees reversed (count + 1) (index + 1) then count + 1 else old) = slot :=
          hslot
        by_cases hagrees : Agrees reversed (count + 1) (index + 1)
        · rw [if_pos hagrees] at hslot
          subst hslot
          refine .inl ⟨count.succ_pos, Nat.le_refl _, hagrees, ?_⟩
          intro shift hpos hlt
          exact hnone shift hpos (Nat.le_of_lt_succ hlt)
        · rw [if_neg hagrees] at hslot
          refine .inr ⟨hslot ▸ hold, ?_⟩
          intro shift hpos hle
          by_cases heq : shift = count + 1
          · exact heq ▸ hagrees
          · exact hnone shift hpos (by omega)

/-! ## The shift of a suffix -/

/-- The bytes after an index and before `bound` agree with those that a shift brings under them,
where it brings any. -/
def Repeats (pattern : List UInt8) (bound index shift : Nat) : Prop :=
  ∀ later < bound, index < later → shift ≤ later → pattern[later]? = pattern[later - shift]?

instance (pattern : List UInt8) (bound index shift : Nat) :
    Decidable (Repeats pattern bound index shift) :=
  inferInstanceAs (Decidable (∀ later < bound, _))

theorem agrees_iff {reversed : List UInt8} {shift count : Nat} :
    Agrees reversed shift count ↔
      ∀ place < count, shift + place < reversed.length →
        reversed[place]? = reversed[shift + place]? := by
  have hget : ∀ place (h : place < ((reversed.drop shift).take count).length),
      some ((reversed.drop shift).take count)[place] = reversed[shift + place]? := by
    intro place h
    rw [List.length_take] at h
    rw [← List.getElem?_eq_getElem, List.getElem?_take_of_lt (by omega), List.getElem?_drop]
  rw [Agrees, List.prefix_iff_getElem?]
  constructor
  · intro h place hcount hlength
    have hplace : place < ((reversed.drop shift).take count).length := by
      rw [List.length_take, List.length_drop]
      omega
    rw [h place hplace, hget place hplace]
  · intro h place hplace
    rw [hget place hplace]
    rw [List.length_take, List.length_drop] at hplace
    exact h place (by omega) (by omega)

/-- The bytes after an index are those at the right, read the other way round. -/
theorem agrees_reverse_iff {pattern : List UInt8} {index shift : Nat}
    (hindex : index < pattern.length) :
    Agrees pattern.reverse shift (pattern.length - 1 - index) ↔
      Repeats pattern pattern.length index shift := by
  have hreverse : ∀ place < pattern.length,
      pattern.reverse[place]? = pattern[pattern.length - 1 - place]? :=
    fun place hplace => List.getElem?_reverse hplace
  rw [agrees_iff, List.length_reverse]
  constructor
  · intro h later hlater hlt hle
    have hplace := h (pattern.length - 1 - later) (by omega) (by omega)
    rw [hreverse _ (by omega), hreverse _ (by omega)] at hplace
    rwa [show pattern.length - 1 - (pattern.length - 1 - later) = later by omega,
      show pattern.length - 1 - (shift + (pattern.length - 1 - later)) = later - shift by omega]
      at hplace
  · intro h place hplace hlength
    have hlater := h (pattern.length - 1 - place) (by omega) (by omega) (by omega)
    rw [hreverse _ (by omega), hreverse _ hlength, hlater]
    congr 1
    omega

/-- The smallest shift for which the bytes after an index agree with those under them. -/
structure LeastShift (pattern : List UInt8) (index shift : Nat) : Prop where
  pos : 1 ≤ shift
  le_length : shift ≤ pattern.length
  repeats : Repeats pattern pattern.length index shift
  least : ∀ smaller, 1 ≤ smaller → smaller < shift →
    ¬Repeats pattern pattern.length index smaller

theorem leastShift_suffixShift (delimiter : Delimiter) {index : Nat}
    (hindex : index < delimiter.length) :
    LeastShift delimiter.bytes index (delimiter.suffixShift index) := by
  have hlength : 0 < delimiter.length := Nat.succ_pos _
  have hagrees : ∀ {count shift : Nat}, delimiter.length - 1 - index = count →
      (Agrees delimiter.bytes.reverse shift count ↔
        Repeats delimiter.bytes delimiter.length index shift) := by
    rintro _ shift rfl
    exact agrees_reverse_iff hindex
  have hshifts : delimiter.shifts = 1 :: overlayFrom delimiter.bytes.reverse delimiter.length
      (List.replicate (delimiter.length - 1) 1) := delimiter.shifts_eq
  rw [suffixShift, hshifts, List.getD_eq_getElem?_getD]
  cases hcount : delimiter.length - 1 - index with
  | zero =>
      rw [List.getElem?_cons_zero, Option.getD_some]
      exact ⟨Nat.le_refl 1, hlength, (hagrees hcount).mp (agrees_zero _ 1), by omega⟩
  | succ count =>
      have hin : count < (overlayFrom delimiter.bytes.reverse delimiter.length
          (List.replicate (delimiter.length - 1) 1)).length := by
        rw [length_overlayFrom, List.length_replicate]
        omega
      rw [List.getElem?_cons_succ, List.getElem?_eq_getElem hin, Option.getD_some]
      rcases getElem?_overlayFrom _ _ (List.getElem?_eq_getElem hin) with
        ⟨hpos, hle, hslot, hleast⟩ | ⟨-, hnone⟩
      · refine ⟨hpos, hle, (hagrees hcount).mp hslot, ?_⟩
        intro smaller hsmaller hlt hrepeats
        exact hleast smaller hsmaller hlt ((hagrees hcount).mpr hrepeats)
      · have hall := agrees_length delimiter.bytes.reverse (count + 1)
        rw [List.length_reverse, length_bytes] at hall
        exact absurd hall (hnone _ hlength (Nat.le_refl _))

/-- Where the delimiter stands a few bytes on, its bytes agree with those that the shift brings
under them. -/
theorem OccursAt.repeats {delimiter : Delimiter} {text : List UInt8} {shift index : Nat}
    (h : delimiter.OccursAt text shift)
    (hsame : ∀ k, index < k → k < delimiter.length → text[k]? = delimiter.bytes[k]?) :
    Repeats delimiter.bytes delimiter.length index shift := by
  intro later hlater hlt hle
  have hmeet := h.getElem? (later - shift) (by omega)
  rwa [Nat.add_sub_cancel' hle, hsame later hlt hlater] at hmeet

/-! ## The byte at the right -/

theorem getElem?_of_lastDifference_none {pattern window : List UInt8}
    (h : lastDifference pattern window = none) (k : Nat) (hpattern : k < pattern.length)
    (hwindow : k < window.length) : window[k]? = pattern[k]? := by
  induction pattern generalizing window k with
  | nil => simp at hpattern
  | cons a pattern ih =>
      cases window with
      | nil => simp at hwindow
      | cons b window =>
          simp only [lastDifference] at h
          cases hrest : lastDifference pattern window with
          | some index => simp [hrest] at h
          | none =>
              have hab : a = b := by simpa [hrest] using h
              cases k with
              | zero => simp [hab]
              | succ k => simpa using ih hrest k (by simpa using hpattern) (by simpa using hwindow)

theorem getElem?_of_lastDifference_some {pattern window : List UInt8} {index : Nat}
    (h : lastDifference pattern window = some index) :
    index < pattern.length ∧ window[index]? ≠ pattern[index]? ∧
      ∀ k, index < k → k < pattern.length → k < window.length → window[k]? = pattern[k]? := by
  induction pattern generalizing window index with
  | nil => simp [lastDifference] at h
  | cons a pattern ih =>
      cases window with
      | nil => simp [lastDifference] at h
      | cons b window =>
          simp only [lastDifference] at h
          cases hrest : lastDifference pattern window with
          | some last =>
              have hindex : last + 1 = index := by simpa [hrest] using h
              obtain ⟨hpattern, hne, hsame⟩ := ih hrest
              subst hindex
              refine ⟨by simpa using hpattern, by simpa using hne, ?_⟩
              intro k hk hpattern hwindow
              cases k with
              | zero => omega
              | succ k =>
                  simpa using hsame k (by omega) (by simpa using hpattern) (by simpa using hwindow)
          | none =>
              by_cases hab : a = b
              · simp [hrest, hab] at h
              · have hindex : 0 = index := by simpa [hrest, hab] using h
                subst hindex
                refine ⟨by simp, by simpa using Ne.symm hab, ?_⟩
                intro k hk hpattern hwindow
                cases k with
                | zero => omega
                | succ k =>
                    simpa using getElem?_of_lastDifference_none hrest k (by simpa using hpattern)
                      (by simpa using hwindow)

/-! ## What a comparison says -/

variable {delimiter : Delimiter} {window : List UInt8} {index : Nat}

theorem eq_bytes_of_mismatch_none (hlength : window.length = delimiter.length)
    (h : delimiter.mismatch window = none) : window = delimiter.bytes := by
  apply List.ext_getElem?
  intro k
  by_cases hk : k < delimiter.length
  · exact getElem?_of_lastDifference_none h k hk (by omega)
  · rw [List.getElem?_eq_none (by omega), List.getElem?_eq_none (by rw [length_bytes]; omega)]

/-- The window slides by at most its own length. -/
theorem shift_le_length (h : delimiter.mismatch window = some index) (value : UInt8) :
    delimiter.shift index value ≤ delimiter.length := by
  have hindex := (getElem?_of_lastDifference_some h).1
  rw [length_bytes] at hindex
  apply Nat.max_le.mpr
  constructor
  · omega
  · exact (delimiter.leastShift_suffixShift hindex).le_length

/-- The window slides past no delimiter. -/
theorem not_occursAt_of_lt_shift (hlength : window.length = delimiter.length)
    (h : delimiter.mismatch window = some index) {offset : Nat}
    (hoffset : offset < delimiter.shift index (window.getD index 0)) (future : List UInt8) :
    ¬delimiter.OccursAt (window ++ future) offset := by
  intro hoccurs
  obtain ⟨hindex, hne, hsame⟩ := getElem?_of_lastDifference_some h
  rw [length_bytes] at hindex
  have hwindow : ∀ k, k < delimiter.length → (window ++ future)[k]? = window[k]? := fun k hk =>
    List.getElem?_append_left (by omega)
  by_cases hzero : offset = 0
  · have hget := (hzero ▸ hoccurs).getElem? index hindex
    rw [Nat.zero_add, hwindow index hindex] at hget
    exact hne hget
  · have hcase : offset < index + 1 - delimiter.byteShift (window.getD index 0) ∨
        offset < delimiter.suffixShift index := by
      rw [shift] at hoffset
      omega
    rcases hcase with hbyte | hsuffix
    · have hvalue : (window ++ future)[index]? = some (window.getD index 0) := by
        rw [hwindow index hindex, List.getD_eq_getElem?_getD,
          List.getElem?_eq_getElem (by omega), Option.getD_some]
      exact Nat.not_le_of_lt hbyte (hoccurs.le_of_byteShift hindex hvalue)
    · have hleast := (delimiter.leastShift_suffixShift hindex).least offset
      refine hleast (Nat.pos_of_ne_zero hzero) hsuffix (hoccurs.repeats fun k hk hlt => ?_)
      rw [hwindow k hlt]
      exact hsame k hk hlt (by omega)

theorem freeBefore_of_mismatch (hlength : window.length = delimiter.length)
    (h : delimiter.mismatch window = some index) :
    delimiter.FreeBefore (window.take (delimiter.shift index (window.getD index 0))).length
      window := by
  intro offset hoffset future
  rw [List.length_take] at hoffset
  exact not_occursAt_of_lt_shift hlength h (by omega) future

end Multipart.Delimiter
