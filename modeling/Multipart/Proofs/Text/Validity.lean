import Multipart.Proofs.Text.Utf8

/-! # Which bytes are UTF-8

Bytes are read without fault exactly if they are the bytes of a text. From its first byte on a
character is read back: the machine lets only those bytes follow that the character is written
with. -/

namespace Multipart.Text.Utf8

/-! ## The bytes of a code point -/

theorem toNat_val_ofNat {v : Nat} (h : v.isValidChar) : (Char.ofNat v).val.toNat = v := by
  rw [Char.ofNat, dif_pos h]
  rfl

theorem utf8EncodeChar_one {v : Nat} (h : v < 0x80) :
    String.utf8EncodeChar (Char.ofNat v) = [UInt8.ofNat v] := by
  have hvalue := toNat_val_ofNat (v := v) (.inl (by omega))
  simp only [String.utf8EncodeChar, hvalue]
  rw [if_pos (by omega)]

theorem utf8EncodeChar_two {v : Nat} (hlow : 0x80 ≤ v) (hhigh : v < 0x800) :
    String.utf8EncodeChar (Char.ofNat v) =
      [UInt8.ofNat (v / 64 % 0x20 + 0xC0), UInt8.ofNat (v % 0x40 + 0x80)] := by
  have hvalue := toNat_val_ofNat (v := v) (.inl (by omega))
  simp only [String.utf8EncodeChar, hvalue]
  rw [if_neg (by omega), if_pos (by omega)]

theorem utf8EncodeChar_three {v : Nat} (hlow : 0x800 ≤ v) (hhigh : v < 0x10000)
    (hvalid : v < 0xD800 ∨ 0xDFFF < v) :
    String.utf8EncodeChar (Char.ofNat v) =
      [UInt8.ofNat (v / 4096 % 0x10 + 0xE0), UInt8.ofNat (v / 64 % 0x40 + 0x80),
        UInt8.ofNat (v % 0x40 + 0x80)] := by
  have hvalue := toNat_val_ofNat (v := v) (hvalid.imp_right fun h => ⟨h, by omega⟩)
  simp only [String.utf8EncodeChar, hvalue]
  rw [if_neg (by omega), if_neg (by omega), if_pos (by omega)]

theorem utf8EncodeChar_four {v : Nat} (hlow : 0x10000 ≤ v) (hhigh : v < 0x110000) :
    String.utf8EncodeChar (Char.ofNat v) =
      [UInt8.ofNat (v / 262144 % 0x08 + 0xF0), UInt8.ofNat (v / 4096 % 0x40 + 0x80),
        UInt8.ofNat (v / 64 % 0x40 + 0x80), UInt8.ofNat (v % 0x40 + 0x80)] := by
  have hvalue := toNat_val_ofNat (v := v) (.inr ⟨by omega, by omega⟩)
  simp only [String.utf8EncodeChar, hvalue]
  rw [if_neg (by omega), if_neg (by omega), if_neg (by omega)]

/-! ## Reading on -/

/-- What was found before stands in front. -/
theorem scanFrom_append (state : State) (found : List (Option Char)) (bytes : List UInt8) :
    scanFrom state found bytes = found.reverse ++ scanFrom state [] bytes := by
  induction bytes generalizing state found with
  | nil => simp [scanFrom]
  | cons byte rest ih =>
      rw [scanFrom_cons, ih, scanFrom_cons, ih _ ((step state byte).1.reverse ++ [])]
      simp

theorem none_not_mem_scanFrom_cons {state : State} {byte : UInt8} {rest : List UInt8} :
    none ∉ scanFrom state [] (byte :: rest) ↔
      none ∉ (step state byte).1 ∧ none ∉ scanFrom (step state byte).2 [] rest := by
  rw [scanFrom_cons, scanFrom_append]
  simp

/-- A byte that is owed is there, within its bounds. -/
theorem exists_owed {owed value : Nat} {low high : UInt8} {bytes : List UInt8}
    (h : none ∉ scanFrom (.inside owed low high value) [] bytes) :
    ∃ byte rest, bytes = byte :: rest ∧ low.toNat ≤ byte.toNat ∧ byte.toNat ≤ high.toNat ∧
      ∀ fewer, owed = fewer + 1 → none ∉ scanFrom
        (.inside fewer 0x80 0xBF (value * 64 + (byte.toNat - 0x80))) [] rest := by
  cases bytes with
  | nil => simp [scanFrom, finish] at h
  | cons byte rest =>
      obtain ⟨hfirst, hrest⟩ := none_not_mem_scanFrom_cons.mp h
      by_cases hin : low ≤ byte && byte ≤ high
      · have hbounds := hin
        simp only [Bool.and_eq_true, decide_eq_true_eq, UInt8.le_iff_toNat_le] at hbounds
        refine ⟨byte, rest, rfl, hbounds.1, hbounds.2, ?_⟩
        rintro fewer rfl
        simpa only [step, if_pos hin] using hrest
      · simp only [step, if_neg hin] at hfirst
        exact absurd List.mem_cons_self hfirst

/-! ## Bytes that are read whole -/

theorem exists_char_two {byte : UInt8} {rest : List UInt8} (hlow : 0xC2 ≤ byte.toNat)
    (hhigh : byte.toNat < 0xE0) (h : none ∉ scanFrom .between [] (byte :: rest)) :
    ∃ c tail, byte :: rest = String.utf8EncodeChar c ++ tail := by
  have hstart := start_two hlow hhigh
  rw [UInt8.ofNat_toNat] at hstart
  have hinside := (none_not_mem_scanFrom_cons.mp h).2
  rw [step, hstart] at hinside
  obtain ⟨second, tail, rfl, hlow₂, hhigh₂, -⟩ := exists_owed hinside
  simp only [UInt8.reduceToNat] at hlow₂ hhigh₂
  refine ⟨Char.ofNat ((byte.toNat - 0xC0) * 64 + (second.toNat - 0x80)), tail, ?_⟩
  rw [utf8EncodeChar_two (by omega) (by omega)]
  simp only [List.cons_append, List.nil_append, List.cons.injEq, and_true, ← UInt8.toNat_inj]
  rw [toNat_ofNat (by omega), toNat_ofNat (by omega)]
  omega

theorem exists_char_three {byte : UInt8} {rest : List UInt8} (hlow : 0xE0 ≤ byte.toNat)
    (hhigh : byte.toNat < 0xF0) (h : none ∉ scanFrom .between [] (byte :: rest)) :
    ∃ c tail, byte :: rest = String.utf8EncodeChar c ++ tail := by
  have hstart := start_three hlow hhigh
  rw [UInt8.ofNat_toNat] at hstart
  have hinside := (none_not_mem_scanFrom_cons.mp h).2
  rw [step, hstart] at hinside
  obtain ⟨second, rest, rfl, hlow₂, hhigh₂, hinside⟩ := exists_owed hinside
  obtain ⟨third, tail, rfl, hlow₃, hhigh₃, -⟩ := exists_owed (hinside 0 rfl)
  -- These bounds keep out the characters that two bytes hold, and the surrogates.
  have hleast : 0x80 ≤ second.toNat ∧ (byte.toNat = 0xE0 → 0xA0 ≤ second.toNat) := by
    split at hlow₂ <;> simp only [UInt8.reduceToNat] at hlow₂ <;> omega
  have hmost : second.toNat ≤ 0xBF ∧ (byte.toNat = 0xED → second.toNat ≤ 0x9F) := by
    split at hhigh₂ <;> simp only [UInt8.reduceToNat] at hhigh₂ <;> omega
  simp only [UInt8.reduceToNat] at hlow₃ hhigh₃
  refine ⟨Char.ofNat (((byte.toNat - 0xE0) * 64 + (second.toNat - 0x80)) * 64 +
    (third.toNat - 0x80)), tail, ?_⟩
  rw [utf8EncodeChar_three (by omega) (by omega) (by omega)]
  simp only [List.cons_append, List.nil_append, List.cons.injEq, and_true, ← UInt8.toNat_inj]
  rw [toNat_ofNat (by omega), toNat_ofNat (by omega), toNat_ofNat (by omega)]
  omega

theorem exists_char_four {byte : UInt8} {rest : List UInt8} (hlow : 0xF0 ≤ byte.toNat)
    (hhigh : byte.toNat < 0xF5) (h : none ∉ scanFrom .between [] (byte :: rest)) :
    ∃ c tail, byte :: rest = String.utf8EncodeChar c ++ tail := by
  have hstart := start_four hlow hhigh
  rw [UInt8.ofNat_toNat] at hstart
  have hinside := (none_not_mem_scanFrom_cons.mp h).2
  rw [step, hstart] at hinside
  obtain ⟨second, rest, rfl, hlow₂, hhigh₂, hinside⟩ := exists_owed hinside
  obtain ⟨third, rest, rfl, hlow₃, hhigh₃, hinside⟩ := exists_owed (hinside 1 rfl)
  obtain ⟨fourth, tail, rfl, hlow₄, hhigh₄, -⟩ := exists_owed (hinside 0 rfl)
  have hleast : 0x80 ≤ second.toNat ∧ (byte.toNat = 0xF0 → 0x90 ≤ second.toNat) := by
    split at hlow₂ <;> simp only [UInt8.reduceToNat] at hlow₂ <;> omega
  have hmost : second.toNat ≤ 0xBF ∧ (byte.toNat = 0xF4 → second.toNat ≤ 0x8F) := by
    split at hhigh₂ <;> simp only [UInt8.reduceToNat] at hhigh₂ <;> omega
  simp only [UInt8.reduceToNat] at hlow₃ hhigh₃ hlow₄ hhigh₄
  refine ⟨Char.ofNat ((((byte.toNat - 0xF0) * 64 + (second.toNat - 0x80)) * 64 +
    (third.toNat - 0x80)) * 64 + (fourth.toNat - 0x80)), tail, ?_⟩
  rw [utf8EncodeChar_four (by omega) (by omega)]
  simp only [List.cons_append, List.nil_append, List.cons.injEq, and_true, ← UInt8.toNat_inj]
  rw [toNat_ofNat (by omega), toNat_ofNat (by omega), toNat_ofNat (by omega),
    toNat_ofNat (by omega)]
  omega

/-- Bytes that are read whole start with a character. -/
theorem exists_char {byte : UInt8} {rest : List UInt8}
    (h : none ∉ scanFrom .between [] (byte :: rest)) :
    ∃ c tail, byte :: rest = String.utf8EncodeChar c ++ tail := by
  by_cases hone : byte.toNat < 0x80
  · refine ⟨Char.ofNat byte.toNat, rest, ?_⟩
    rw [utf8EncodeChar_one hone, UInt8.ofNat_toNat, List.singleton_append]
  · by_cases hlead : 0xC2 ≤ byte.toNat ∧ byte.toNat < 0xF5
    · rcases Nat.lt_or_ge byte.toNat 0xE0 with htwo | htwo
      · exact exists_char_two hlead.1 htwo h
      · rcases Nat.lt_or_ge byte.toNat 0xF0 with hthree | hthree
        · exact exists_char_three htwo hthree h
        · exact exists_char_four hthree hlead.2 h
    · have hfirst := (none_not_mem_scanFrom_cons.mp h).1
      simp only [step, start, UInt8.lt_iff_toNat_lt, UInt8.reduceToNat, if_neg hone] at hfirst
      by_cases hcontinuation : byte.toNat < 0xC2
      · simp [hcontinuation] at hfirst
      · have hhigh : ¬byte.toNat < 0xF5 := by omega
        rw [if_neg hcontinuation, if_neg (by omega), if_neg (by omega), if_neg hhigh] at hfirst
        simp at hfirst

/-- Bytes that are read whole are the bytes of the text read. -/
theorem encode_of_scan {bytes : List UInt8} (h : none ∉ scan bytes) :
    ∃ text, encode text = bytes := by
  induction hlength : bytes.length using Nat.strongRecOn generalizing bytes with
  | ind length ih =>
      cases bytes with
      | nil => exact ⟨[], rfl⟩
      | cons byte rest =>
          obtain ⟨c, tail, hsplit⟩ := exists_char h
          have hshort : tail.length < length := by
            rw [← hlength, hsplit, List.length_append, String.length_utf8EncodeChar]
            exact Nat.lt_add_of_pos_left (Char.utf8Size_pos c)
          rw [hsplit, scan, scanFrom_utf8EncodeChar, scanFrom_append] at h
          have htail : none ∉ scan tail := fun hmem => h (List.mem_append_right _ hmem)
          obtain ⟨text, htext⟩ := ih _ hshort htail rfl
          exact ⟨c :: text, by rw [hsplit, ← htext]; rfl⟩

/-- Bytes are read exactly if they are the bytes of a text, which is then read. -/
theorem decode?_eq_some_iff {bytes : List UInt8} {text : List Char} :
    decode? bytes = some text ↔ encode text = bytes := by
  constructor
  · intro h
    have hwhole : none ∉ scan bytes := by
      intro hmem
      have hall : ¬(scan bytes).all Option.isSome := by
        intro hall
        exact absurd (List.all_eq_true.mp hall none hmem) (by simp)
      rw [decode?] at h
      simp only [hall, Bool.false_eq_true, ite_false, reduceCtorEq] at h
    obtain ⟨other, rfl⟩ := encode_of_scan hwhole
    rw [decode?_encode, Option.some.injEq] at h
    rw [h]
  · rintro rfl
    exact decode?_encode text

theorem decode?_eq_none_iff {bytes : List UInt8} :
    decode? bytes = none ↔ ∀ text, encode text ≠ bytes := by
  rw [Option.eq_none_iff_forall_ne_some]
  simp only [ne_eq, decode?_eq_some_iff]

end Multipart.Text.Utf8
