import Multipart.Text.Utf8

/-! # Texts through UTF-8

Reading the bytes of a text gives the text back. A character is read byte by byte: its first byte
says how many are owed, and each of these adds six bits. -/

namespace Multipart.Text.Utf8

/-! ## Single bytes -/

theorem toNat_ofNat {n : Nat} (h : n < 256) : (UInt8.ofNat n).toNat = n := by
  rw [UInt8.toNat_ofNat', Nat.mod_eq_of_lt h]

theorem ofNat_lt_iff {n : Nat} (h : n < 256) (byte : UInt8) :
    UInt8.ofNat n < byte ↔ n < byte.toNat := by
  rw [UInt8.lt_iff_toNat_lt, toNat_ofNat h]

theorem ofNat_eq_iff {n : Nat} (h : n < 256) (byte : UInt8) :
    UInt8.ofNat n = byte ↔ n = byte.toNat := by
  rw [← UInt8.toNat_inj, toNat_ofNat h]

theorem start_one {n : Nat} (h : n < 0x80) :
    start (UInt8.ofNat n) = ([some (Char.ofNat n)], .between) := by
  have hbyte : n < 256 := by omega
  have hascii : UInt8.ofNat n < 0x80 := (ofNat_lt_iff hbyte _).mpr h
  rw [start, if_pos hascii, toNat_ofNat hbyte]

theorem start_two {n : Nat} (hlow : 0xC2 ≤ n) (hhigh : n < 0xE0) :
    start (UInt8.ofNat n) = ([], .inside 0 0x80 0xBF (n - 0xC0)) := by
  have hbyte : n < 256 := by omega
  simp only [start, ofNat_lt_iff hbyte, UInt8.reduceToNat, toNat_ofNat hbyte]
  rw [if_neg (by omega), if_neg (by omega), if_pos hhigh]

theorem start_three {n : Nat} (hlow : 0xE0 ≤ n) (hhigh : n < 0xF0) :
    start (UInt8.ofNat n) =
      ([], .inside 1 (if n = 0xE0 then 0xA0 else 0x80) (if n = 0xED then 0x9F else 0xBF)
        (n - 0xE0)) := by
  have hbyte : n < 256 := by omega
  simp only [start, ofNat_lt_iff hbyte, ofNat_eq_iff hbyte, UInt8.reduceToNat, toNat_ofNat hbyte]
  rw [if_neg (by omega), if_neg (by omega), if_neg (by omega), if_pos hhigh]

theorem start_four {n : Nat} (hlow : 0xF0 ≤ n) (hhigh : n < 0xF5) :
    start (UInt8.ofNat n) =
      ([], .inside 2 (if n = 0xF0 then 0x90 else 0x80) (if n = 0xF4 then 0x8F else 0xBF)
        (n - 0xF0)) := by
  have hbyte : n < 256 := by omega
  simp only [start, ofNat_lt_iff hbyte, ofNat_eq_iff hbyte, UInt8.reduceToNat, toNat_ofNat hbyte]
  rw [if_neg (by omega), if_neg (by omega), if_neg (by omega), if_neg (by omega), if_pos hhigh]

/-- A byte that is owed adds its last six bits. -/
theorem step_inside (owed value : Nat) {n : Nat} {low high : UInt8} (hn : n < 64)
    (hlow : low.toNat ≤ n + 0x80) (hhigh : n + 0x80 ≤ high.toNat) :
    step (.inside owed low high value) (UInt8.ofNat (n + 0x80)) =
      match owed with
      | 0 => ([some (Char.ofNat (value * 64 + n))], .between)
      | owed + 1 => ([], .inside owed 0x80 0xBF (value * 64 + n)) := by
  have hbyte : n + 0x80 < 256 := by omega
  have hin : (decide (low ≤ UInt8.ofNat (n + 0x80)) && decide (UInt8.ofNat (n + 0x80) ≤ high)) =
      true := by
    simp only [UInt8.le_iff_toNat_le, toNat_ofNat hbyte, hlow, hhigh, decide_true, Bool.and_true]
  cases owed with
  | zero => simp only [step, if_pos hin, toNat_ofNat hbyte, Nat.add_sub_cancel]
  | succ owed => simp only [step, if_pos hin, toNat_ofNat hbyte, Nat.add_sub_cancel]

/-! ## Characters -/

theorem scanFrom_cons (state : State) (found : List (Option Char)) (byte : UInt8)
    (rest : List UInt8) :
    scanFrom state found (byte :: rest) =
      scanFrom (step state byte).2 ((step state byte).1.reverse ++ found) rest := rfl

theorem scanFrom_two {v : Nat} (hlow : 0x80 ≤ v) (hhigh : v < 0x800)
    (found : List (Option Char)) (rest : List UInt8) :
    scanFrom .between found
        (UInt8.ofNat (v / 64 % 0x20 + 0xC0) :: UInt8.ofNat (v % 0x40 + 0x80) :: rest) =
      scanFrom .between (some (Char.ofNat v) :: found) rest := by
  have hfirst := start_two (n := v / 64 % 0x20 + 0xC0) (by omega) (by omega)
  have hlead : v / 64 % 0x20 + 0xC0 - 0xC0 = v / 64 := by omega
  have hvalue : v / 64 * 64 + v % 0x40 = v := by omega
  rw [scanFrom_cons, step, hfirst, hlead, scanFrom_cons,
    step_inside 0 (v / 64) (by omega) (by simp) (by simp; omega), hvalue]
  rfl

theorem scanFrom_three {v : Nat} (hlow : 0x800 ≤ v) (hhigh : v < 0x10000)
    (hvalid : v < 0xD800 ∨ 0xDFFF < v) (found : List (Option Char)) (rest : List UInt8) :
    scanFrom .between found
        (UInt8.ofNat (v / 4096 % 0x10 + 0xE0) :: UInt8.ofNat (v / 64 % 0x40 + 0x80) ::
          UInt8.ofNat (v % 0x40 + 0x80) :: rest) =
      scanFrom .between (some (Char.ofNat v) :: found) rest := by
  have hfirst := start_three (n := v / 4096 % 0x10 + 0xE0) (by omega) (by omega)
  have hlead : v / 4096 % 0x10 + 0xE0 - 0xE0 = v / 4096 := by omega
  have hvalue : (v / 4096 * 64 + v / 64 % 0x40) * 64 + v % 0x40 = v := by omega
  rw [scanFrom_cons, step, hfirst, hlead, scanFrom_cons,
    step_inside 1 (v / 4096) (by omega) (by split <;> simp; omega)
      (by split <;> simp <;> omega), scanFrom_cons,
    step_inside 0 _ (by omega) (by simp) (by simp; omega), hvalue]
  rfl

theorem scanFrom_four {v : Nat} (hlow : 0x10000 ≤ v) (hhigh : v < 0x110000)
    (found : List (Option Char)) (rest : List UInt8) :
    scanFrom .between found
        (UInt8.ofNat (v / 262144 % 0x08 + 0xF0) :: UInt8.ofNat (v / 4096 % 0x40 + 0x80) ::
          UInt8.ofNat (v / 64 % 0x40 + 0x80) :: UInt8.ofNat (v % 0x40 + 0x80) :: rest) =
      scanFrom .between (some (Char.ofNat v) :: found) rest := by
  have hfirst := start_four (n := v / 262144 % 0x08 + 0xF0) (by omega) (by omega)
  have hlead : v / 262144 % 0x08 + 0xF0 - 0xF0 = v / 262144 := by omega
  have hvalue : ((v / 262144 * 64 + v / 4096 % 0x40) * 64 + v / 64 % 0x40) * 64 + v % 0x40 = v := by
    omega
  rw [scanFrom_cons, step, hfirst, hlead, scanFrom_cons,
    step_inside 2 (v / 262144) (by omega) (by split <;> simp; omega)
      (by split <;> simp <;> omega), scanFrom_cons,
    step_inside 1 _ (by omega) (by simp) (by simp; omega), scanFrom_cons,
    step_inside 0 _ (by omega) (by simp) (by simp; omega), hvalue]
  rfl

theorem scanFrom_utf8EncodeChar (c : Char) (found : List (Option Char)) (rest : List UInt8) :
    scanFrom .between found (String.utf8EncodeChar c ++ rest) =
      scanFrom .between (some c :: found) rest := by
  have hvalid : c.val.toNat < 0xD800 ∨ 0xDFFF < c.val.toNat ∧ c.val.toNat < 0x110000 := c.valid
  have hchar : Char.ofNat c.val.toNat = c := Char.ofNat_toNat c
  simp only [String.utf8EncodeChar]
  generalize c.val.toNat = v at hvalid hchar
  rw [← hchar]
  split
  · rename_i hone
    rw [List.singleton_append, scanFrom_cons, step, start_one (by omega)]
    rfl
  · split
    · exact scanFrom_two (by omega) (by omega) found rest
    · split
      · exact scanFrom_three (by omega) (by omega) (by omega) found rest
      · exact scanFrom_four (by omega) (by omega) found rest

theorem scanFrom_encode (text : List Char) (found : List (Option Char)) :
    scanFrom .between found (encode text) = found.reverse ++ text.map some := by
  induction text generalizing found with
  | nil => simp [encode, scanFrom, finish]
  | cons c text ih =>
      rw [encode, List.flatMap_cons, scanFrom_utf8EncodeChar, ← encode, ih]
      simp

/-- The text of the bytes of a text is that text. -/
theorem decode?_encode (text : List Char) : decode? (encode text) = some text := by
  have hscan : scan (encode text) = text.map some := scanFrom_encode text []
  have hall : (text.map some).all Option.isSome := by simp
  have hsame : (text.map some).filterMap id = text := by simp
  rw [decode?, hscan]
  simp only [hall, ite_true, hsame]

theorem encode_append (first second : List Char) :
    encode (first ++ second) = encode first ++ encode second :=
  List.flatMap_append

theorem encode_ne_nil {text : List Char} (h : text ≠ []) : encode text ≠ [] := by
  obtain ⟨c, rest, rfl⟩ := List.exists_cons_of_ne_nil h
  rw [encode, List.flatMap_cons]
  exact List.append_ne_nil_of_left_ne_nil String.utf8EncodeChar_ne_nil _

/-! ## Bytes below 80 -/

/-- A byte below 80 stands for itself: no other character has it among its bytes. -/
theorem toNat_of_mem_utf8EncodeChar {c : Char} {byte : UInt8}
    (h : byte ∈ String.utf8EncodeChar c) (hbyte : byte.toNat < 0x80) : c.toNat = byte.toNat := by
  have hvalid : c.val.toNat < 0xD800 ∨ 0xDFFF < c.val.toNat ∧ c.val.toNat < 0x110000 := c.valid
  change c.val.toNat = byte.toNat
  simp only [String.utf8EncodeChar] at h
  generalize c.val.toNat = v at hvalid h
  split at h
  · rw [List.mem_singleton.mp h, toNat_ofNat (by omega)]
  · split at h
    · simp only [List.mem_cons, List.not_mem_nil, or_false] at h
      rcases h with rfl | rfl <;> rw [toNat_ofNat (by omega)] at hbyte <;> omega
    · split at h
      · simp only [List.mem_cons, List.not_mem_nil, or_false] at h
        rcases h with rfl | rfl | rfl <;> rw [toNat_ofNat (by omega)] at hbyte <;> omega
      · simp only [List.mem_cons, List.not_mem_nil, or_false] at h
        rcases h with rfl | rfl | rfl | rfl <;> rw [toNat_ofNat (by omega)] at hbyte <;> omega

theorem mem_of_mem_encode {text : List Char} {byte : UInt8} (h : byte ∈ encode text)
    (hbyte : byte.toNat < 0x80) : Char.ofNat byte.toNat ∈ text := by
  obtain ⟨c, hc, hmem⟩ := List.mem_flatMap.mp h
  rw [← toNat_of_mem_utf8EncodeChar hmem hbyte, Char.ofNat_toNat]
  exact hc

end Multipart.Text.Utf8
