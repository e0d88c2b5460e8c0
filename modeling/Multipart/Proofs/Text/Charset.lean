import Multipart.Proofs.Text.Lines
import Multipart.Proofs.Text.Validity
import Multipart.Text.Charset

/-! # Texts that are not UTF-8

Bytes that are not UTF-8 and start with no byte order mark are one character each. ASCII bytes are
the same characters either way, and no other byte is taken for one of them, so that the lines of the
text are the lines of the bytes. -/

namespace Multipart.Text

variable {bytes : List UInt8}

namespace Windows1252

theorem char_of_ascii {byte : UInt8} (h : byte < 0x80) : char byte = Char.ofNat byte.toNat := by
  have hlow : ¬0x80 ≤ byte := UInt8.not_le.mpr h
  simp [char, hlow]

theorem toNat_char_of_ascii {byte : UInt8} (h : byte < 0x80) : (char byte).toNat = byte.toNat := by
  have hbyte : byte.toNat < 0x80 := UInt8.lt_iff_toNat_lt.mp h
  rw [char_of_ascii h]
  exact Utf8.toNat_val_ofNat (.inl (by omega))

/-- A byte that is not ASCII is a character that is not ASCII. -/
theorem toNat_char_ge {byte : UInt8} (h : ¬byte < 0x80) : 0x80 ≤ (char byte).toNat := by
  have hall : ∀ n < 256, 0x80 ≤ n → 0x80 ≤ (char (UInt8.ofNat n)).toNat := by decide +kernel
  have hbyte := hall byte.toNat byte.toNat_lt
  rw [UInt8.ofNat_toNat] at hbyte
  apply hbyte
  rw [UInt8.lt_iff_toNat_lt] at h
  exact Nat.le_of_not_lt h

/-- The line feed is one byte, and no other byte is a line feed. -/
theorem char_eq_newline_iff (byte : UInt8) : char byte = '\n' ↔ byte = Octet.lf := by
  constructor
  · intro h
    have hcode : (char byte).toNat = 10 := by
      rw [h]
      rfl
    by_cases hascii : byte < 0x80
    · rw [toNat_char_of_ascii hascii] at hcode
      exact UInt8.toNat_inj.mp hcode
    · have hhigh := toNat_char_ge hascii
      omega
  · rintro rfl
    rfl

/-- The text of ASCII bytes has these bytes. -/
theorem encode_decode_of_ascii (h : ∀ byte ∈ bytes, byte < 0x80) :
    Utf8.encode (decode bytes) = bytes := by
  induction bytes with
  | nil => rfl
  | cons byte bytes ih =>
      rw [List.forall_mem_cons] at h
      have hbyte : byte.toNat < 0x80 := UInt8.lt_iff_toNat_lt.mp h.1
      have hfirst : String.utf8EncodeChar (char byte) = [byte] := by
        rw [char_of_ascii h.1, Utf8.utf8EncodeChar_one hbyte, UInt8.ofNat_toNat]
      have hrest : Utf8.encode (bytes.map char) = bytes := ih h.2
      rw [decode, List.map_cons, Utf8.encode, List.flatMap_cons, hfirst, ← Utf8.encode, hrest]
      rfl

def lineText (line : List UInt8) : List Char :=
  stripEnd (decode line)

/-- The lines of the text are the lines of the bytes. -/
theorem lines_decode (bytes : List UInt8) :
    Text.lines (decode bytes) = (Octet.lines bytes).map lineText := by
  have hlast : (fun byte => decide (char byte = '\n')) = fun byte => decide (byte = Octet.lf) := by
    funext byte
    exact decide_eq_decide.mpr (char_eq_newline_iff byte)
  rw [lines_eq_map, decode, cutLines_map, hlast, List.map_map]
  rfl

end Windows1252

namespace Charset

/-- The byte order marks that name an encoding. -/
def marks : List (List UInt8) :=
  [[0xEF, 0xBB, 0xBF], [0xFF, 0xFE], [0xFE, 0xFF]]

/-- Bytes that are ASCII are read the same in either encoding. -/
theorem decode_of_ascii (h : ∀ byte ∈ bytes, byte < 0x80) :
    decode bytes = Windows1252.decode bytes := by
  have hutf8 := Utf8.decode?_eq_some_iff.mpr (Windows1252.encode_decode_of_ascii h)
  rw [decode, hutf8, Option.getD_some]

theorem decodeLegacy_of_unmarked (h : ∀ mark ∈ marks, ¬mark <+: bytes) :
    decodeLegacy bytes = Windows1252.decode bytes := by
  rw [decodeLegacy]
  · rintro rest rfl
    exact h [0xEF, 0xBB, 0xBF] (by simp [marks]) ⟨rest, rfl⟩
  · rintro rest rfl
    exact h [0xFF, 0xFE] (by simp [marks]) ⟨rest, rfl⟩
  · rintro rest rfl
    exact h [0xFE, 0xFF] (by simp [marks]) ⟨rest, rfl⟩

/-- Bytes that are no text in UTF-8 and start with no mark are one character each. -/
theorem decode_of_not_utf8 (hutf8 : ∀ text, Utf8.encode text ≠ bytes)
    (hmark : ∀ mark ∈ marks, ¬mark <+: bytes) : decode bytes = Windows1252.decode bytes := by
  rw [decode, Utf8.decode?_eq_none_iff.mpr hutf8, Option.getD_none, decodeLegacy_of_unmarked hmark]

end Charset

end Multipart.Text
