/-!
# Windows-1252

The character set in which every byte is a character.
-/

namespace Multipart.Text.Windows1252

/-- The code points of the bytes from 80 to 9F. -/
def high : List Nat :=
  [0x20AC, 0x81, 0x201A, 0x0192, 0x201E, 0x2026, 0x2020, 0x2021,
   0x02C6, 0x2030, 0x0160, 0x2039, 0x0152, 0x8D, 0x017D, 0x8F,
   0x90, 0x2018, 0x2019, 0x201C, 0x201D, 0x2022, 0x2013, 0x2014,
   0x02DC, 0x2122, 0x0161, 0x203A, 0x0153, 0x9D, 0x017E, 0x0178]

/-- The character of a byte. Outside 80 to 9F its code point is the byte. -/
def char (byte : UInt8) : Char :=
  if 0x80 ≤ byte && byte < 0xA0 then Char.ofNat (high.getD (byte.toNat - 0x80) 0)
  else Char.ofNat byte.toNat

def decode (bytes : List UInt8) : List Char :=
  bytes.map char

example : high.length = 32 := rfl

end Multipart.Text.Windows1252
