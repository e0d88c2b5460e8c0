/-!
# Octets and machine words

The bytes that multipart syntax gives a meaning to, and the largest number a machine word holds.
-/

namespace Multipart

/-- The largest count, offset or limit: a word has 64 bits. -/
def maxWord : Nat := (1 <<< 64) - 1

def addCapped (a b : Nat) : Nat :=
  min (a + b) maxWord

namespace Octet

abbrev tab : UInt8 := 9

abbrev lf : UInt8 := 10

abbrev cr : UInt8 := 13

abbrev space : UInt8 := 32

abbrev quote : UInt8 := 34

abbrev dash : UInt8 := 45

abbrev semicolon : UInt8 := 59

abbrev equals : UInt8 := 61

abbrev backslash : UInt8 := 92

def isBlank (b : UInt8) : Bool :=
  b = space || b = tab

def isSpace (b : UInt8) : Bool :=
  b = space || b = tab || b = lf || b = 12 || b = cr

end Octet

end Multipart
