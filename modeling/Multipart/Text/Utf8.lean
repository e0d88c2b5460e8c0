/-!
# UTF-8

Texts as bytes. Reading goes byte by byte through a machine that knows which continuation bytes may
follow. Bytes that cannot be part of a character are reported where they stand: each longest run
that starts like a character counts once.
-/

namespace Multipart.Text.Utf8

def encode (text : List Char) : List UInt8 :=
  text.flatMap String.utf8EncodeChar

/-- Where reading stands between two bytes. -/
inductive State
  /-- Between characters. -/
  | between
  /-- Inside a character: `owed + 1` bytes are to come, the next of them from `low` to `high`;
  the bytes before them hold `value`. -/
  | inside (owed : Nat) (low high : UInt8) (value : Nat)
  deriving DecidableEq, Repr

/-- Reads the first byte of a character. A byte that starts none is reported as none. -/
def start (byte : UInt8) : List (Option Char) × State :=
  if byte < 0x80 then ([some (Char.ofNat byte.toNat)], .between)
  else if byte < 0xC2 then ([none], .between)
  else if byte < 0xE0 then ([], .inside 0 0x80 0xBF (byte.toNat - 0xC0))
  else if byte < 0xF0 then
    ([], .inside 1 (if byte = 0xE0 then 0xA0 else 0x80) (if byte = 0xED then 0x9F else 0xBF)
      (byte.toNat - 0xE0))
  else if byte < 0xF5 then
    ([], .inside 2 (if byte = 0xF0 then 0x90 else 0x80) (if byte = 0xF4 then 0x8F else 0xBF)
      (byte.toNat - 0xF0))
  else ([none], .between)

/-- Reads a byte. A character that it does not continue is reported as none. -/
def step (state : State) (byte : UInt8) : List (Option Char) × State :=
  match state with
  | .between => start byte
  | .inside owed low high value =>
      if low ≤ byte && byte ≤ high then
        let value := value * 64 + (byte.toNat - 0x80)
        match owed with
        | 0 => ([some (Char.ofNat value)], .between)
        | owed + 1 => ([], .inside owed 0x80 0xBF value)
      else
        let (found, next) := start byte
        (none :: found, next)

def finish : State → List (Option Char)
  | .between => []
  | .inside .. => [none]

/-- Reads bytes from a state, after what was found before, in reverse. -/
def scanFrom (state : State) (found : List (Option Char)) :
    List UInt8 → List (Option Char)
  | [] => ((finish state).reverse ++ found).reverse
  | byte :: rest =>
      scanFrom (step state byte).2 ((step state byte).1.reverse ++ found) rest

/-- The characters of some bytes, and none for each run of bytes that holds no character. -/
def scan (bytes : List UInt8) : List (Option Char) :=
  scanFrom .between [] bytes

/-- The text of some bytes. None unless every byte belongs to a character. -/
def decode? (bytes : List UInt8) : Option (List Char) :=
  let found := scan bytes
  if found.all Option.isSome then some (found.filterMap id) else none

def replacement : Char := Char.ofNat 0xFFFD

/-- The text of some bytes, with U+FFFD for each run of bytes that holds no character. -/
def decodeLossy (bytes : List UInt8) : List Char :=
  (scan bytes).map fun found => found.getD replacement

end Multipart.Text.Utf8
