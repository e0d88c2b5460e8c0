import Multipart.Text.Utf8

/-!
# UTF-16

Texts in sixteen-bit units, each two bytes. A unit that is half of a pair and stands alone, and a
byte that is half of a unit, read as U+FFFD.
-/

namespace Multipart.Text.Utf16

inductive Order
  | big
  | little
  deriving DecidableEq, Repr

def unit (order : Order) (first second : UInt8) : Nat :=
  match order with
  | .big => first.toNat * 256 + second.toNat
  | .little => second.toNat * 256 + first.toNat

def isLead (unit : Nat) : Bool := 0xD800 ≤ unit && unit < 0xDC00

def isTrail (unit : Nat) : Bool := 0xDC00 ≤ unit && unit < 0xE000

/-- The character of a unit that is not the second half of a pair, if it has one alone. -/
def alone (unit : Nat) : Char :=
  if isTrail unit then Utf8.replacement else Char.ofNat unit

/-- Reads units after a first half that still waits for its second. -/
def decodeFrom (order : Order) (lead : Option Nat) (found : List Char) :
    List UInt8 → List Char
  | [] => (if lead.isSome then Utf8.replacement :: found else found).reverse
  | [_] => (Utf8.replacement :: found).reverse
  | first :: second :: rest =>
      let u := unit order first second
      match lead with
      | some high =>
          if isTrail u then
            decodeFrom order none
              (Char.ofNat (0x10000 + (high - 0xD800) * 1024 + (u - 0xDC00)) :: found) rest
          else if isLead u then
            decodeFrom order (some u) (Utf8.replacement :: found) rest
          else
            decodeFrom order none (alone u :: Utf8.replacement :: found) rest
      | none =>
          if isLead u then decodeFrom order (some u) found rest
          else decodeFrom order none (alone u :: found) rest

def decode (order : Order) (bytes : List UInt8) : List Char :=
  decodeFrom order none [] bytes

end Multipart.Text.Utf16
