import Multipart.Octet
import Multipart.Error

/-!
# Part bodies with a size limit

The body of a part is gathered piece by piece. The line end before a delimiter belongs to the
delimiter and is taken off once the delimiter is seen, so a body may exceed its limit by two bytes
until then.
-/

namespace Multipart

/-- The bytes of a body so far, latest first, with their number. -/
structure Body where
  latest : List UInt8 := []
  size : Nat := 0
  limit : Nat
  size_eq : size = latest.length := by rfl

namespace Body

def empty (limit : Nat) : Body := { limit }

def bytes (body : Body) : List UInt8 :=
  body.latest.reverse

/-- Adds a piece. Some room is left for the line end that is taken off later. -/
def append (body : Body) (piece : List UInt8) : Except Error Body :=
  if !piece.isEmpty && addCapped body.limit 2 < body.size + piece.length then
    .error (.bodyTooLong body.limit)
  else
    .ok { body with
      latest := piece.reverse ++ body.latest
      size := body.size + piece.length
      size_eq := by simp [body.size_eq, Nat.add_comm] }

def checkLimit (body : Body) : Except Error Unit :=
  if body.limit < body.size then .error (.bodyTooLong body.limit) else .ok ()

/-- Takes off the CRLF or LF at the end. None if a body that has bytes does not end in one. -/
def dropLineEnd? (body : Body) : Option Body :=
  match h : body.latest with
  | [] => some body
  | [last] => if last = Octet.lf then some (empty body.limit) else none
  | last :: before :: rest =>
      if last = Octet.lf then
        if before = Octet.cr then
          some ⟨rest, body.size - 2, body.limit, by simp [body.size_eq, h]⟩
        else
          some ⟨before :: rest, body.size - 1, body.limit, by simp [body.size_eq, h]⟩
      else none

/-- Ends a body before a delimiter at an offset: takes off the line end, which must be there if the
body has bytes, then checks the limit. -/
def terminate (body : Body) (offset : Nat) : EStateM.Result Error Body Unit :=
  match body.dropLineEnd? with
  | none => .error (.delimiterInsideLine offset) body
  | some body =>
      match body.checkLimit with
      | .error error => .error error body
      | .ok () => .ok () body

end Body

end Multipart
