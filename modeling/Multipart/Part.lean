import Multipart.Header
import Multipart.Source

/-!
# Parts

A part of a multipart body: its headers, its bytes as they stand in the stream, and where they
start.
-/

namespace Multipart

structure Part where
  headers : List Header
  /-- The bytes, without the line end before the next delimiter. -/
  data : List UInt8
  /-- The offset of the first byte in the stream. -/
  offset : Nat
  deriving DecidableEq, Repr

namespace Part

/-- The value of the first header of a name in lower case. -/
def firstHeader? (part : Part) (name : String) : Option String :=
  (part.headers.find? fun header => header.name = name).map Header.value

/-- The value of the first header of a name, in which ASCII capitals count as small letters. -/
def header? (part : Part) (name : String) : Option String :=
  part.firstHeader? (String.ofList (Text.lowerAscii name.toList))

def defaultContentType : String := "application/octet-stream"

def contentType (part : Part) : String :=
  (part.firstHeader? "content-type").getD defaultContentType

def contentId? (part : Part) : Option String :=
  part.firstHeader? "content-id"

def length (part : Part) : Nat :=
  part.data.length

/-- Writes the bytes to a destination of a fixed size. What fits is written in any case. -/
def writeTo (part : Part) (capacity : Nat) : EStateM.Result StreamError (List UInt8) Unit :=
  if part.length ≤ capacity then .ok () part.data
  else .error .outOfRoom (part.data.take capacity)

end Part

end Multipart
