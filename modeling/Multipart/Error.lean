import Multipart.Source

/-!
# Decoding errors

Why a multipart stream cannot be decoded, and the text that says so.
-/

namespace Multipart

/-- Why decoding fails. Offsets are counted from the start of the stream. -/
inductive Error
  /-- The stream itself fails. -/
  | stream (error : StreamError)
  /-- The content type has no boundary parameter, or an empty one. -/
  | noBoundary (contentType : String)
  /-- The stream ends before the first delimiter. -/
  | noFirstDelimiter
  /-- The first delimiter is a closing one; the offset is that after its line. -/
  | closedBeforeFirstPart (offset : Nat)
  /-- A delimiter inside a part does not start a line. -/
  | delimiterInsideLine (offset : Nat)
  /-- The stream ends before the delimiter that ends a part. -/
  | unendedPart (offset : Nat)
  /-- A delimiter is followed by something other than padding and a line end. -/
  | unendedDelimiterLine (offset : Nat)
  /-- A delimiter is followed by one hyphen where two would close. -/
  | loneHyphen (offset : Nat)
  /-- The header block of a part is too long. -/
  | headerTooLong (limit : Nat)
  /-- The body of a part is too long. -/
  | bodyTooLong (limit : Nat)
  /-- An earlier query failed. -/
  | unusable
  deriving DecidableEq, Repr

namespace Error

def message : Error → String
  | stream error => "I/O error: " ++ error.message
  | noBoundary contentType =>
      "MIME boundary parameter not found in content type: " ++ contentType
  | noFirstDelimiter => "Missing start boundary"
  | closedBeforeFirstPart offset =>
      "Found closing boundary delimiter at offset " ++ toString offset ++
        " while skipping preamble"
  | delimiterInsideLine offset =>
      "Boundary at offset " ++ toString offset ++ " is not preceded by a line terminator"
  | unendedPart offset =>
      "End of stream at offset " ++ toString offset ++ " before the part's boundary delimiter"
  | unendedDelimiterLine offset =>
      "Transport padding after boundary at offset " ++ toString offset ++
        " does not end in CRLF"
  | loneHyphen offset =>
      "Unexpected single '-' after boundary at offset " ++ toString offset
  | headerTooLong limit => "Part header block exceeds " ++ toString limit ++ " bytes"
  | bodyTooLong limit => "Part body exceeds " ++ toString limit ++ " bytes"
  | unusable => "Parser is unusable after an earlier error"

end Error

end Multipart
