import Multipart.Error

/-!
# Events

What a decoder reports while it works: each event with its level, its text and its fields.
-/

namespace Multipart

inductive Event
  /-- The chosen buffer size is too small to hold the delimiter. -/
  | bufferRaised (configured delimiterLength : Nat)
  /-- The delimiter was seen at this offset. -/
  | delimiterMatched (offset : Nat)
  /-- What stands before the first part was skipped; the first part starts at this offset. -/
  | preambleSkipped (offset : Nat)
  /-- The last part, which starts at this offset, ends with the stream. -/
  | unendedPartAccepted (offset : Nat)
  /-- A part was read. -/
  | partExtracted (offset length : Nat) (contentType : String) (contentId : Option String)
  /-- A part takes the place of an earlier one with the same content id. -/
  | duplicateContentId (contentId : String)
  /-- A part cannot be looked up. -/
  | partUnreachable (offset : Nat)
  /-- Reading a part failed at this offset. -/
  | extractionFailed (error : Error) (offset : Nat)
  deriving DecidableEq, Repr

namespace Event

inductive Level
  | trace
  | debug
  | warn
  deriving DecidableEq, Repr

inductive Field
  | number (value : Nat)
  | text (value : String)
  deriving DecidableEq, Repr

def level : Event → Level
  | delimiterMatched _ => .trace
  | preambleSkipped _ | partExtracted .. | extractionFailed .. => .debug
  | bufferRaised .. | unendedPartAccepted _ | duplicateContentId _ | partUnreachable _ => .warn

def message : Event → String
  | bufferRaised .. => "read_buffer_size smaller than boundary delimiter, raising it"
  | delimiterMatched _ => "Boundary matched"
  | preambleSkipped _ => "Skipped multipart preamble"
  | unendedPartAccepted _ => "Final part ends at EOF without a closing boundary"
  | partExtracted .. => "Extracted MIME part"
  | duplicateContentId _ => "Duplicate Content-ID, keeping the later part"
  | partUnreachable _ => "Part without Content-ID is not the root and cannot be looked up"
  | extractionFailed .. => "Multipart parse failed"

def fields : Event → List (String × Field)
  | bufferRaised configured delimiterLength =>
      [("configured", .number configured), ("delimiter_len", .number delimiterLength)]
  | delimiterMatched offset | preambleSkipped offset | unendedPartAccepted offset
  | partUnreachable offset => [("offset", .number offset)]
  | partExtracted offset length contentType contentId =>
      [("offset", .number offset), ("length", .number length),
        ("content_type", .text contentType), ("content_id", .text (contentId.getD "-"))]
  | duplicateContentId contentId => [("content_id", .text contentId)]
  | extractionFailed error offset =>
      [("error", .text error.message), ("offset", .number offset)]

end Event

end Multipart
