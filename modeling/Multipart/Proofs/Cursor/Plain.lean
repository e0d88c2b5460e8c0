import Multipart.Cursor

/-! # Plain cursors

A plain cursor is a place in the text that a source has delivered so far, and a place that may be
marked. It has no buffer and forgets nothing. What each operation of a cursor means is said by what
it may do to a plain one. -/

namespace Multipart

namespace Cursor

/-! ## Operations -/

inductive Operation
  | mark
  | clearMark
  | rewind
  | skip (count : Nat)
  | next
  | read (size : Nat)
  | take (count : Nat)
  | fill
  | consume (count : Nat)
  | takeThrough (stop : UInt8)
  deriving DecidableEq, Repr

inductive Response
  | done
  | count (count : Nat)
  | byte (value : Option UInt8)
  | bytes (bytes : List UInt8)
  /-- The operation fails after it has read some bytes. -/
  | failure (error : StreamError) (bytes : List UInt8)
  deriving DecidableEq, Repr

def Response.ofRead (whole : List UInt8 → Response) (bytes : List UInt8) :
    Option StreamError → Response
  | none => whole bytes
  | some error => failure error bytes

/-- Does what is asked. None if a sum does not fit a word. -/
def Operation.perform : Operation → Cursor → Option (Response × Cursor)
  | mark, cursor => some (.done, cursor.mark)
  | clearMark, cursor => some (.done, cursor.clearMark)
  | rewind, cursor =>
      match cursor.rewind with
      | .ok () after => some (.done, after)
      | .error error after => some (.failure error [], after)
  | skip count, cursor =>
      let gathered := cursor.take count
      some (.ofRead (fun bytes => .count bytes.length) gathered.bytes gathered.failure,
        gathered.cursor)
  | next, cursor =>
      match cursor.next with
      | .ok value after => some (.byte value, after)
      | .error error after => some (.failure error [], after)
  | read size, cursor =>
      match cursor.read size with
      | .ok bytes after => some (.bytes bytes, after)
      | .error error after => some (.failure error [], after)
  | take count, cursor =>
      let gathered := cursor.take count
      some (.ofRead .bytes gathered.bytes gathered.failure, gathered.cursor)
  | fill, cursor =>
      match cursor.fill with
      | .ok () after => some (.bytes after.ahead, after)
      | .error error after => some (.failure error [], after)
  | consume count, cursor => (cursor.consume? count).map fun after => (.done, after)
  | takeThrough stop, cursor =>
      let gathered := cursor.takeThrough stop
      some (.ofRead .bytes gathered.bytes gathered.failure, gathered.cursor)

def run : List Operation → Cursor → Option (List Response × Cursor)
  | [], cursor => some ([], cursor)
  | operation :: operations, cursor =>
      match operation.perform cursor with
      | none => none
      | some (response, after) =>
          match after.run operations with
          | none => none
          | some (responses, last) => some (response :: responses, last)

end Cursor

/-! ## Plain cursors -/

/-- A place in the text that a source has delivered, with a place that may be marked. -/
structure Plain where
  source : Source
  /-- The bytes that the source has delivered. -/
  text : List UInt8 := []
  offset : Nat := 0
  mark? : Option Nat := none

/-- A source delivers some bytes, in reads of up to `chunk` bytes that are not empty. -/
inductive Source.Delivers (chunk : Nat) : Source → List UInt8 → Source → Prop
  | refl (source : Source) : Delivers chunk source [] source
  | read {source next rest : Source} {bytes more : List UInt8} :
      source.read chunk = .ok bytes next → bytes ≠ [] → Delivers chunk next more rest →
      Delivers chunk source (bytes ++ more) rest

namespace Plain

/-- A plain cursor moves on over the bytes of the text at its offset, of which the source may
deliver more meanwhile. -/
structure Moves (chunk : Nat) (plain : Plain) (bytes : List UInt8) (after : Plain) : Prop where
  delivers : ∃ more, plain.source.Delivers chunk more after.source ∧
    after.text = plain.text ++ more
  slice : bytes <+: after.text.drop plain.offset
  offset_eq : after.offset = plain.offset + bytes.length
  mark?_eq : after.mark? = plain.mark?

/-- Reading ends when the bytes are enough for the first time, or where all that is delivered is
read and the source reports its end or fails. -/
inductive Reads (chunk : Nat) (enough : List UInt8 → Bool) (plain : Plain) :
    List UInt8 → Option StreamError → Plain → Prop
  | whole {bytes : List UInt8} {after : Plain} : plain.Moves chunk bytes after → enough bytes →
      (∀ k < bytes.length, enough (bytes.take k) = false) →
      Reads chunk enough plain bytes none after
  | ended {bytes : List UInt8} {between : Plain} {source : Source} :
      plain.Moves chunk bytes between → (∀ k ≤ bytes.length, enough (bytes.take k) = false) →
      between.offset = between.text.length → between.source.read chunk = .ok [] source →
      Reads chunk enough plain bytes none { between with source }
  | failure {bytes : List UInt8} {between : Plain} {source : Source} {error : StreamError} :
      plain.Moves chunk bytes between → (∀ k ≤ bytes.length, enough (bytes.take k) = false) →
      between.offset = between.text.length → between.source.read chunk = .error error source →
      Reads chunk enough plain bytes (some error) { between with source }

/-- The source is read if all that is delivered is read. -/
inductive Fills (chunk : Nat) (plain : Plain) : Option StreamError → Plain → Prop
  | held : plain.offset < plain.text.length → Fills chunk plain none plain
  | read {bytes : List UInt8} {source : Source} : plain.offset = plain.text.length →
      plain.source.read chunk = .ok bytes source →
      Fills chunk plain none { plain with source, text := plain.text ++ bytes }
  | failure {source : Source} {error : StreamError} : plain.offset = plain.text.length →
      plain.source.read chunk = .error error source →
      Fills chunk plain (some error) { plain with source }

open Cursor (Operation Response)

inductive Step (chunk : Nat) : Operation → Plain → Response → Plain → Prop
  | mark (plain : Plain) :
      Step chunk .mark plain .done { plain with mark? := some plain.offset }
  | clearMark (plain : Plain) : Step chunk .clearMark plain .done { plain with mark? := none }
  | rewind {plain : Plain} {offset : Nat} : plain.mark? = some offset →
      Step chunk .rewind plain .done { plain with offset }
  | unmarked {plain : Plain} : plain.mark? = none →
      Step chunk .rewind plain (.failure .unmarked []) plain
  | skip {count : Nat} {plain after : Plain} {bytes : List UInt8} {failure : Option StreamError} :
      plain.Reads chunk (count ≤ ·.length) bytes failure after →
      Step chunk (.skip count) plain (.ofRead (fun bytes => .count bytes.length) bytes failure)
        after
  | next {plain after : Plain} {bytes : List UInt8} {failure : Option StreamError} :
      plain.Reads chunk (1 ≤ ·.length) bytes failure after →
      Step chunk .next plain (.ofRead (fun bytes => .byte bytes.head?) bytes failure) after
  | take {count : Nat} {plain after : Plain} {bytes : List UInt8} {failure : Option StreamError} :
      plain.Reads chunk (count ≤ ·.length) bytes failure after →
      Step chunk (.take count) plain (.ofRead .bytes bytes failure) after
  | takeThrough {stop : UInt8} {plain after : Plain} {bytes : List UInt8}
      {failure : Option StreamError} : plain.Reads chunk (·.contains stop) bytes failure after →
      Step chunk (.takeThrough stop) plain (.ofRead .bytes bytes failure) after
  | fill {plain after : Plain} : plain.Fills chunk none after →
      Step chunk .fill plain (.bytes (after.text.drop after.offset)) after
  | fillFails {plain after : Plain} {error : StreamError} :
      plain.Fills chunk (some error) after → Step chunk .fill plain (.failure error []) after
  | read {size : Nat} {plain filled after : Plain} {bytes : List UInt8} :
      plain.Fills chunk none filled → bytes = (filled.text.drop filled.offset).take size →
      after = { filled with offset := filled.offset + bytes.length } →
      Step chunk (.read size) plain (.bytes bytes) after
  | readFails {size : Nat} {plain after : Plain} {error : StreamError} :
      plain.Fills chunk (some error) after →
      Step chunk (.read size) plain (.failure error []) after
  | consume {count : Nat} {plain : Plain} :
      Step chunk (.consume count) plain .done
        { plain with offset := min (plain.offset + count) plain.text.length }

inductive Run (chunk : Nat) : List Operation → Plain → List Response → Plain → Prop
  | nil (plain : Plain) : Run chunk [] plain [] plain
  | cons {operation : Operation} {operations : List Operation} {plain between after : Plain}
      {response : Response} {responses : List Response} :
      Step chunk operation plain response between →
      Run chunk operations between responses after →
      Run chunk (operation :: operations) plain (response :: responses) after

end Plain

end Multipart
