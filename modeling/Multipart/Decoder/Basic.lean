import Multipart.ContentType
import Multipart.Event
import Multipart.Part
import Multipart.Scan
import Multipart.Settings.Basic

/-!
# Decoders

A decoder splits a multipart stream into a root part and attachments that are found by their content
id. This module holds its state: how far it has come, what it has found, and what it has reported.
-/

namespace Multipart

inductive Phase
  /-- Nothing is read. -/
  | fresh
  /-- The first delimiter is read, and a part follows. -/
  | scanning
  /-- The closing delimiter is read. -/
  | closed
  /-- The stream ended without a closing delimiter. -/
  | exhausted
  /-- A query failed. -/
  | failed
  deriving DecidableEq, Repr

def Phase.isDone : Phase → Bool
  | .closed | .exhausted => true
  | .fresh | .scanning | .failed => false

structure Decoder where
  cursor : Cursor
  delimiter : Delimiter
  contentType : ContentType
  settings : Settings
  phase : Phase := .fresh
  /-- The number of parts read. -/
  count : Nat := 0
  root : Option Part := none
  /-- The parts that are not the root, by content id. -/
  attachments : Table Part := .empty
  /-- The events so far. -/
  log : Array Event := #[]

namespace Decoder

abbrev Answer (α : Type) : Type := EStateM.Result Error Decoder α

/-- A decoder at the start of a stream. The content type has to name a boundary; a buffer too small
for the delimiter is made larger. Nothing is read yet. -/
def ofSource (source : Source) (contentType : String) (settings : Settings := {}) :
    Except Error Decoder :=
  match ContentType.parse contentType with
  | .error error => .error error
  | .ok contentType =>
      let delimiter := Delimiter.ofBytes (Text.Utf8.encode contentType.boundary.toList)
      .ok {
        cursor := Cursor.ofSource source (max settings.readBufferSize delimiter.length)
        delimiter
        contentType
        settings
        log := if settings.readBufferSize < delimiter.length then
            #[.bufferRaised settings.readBufferSize delimiter.length]
          else #[] }

def position (decoder : Decoder) : Nat :=
  decoder.cursor.position

def isDone (decoder : Decoder) : Bool :=
  decoder.phase.isDone

/-- A bound on the bytes that the stream has still to deliver. -/
def outstanding (decoder : Decoder) : Nat :=
  decoder.cursor.outstanding

def record (decoder : Decoder) (event : Event) : Decoder :=
  { decoder with log := decoder.log.push event }

end Decoder

end Multipart
