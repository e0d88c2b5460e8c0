import Multipart.Octet
import Multipart.Source

/-!
# Buffered cursors with a mark

A cursor reads a source through a buffer and can be set back to a mark. The buffer is kept as the
bytes that are consumed, split at the mark, and the bytes ahead. It is filled only when it has no
byte ahead and one is wanted, and then forgets what lies before the mark, or before the cursor if
there is none. The main statements say that reading uses up what is outstanding, so every loop over
a cursor ends.
-/

namespace Multipart

/-- A position in a stream, with the part of the stream that is held in memory. -/
structure Cursor where
  source : Source
  /-- The number of bytes asked for when the buffer is filled. -/
  chunk : Nat
  chunk_pos : 0 < chunk
  /-- The bytes held before the mark, or before the cursor if there is none, latest first. -/
  spent : List UInt8 := []
  /-- The bytes consumed since the mark, if there is one, latest first. -/
  since : Option (List UInt8) := none
  /-- The bytes held that are not consumed. -/
  ahead : List UInt8 := []
  /-- The number of bytes consumed. -/
  position : Nat := 0

namespace Cursor

/-- What an operation on a cursor answers, and the cursor it leaves, also when it fails. -/
abbrev Answer (α : Type) : Type := EStateM.Result StreamError Cursor α

def defaultChunk : Nat := 8192

/-- A cursor at the start of a source. At least one byte is asked for at a time. -/
def ofSource (source : Source) (chunk : Nat := defaultChunk) : Cursor :=
  { source, chunk := max chunk 1, chunk_pos := Nat.le_max_right chunk 1 }

/-- The bytes held that are consumed, latest first. -/
def consumed (cursor : Cursor) : List UInt8 :=
  cursor.since.getD [] ++ cursor.spent

def held (cursor : Cursor) : List UInt8 :=
  cursor.consumed.reverse ++ cursor.ahead

/-- The number of bytes that the cursor has still to deliver. -/
def outstanding (cursor : Cursor) : Nat :=
  cursor.ahead.length + cursor.source.remaining

/-! ## The mark -/

def marked? (cursor : Cursor) : Option Nat :=
  cursor.since.map fun bytes => cursor.position - bytes.length

/-- The bytes held that are consumed, divided into the latest so many and those before them. -/
def divide (cursor : Cursor) (count : Nat) : List UInt8 × List UInt8 :=
  let since := cursor.since.getD []
  if count ≤ since.length then (since.take count, since.drop count ++ cursor.spent)
  else
    (since ++ cursor.spent.take (count - since.length), cursor.spent.drop (count - since.length))

theorem divide_eq (cursor : Cursor) (count : Nat) :
    cursor.divide count = (cursor.consumed.take count, cursor.consumed.drop count) := by
  simp only [divide, consumed, List.take_append, List.drop_append]
  split
  · simp [Nat.sub_eq_zero_of_le ‹_›]
  · simp [List.drop_eq_nil_of_le, List.take_of_length_le, Nat.le_of_not_le ‹_›]

/-- Puts the mark so many bytes before the position, in place of an earlier mark. The buffer has to
hold those bytes. -/
def markBack (cursor : Cursor) (distance : Nat) : Cursor :=
  let divided := cursor.divide distance
  { cursor with since := some divided.1, spent := divided.2 }

def mark (cursor : Cursor) : Cursor :=
  cursor.markBack 0

def clearMark (cursor : Cursor) : Cursor :=
  { cursor with spent := cursor.consumed, since := none }

/-- Goes back to the mark, which stays set. -/
def rewind (cursor : Cursor) : Answer Unit :=
  match cursor.since with
  | none => .error .unmarked cursor
  | some bytes => .ok () { cursor with
      since := some []
      ahead := bytes.reverse ++ cursor.ahead
      position := cursor.position - bytes.length }

/-! ## The buffer -/

/-- Fills the buffer if no byte is held ahead, and forgets what is spent. It stays empty only at the
end of the stream. -/
def fill (cursor : Cursor) : Answer Unit :=
  if cursor.ahead.isEmpty then
    match cursor.source.read cursor.chunk with
    | .ok bytes source => .ok () { cursor with source, spent := [], ahead := bytes }
    | .error error source => .error error { cursor with source, spent := [] }
  else .ok () cursor

/-- Moves on over bytes, given in reverse, of which `ahead` is what follows. -/
def pass (cursor : Cursor) (bytes ahead : List UInt8) : Cursor :=
  match cursor.since with
  | some since => { cursor with
      since := some (bytes ++ since)
      ahead
      position := cursor.position + bytes.length }
  | none => { cursor with
      spent := bytes ++ cursor.spent
      ahead
      position := cursor.position + bytes.length }

def advance (cursor : Cursor) (count : Nat) : Cursor :=
  cursor.pass (cursor.ahead.take count).reverse (cursor.ahead.drop count)

/-- Consumes up to `count` of the bytes held ahead. None if the place in the buffer, counted
before it is cut back to the bytes held, does not fit a word. -/
def consume? (cursor : Cursor) (count : Nat) : Option Cursor :=
  if cursor.consumed.length + count ≤ maxWord then some (cursor.advance count) else none

/-! ## Reading -/

def next (cursor : Cursor) : Answer (Option UInt8) :=
  match cursor.fill with
  | .error error cursor => .error error cursor
  | .ok () cursor =>
      match cursor.ahead with
      | [] => .ok none cursor
      | value :: rest => .ok (some value) (cursor.pass [value] rest)

/-- The bytes held after the buffer has been filled, at most `size`, which are consumed. -/
def read (cursor : Cursor) (size : Nat) : Answer (List UInt8) :=
  match cursor.fill with
  | .error error cursor => .error error cursor
  | .ok () cursor => .ok (cursor.ahead.take size) (cursor.advance size)

/-- Bytes read one after another, and the error that ended the reading, if any. -/
structure Gathered where
  bytes : List UInt8
  failure : Option StreamError
  cursor : Cursor

/-- Reads on until `count` bytes are read, one read satisfies `last`, the stream ends or a read
fails. The bytes before are given in reverse. -/
def gatherFrom (last : UInt8 → Bool) : Nat → List UInt8 → Cursor → Gathered
  | 0, taken, cursor => ⟨taken.reverse, none, cursor⟩
  | count + 1, taken, cursor =>
      match cursor.next with
      | .error error cursor => ⟨taken.reverse, some error, cursor⟩
      | .ok none cursor => ⟨taken.reverse, none, cursor⟩
      | .ok (some value) cursor =>
          if last value then ⟨(value :: taken).reverse, none, cursor⟩
          else gatherFrom last count (value :: taken) cursor

/-- Reads up to `count` bytes, but none after the first that satisfies `last`. -/
def gather (cursor : Cursor) (last : UInt8 → Bool) (count : Nat) : Gathered :=
  gatherFrom last count [] cursor

/-- Reads up to `count` bytes. Fewer are read only at the end of the stream or at a failure. -/
def take (cursor : Cursor) (count : Nat) : Gathered :=
  cursor.gather (fun _ => false) count

/-! ## Reading uses up what is outstanding -/

@[simp] theorem outstanding_markBack (cursor : Cursor) (distance : Nat) :
    (cursor.markBack distance).outstanding = cursor.outstanding := rfl

@[simp] theorem outstanding_clearMark (cursor : Cursor) :
    cursor.clearMark.outstanding = cursor.outstanding := rfl

@[simp] theorem outstanding_pass (cursor : Cursor) (bytes ahead : List UInt8) :
    (cursor.pass bytes ahead).outstanding =
      ahead.length + cursor.source.remaining := by
  simp only [pass]
  split <;> rfl

theorem outstanding_fill_ok {cursor filled : Cursor} (h : cursor.fill = .ok () filled) :
    filled.outstanding ≤ cursor.outstanding := by
  simp only [fill] at h
  split at h
  · split at h
    · rename_i hread
      simp only [EStateM.Result.ok.injEq, true_and] at h
      subst h
      have := Source.remaining_read_ok hread
      simp only [outstanding] at this ⊢
      omega
    · contradiction
  · simp only [EStateM.Result.ok.injEq, true_and] at h
    exact h ▸ Nat.le_refl _

theorem outstanding_fill_error {cursor failed : Cursor} {error : StreamError}
    (h : cursor.fill = .error error failed) : failed.outstanding ≤ cursor.outstanding := by
  simp only [fill] at h
  split at h
  · split at h
    · contradiction
    · rename_i hread
      simp only [EStateM.Result.error.injEq] at h
      obtain ⟨rfl, rfl⟩ := h
      have := Source.remaining_read_error hread
      simp only [outstanding] at this ⊢
      omega
  · contradiction

/-- A byte that is read was outstanding. -/
theorem outstanding_next_some {cursor after : Cursor} {value : UInt8}
    (h : cursor.next = .ok (some value) after) : after.outstanding < cursor.outstanding := by
  simp only [next] at h
  split at h
  · contradiction
  · rename_i filled hfill
    have hle := outstanding_fill_ok hfill
    split at h
    · simp at h
    · rename_i first rest hahead
      simp only [EStateM.Result.ok.injEq, Option.some.injEq] at h
      obtain ⟨rfl, rfl⟩ := h
      simp only [outstanding, hahead, List.length_cons] at hle
      rw [outstanding_pass]
      simp only [outstanding]
      omega

theorem outstanding_next_none {cursor after : Cursor} (h : cursor.next = .ok none after) :
    after.outstanding ≤ cursor.outstanding := by
  simp only [next] at h
  split at h
  · contradiction
  · rename_i filled hfill
    split at h
    · simp only [EStateM.Result.ok.injEq, true_and] at h
      exact h ▸ outstanding_fill_ok hfill
    · simp at h

theorem outstanding_next_error {cursor after : Cursor} {error : StreamError}
    (h : cursor.next = .error error after) : after.outstanding ≤ cursor.outstanding := by
  simp only [next] at h
  split at h
  · rename_i hfill
    simp only [EStateM.Result.error.injEq] at h
    obtain ⟨rfl, rfl⟩ := h
    exact outstanding_fill_error hfill
  · split at h <;> contradiction

theorem outstanding_gatherFrom (last : UInt8 → Bool) (count : Nat) (taken : List UInt8)
    (cursor : Cursor) :
    (gatherFrom last count taken cursor).bytes.length +
        (gatherFrom last count taken cursor).cursor.outstanding ≤
      taken.length + cursor.outstanding := by
  induction count generalizing taken cursor with
  | zero => simp [gatherFrom]
  | succ count ih =>
      simp only [gatherFrom]
      split
      · rename_i hnext
        have := outstanding_next_error hnext
        simp only [List.length_reverse]
        omega
      · rename_i hnext
        have := outstanding_next_none hnext
        simp only [List.length_reverse]
        omega
      · rename_i value after hnext
        have hlt := outstanding_next_some hnext
        split
        · simp only [List.length_reverse, List.length_cons]
          omega
        · have := ih (value :: taken) after
          simp only [List.length_cons] at this
          omega

/-- What is read was outstanding. -/
theorem outstanding_gather (cursor : Cursor) (last : UInt8 → Bool) (count : Nat) :
    (cursor.gather last count).bytes.length + (cursor.gather last count).cursor.outstanding ≤
      cursor.outstanding := by
  simpa [gather] using outstanding_gatherFrom last count [] cursor

/-! ## Reading to a byte -/

/-- Reads on up to and including the first byte equal to `stop`. The bytes before are given in
reverse. -/
def takeThroughFrom (stop : UInt8) (taken : List UInt8) (cursor : Cursor) : Gathered :=
  match _h : cursor.next with
  | .error error cursor => ⟨taken.reverse, some error, cursor⟩
  | .ok none cursor => ⟨taken.reverse, none, cursor⟩
  | .ok (some value) cursor =>
      if value = stop then ⟨(value :: taken).reverse, none, cursor⟩
      else takeThroughFrom stop (value :: taken) cursor
termination_by cursor.outstanding
decreasing_by exact outstanding_next_some _h

def takeThrough (cursor : Cursor) (stop : UInt8) : Gathered :=
  takeThroughFrom stop [] cursor

end Cursor

end Multipart
