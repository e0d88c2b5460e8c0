import Multipart.Cursor

/-! # The buffer of a cursor

What passing bytes, moving the mark and filling leave of the bytes that a cursor holds. -/

namespace Multipart.Cursor

/-! ## Passing -/

@[simp] theorem consumed_pass (cursor : Cursor) (bytes ahead : List UInt8) :
    (cursor.pass bytes ahead).consumed = bytes ++ cursor.consumed := by
  simp only [pass]
  split <;> simp [consumed, *]

@[simp] theorem ahead_pass (cursor : Cursor) (bytes ahead : List UInt8) :
    (cursor.pass bytes ahead).ahead = ahead := by
  simp only [pass]
  split <;> rfl

@[simp] theorem position_pass (cursor : Cursor) (bytes ahead : List UInt8) :
    (cursor.pass bytes ahead).position = cursor.position + bytes.length := by
  simp only [pass]
  split <;> rfl

@[simp] theorem source_pass (cursor : Cursor) (bytes ahead : List UInt8) :
    (cursor.pass bytes ahead).source = cursor.source := by
  simp only [pass]
  split <;> rfl

@[simp] theorem chunk_pass (cursor : Cursor) (bytes ahead : List UInt8) :
    (cursor.pass bytes ahead).chunk = cursor.chunk := by
  simp only [pass]
  split <;> rfl

@[simp] theorem marked?_pass (cursor : Cursor) (bytes ahead : List UInt8) :
    (cursor.pass bytes ahead).marked? = cursor.marked? := by
  simp only [pass]
  split
  · rename_i since hsince
    simp only [marked?, hsince, Option.map_some, List.length_append, Option.some.injEq]
    omega
  · rename_i hsince
    simp [marked?, hsince]

/-- Bytes that are passed stay held. -/
theorem held_pass {cursor : Cursor} (bytes : List UInt8) {ahead : List UInt8}
    (h : cursor.ahead = bytes ++ ahead) :
    (cursor.pass bytes.reverse ahead).held = cursor.held := by
  simp [held, h]

/-! ## The mark -/

@[simp] theorem consumed_markBack (cursor : Cursor) (distance : Nat) :
    (cursor.markBack distance).consumed = cursor.consumed := by
  simp [markBack, consumed, divide_eq]

@[simp] theorem held_markBack (cursor : Cursor) (distance : Nat) :
    (cursor.markBack distance).held = cursor.held := by
  rw [held, consumed_markBack]
  rfl

end Multipart.Cursor
