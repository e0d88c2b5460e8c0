import Multipart.Proofs.Cursor.Buffer
import Multipart.Proofs.Cursor.Gather

/-! # How much a cursor holds

Filling the buffer keeps the bytes since the mark and adds a chunk. What a cursor holds is
therefore bounded by how far it reads after a mark. -/

namespace Multipart

theorem Source.allowance_le (source : Source) (size : Nat) : source.allowance size ≤ size := by
  simp only [allowance]
  split
  · exact Nat.min_le_right _ _
  · exact Nat.le_refl size

/-- A read hands out no more than the source allows. -/
theorem Source.length_read_le_allowance {size : Nat} {source rest : Source} {bytes : List UInt8}
    (h : source.read size = .ok bytes rest) : bytes.length ≤ source.allowance size := by
  simp only [read] at h
  split at h
  · contradiction
  · cases h
    exact Nat.zero_le _
  · cases h
    exact Arrival.length_takeBytes_le (source.allowance size) _

theorem Source.length_read_le {size : Nat} {source rest : Source} {bytes : List UInt8}
    (h : source.read size = .ok bytes rest) : bytes.length ≤ size :=
  Nat.le_trans (length_read_le_allowance h) (source.allowance_le size)

namespace Cursor

def trail (cursor : Cursor) : Nat :=
  (cursor.since.getD []).length

/-- A cursor holds at most a chunk and `extent` bytes, and at most `behind` bytes since the mark. -/
structure Holds (chunk extent behind : Nat) (cursor : Cursor) : Prop where
  chunk_eq : cursor.chunk = chunk
  held_le : cursor.held.length ≤ chunk + extent
  trail_le : cursor.trail ≤ behind

/-- A cursor without a mark holds at most a chunk and `extent` bytes. -/
structure Rests (chunk extent : Nat) (cursor : Cursor) : Prop where
  chunk_eq : cursor.chunk = chunk
  held_le : cursor.held.length ≤ chunk + extent
  since_eq : cursor.since = none

variable {chunk extent behind : Nat} {cursor : Cursor}

theorem Holds.mono {most : Nat} (h : cursor.Holds chunk extent behind) (hmost : behind ≤ most) :
    cursor.Holds chunk extent most :=
  ⟨h.chunk_eq, h.held_le, Nat.le_trans h.trail_le hmost⟩

theorem Rests.holds (h : cursor.Rests chunk extent) (behind : Nat) :
    cursor.Holds chunk extent behind := by
  refine ⟨h.chunk_eq, h.held_le, ?_⟩
  rw [trail, h.since_eq]
  exact Nat.zero_le behind

theorem rests_ofSource (source : Source) (chunk extent : Nat) :
    (ofSource source chunk).Rests (max chunk 1) extent :=
  ⟨rfl, Nat.zero_le _, rfl⟩

/-! ## The mark -/

theorem Holds.markBack (h : cursor.Holds chunk extent behind) (distance : Nat) :
    (cursor.markBack distance).Holds chunk extent distance := by
  refine ⟨h.chunk_eq, ?_, ?_⟩
  · rw [held_markBack]
    exact h.held_le
  · rw [trail, Cursor.markBack, divide_eq]
    exact List.length_take_le distance cursor.consumed

theorem Holds.clearMark (h : cursor.Holds chunk extent behind) :
    cursor.clearMark.Rests chunk extent :=
  ⟨h.chunk_eq, h.held_le, rfl⟩

/-! ## Reading -/

@[simp] theorem since_fill (cursor : Cursor) : (Result.state cursor.fill).since = cursor.since := by
  simp only [fill]
  split
  · split <;> rfl
  · rfl

theorem Holds.fill (h : cursor.Holds chunk extent behind) (hextent : behind ≤ extent) :
    (Result.state cursor.fill).Holds chunk extent behind := by
  have htrail := h.trail_le
  simp only [Cursor.fill]
  split
  · rename_i hempty
    split
    · rename_i bytes source hread
      have hlength := Source.length_read_le hread
      refine ⟨h.chunk_eq, ?_, htrail⟩
      simp only [trail, held, consumed, List.append_nil, Result.state_ok, List.length_append,
        List.length_reverse, h.chunk_eq] at htrail hlength ⊢
      omega
    · refine ⟨h.chunk_eq, ?_, htrail⟩
      simp only [trail, held, consumed, List.append_nil, Result.state_error, List.length_reverse,
        List.isEmpty_iff.1 hempty] at htrail ⊢
      omega
  · exact h

theorem trail_pass_le (cursor : Cursor) (bytes ahead : List UInt8) :
    (cursor.pass bytes ahead).trail ≤ cursor.trail + bytes.length := by
  simp only [pass, trail]
  split
  · rename_i since hsince
    simp only [hsince, Option.getD_some, List.length_append]
    omega
  · rename_i hsince
    simp [hsince]

theorem Holds.pass {value : UInt8} {rest : List UInt8} (h : cursor.Holds chunk extent behind)
    (hahead : cursor.ahead = value :: rest) :
    (cursor.pass [value] rest).Holds chunk extent (behind + 1) := by
  refine ⟨?_, ?_, ?_⟩
  · rw [chunk_pass, h.chunk_eq]
  · have hheld : (cursor.pass [value] rest).held = cursor.held := held_pass [value] hahead
    rw [hheld]
    exact h.held_le
  · have htrail := h.trail_le
    have hpass := trail_pass_le cursor [value] rest
    rw [List.length_singleton] at hpass
    omega

theorem Holds.next (h : cursor.Holds chunk extent behind) (hextent : behind ≤ extent) :
    (Result.state cursor.next).Holds chunk extent (behind + 1) := by
  have hfill := h.fill hextent
  simp only [Cursor.next]
  split
  · rename_i heq
    rw [heq] at hfill
    exact hfill.mono (Nat.le_succ behind)
  · rename_i filled heq
    rw [heq, Result.state_ok] at hfill
    split
    · exact hfill.mono (Nat.le_succ behind)
    · rename_i hahead
      exact hfill.pass hahead

theorem Rests.next (h : cursor.Rests chunk extent) :
    (Result.state cursor.next).Rests chunk extent := by
  have hnext := (h.holds 0).next (Nat.zero_le extent)
  refine ⟨hnext.chunk_eq, hnext.held_le, ?_⟩
  have hsince := since_fill cursor
  rw [h.since_eq] at hsince
  simp only [Cursor.next]
  split
  · rename_i heq
    rwa [heq] at hsince
  · rename_i filled heq
    rw [heq, Result.state_ok] at hsince
    split
    · exact hsince
    · simp only [Cursor.pass, hsince, Result.state_ok]

/-- Reading so many bytes reads at most so far after the mark. -/
theorem Holds.gatherFrom (h : cursor.Holds chunk extent behind) (last : UInt8 → Bool)
    {count : Nat} (hextent : behind + count ≤ extent) (taken : List UInt8) :
    (Cursor.gatherFrom last count taken cursor).cursor.Holds chunk extent (behind + count) := by
  induction count generalizing cursor behind taken with
  | zero => exact h
  | succ count ih =>
      have hnext := h.next (by omega)
      rw [Cursor.gatherFrom]
      cases hread : cursor.next with
      | error error after =>
          rw [hread] at hnext
          exact hnext.mono (by omega)
      | ok value after =>
          rw [hread, Result.state_ok] at hnext
          cases value with
          | none => exact hnext.mono (by omega)
          | some value =>
              simp only
              split
              · exact hnext.mono (by omega)
              · have hrest := ih hnext (by omega) (value :: taken)
                rwa [Nat.add_right_comm, Nat.add_assoc] at hrest

/-- What every read of a byte keeps, reading several keeps. -/
theorem gatherFrom_keeps {P : Cursor → Prop}
    (hnext : ∀ cursor, P cursor → P (Result.state cursor.next)) (h : P cursor)
    (last : UInt8 → Bool) (count : Nat) (taken : List UInt8) :
    P (gatherFrom last count taken cursor).cursor := by
  induction count generalizing cursor taken with
  | zero => exact h
  | succ count ih =>
      have hafter := hnext cursor h
      rw [Cursor.gatherFrom]
      cases hread : cursor.next with
      | error error after =>
          rw [hread] at hafter
          exact hafter
      | ok value after =>
          rw [hread, Result.state_ok] at hafter
          cases value with
          | none => exact hafter
          | some value =>
              simp only
              split
              · exact hafter
              · exact ih hafter (value :: taken)

theorem Rests.gatherFrom (h : cursor.Rests chunk extent) (last : UInt8 → Bool) (count : Nat)
    (taken : List UInt8) :
    (Cursor.gatherFrom last count taken cursor).cursor.Rests chunk extent :=
  gatherFrom_keeps (fun _ hrests => hrests.next) h last count taken

/-! ## What is held at least -/

/-- There is a mark, and at least `count` bytes are consumed since. -/
def Trails (count : Nat) (cursor : Cursor) : Prop :=
  ∃ since, cursor.since = some since ∧ count ≤ since.length

theorem trails_markBack (cursor : Cursor) (distance : Nat) :
    (cursor.markBack distance).Trails 0 :=
  ⟨_, rfl, Nat.zero_le _⟩

theorem Trails.le_held {count : Nat} (h : cursor.Trails count) : count ≤ cursor.held.length := by
  obtain ⟨since, hsince, hcount⟩ := h
  simp only [held, consumed, hsince, Option.getD_some, List.length_append, List.length_reverse]
  omega

/-- What is consumed since the mark stays held, and a byte that is read is added to it. -/
theorem Trails.next {count : Nat} {value : Option UInt8} {after : Cursor} (h : cursor.Trails count)
    (hnext : cursor.next = .ok value after) : after.Trails (count + value.toList.length) := by
  obtain ⟨since, hsince, hcount⟩ := h
  have hfill := since_fill cursor
  rw [hsince] at hfill
  simp only [Cursor.next] at hnext
  split at hnext
  · contradiction
  · rename_i filled heq
    rw [heq, Result.state_ok] at hfill
    split at hnext
    · cases hnext
      exact ⟨since, hfill, hcount⟩
    · rename_i first rest _
      cases hnext
      refine ⟨first :: since, by simp [Cursor.pass, hfill], ?_⟩
      simp only [Option.toList_some, List.length_cons, List.length_nil]
      omega

theorem Trails.next_error {count : Nat} {error : StreamError} {after : Cursor}
    (h : cursor.Trails count) (hnext : cursor.next = .error error after) : after.Trails count := by
  obtain ⟨since, hsince, hcount⟩ := h
  have hfill := since_fill cursor
  rw [hsince] at hfill
  simp only [Cursor.next] at hnext
  split at hnext
  · rename_i heq
    cases hnext
    rw [heq, Result.state_error] at hfill
    exact ⟨since, hfill, hcount⟩
  · split at hnext <;> contradiction

theorem Trails.state_next {count : Nat} (h : cursor.Trails count) :
    (Result.state cursor.next).Trails count := by
  cases hread : cursor.next with
  | error error after => exact h.next_error hread
  | ok value after =>
      obtain ⟨since, hsince, hcount⟩ := h.next hread
      exact ⟨since, hsince, by omega⟩

theorem Trails.gatherFrom {least : Nat} (h : cursor.Trails least) (last : UInt8 → Bool)
    (count : Nat) (taken : List UInt8) :
    (Cursor.gatherFrom last count taken cursor).cursor.Trails least :=
  gatherFrom_keeps (fun _ htrails => htrails.state_next) h last count taken

/-! ## What is ahead -/

/-- A byte that is read was the first to come; where none is read, none was passed. -/
theorem bytes_upcoming_of_next {after : Cursor} {value : Option UInt8}
    (h : cursor.next = .ok value after) :
    Moment.bytes cursor.upcoming = value.toList ++ Moment.bytes after.upcoming := by
  cases value with
  | none =>
      obtain ⟨-, -, idle, hidle, hpasses⟩ := passes_of_next_none h
      rw [hpasses.upcoming_eq, Moment.bytes_append, hidle]
      rfl
  | some value =>
      rw [(reads_of_next h).upcoming_eq, Moment.bytes_append, Moment.bytes_map_byte]
      rfl

end Cursor

end Multipart
