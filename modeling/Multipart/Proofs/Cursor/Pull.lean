import Multipart.Proofs.Cursor.Bisimulation
import Multipart.Proofs.Cursor.Memory

/-! # How much a cursor pulls

A cursor asks its source for bytes only when it holds none ahead, and for no more than a chunk. What
it has pulled is what it has consumed and what it holds ahead. A source that hands out no byte where
the next one is asked for hands out none ever after. -/

namespace Multipart.Cursor

variable {cursor after : Cursor} {base chunk : Nat}

/-! ## The bytes ahead -/

/-- A cursor has pulled `base` more bytes than it has consumed and holds ahead, and holds no more
than a chunk ahead. -/
structure Pulls (base chunk : Nat) (cursor : Cursor) : Prop where
  pulled_eq : cursor.source.pulled = base + cursor.position + cursor.ahead.length
  ahead_le : cursor.ahead.length ≤ chunk
  chunk_eq : cursor.chunk = chunk

/-- The bytes that are pulled, consumed and held ahead stay in balance. -/
theorem Passes.balance {passed : List Moment} (h : Passes cursor passed after)
    (hpulled : cursor.source.pulled = base + cursor.position + cursor.ahead.length) :
    after.source.pulled = base + after.position + after.ahead.length := by
  have hposition := h.position_eq
  have hbalance := h.pulled_eq
  omega

theorem chunk_fill (cursor : Cursor) : (Result.state cursor.fill).chunk = cursor.chunk := by
  simp only [fill]
  split
  · split <;> rfl
  · rfl

theorem ahead_fill_le (h : cursor.ahead.length ≤ cursor.chunk) :
    (Result.state cursor.fill).ahead.length ≤ cursor.chunk := by
  simp only [fill]
  split
  · split
    · rename_i hread
      exact Source.length_read_le hread
    · exact h
  · exact h

theorem chunk_next (cursor : Cursor) : (Result.state cursor.next).chunk = cursor.chunk := by
  have hfill := chunk_fill cursor
  simp only [next]
  split
  · rename_i heq
    rwa [heq] at hfill
  · rename_i heq
    rw [heq, Result.state_ok] at hfill
    split
    · exact hfill
    · rw [Result.state_ok, chunk_pass, hfill]

theorem ahead_next_le (h : cursor.ahead.length ≤ cursor.chunk) :
    (Result.state cursor.next).ahead.length ≤ cursor.chunk := by
  have hfill := ahead_fill_le h
  simp only [next]
  split
  · rename_i heq
    rwa [heq] at hfill
  · rename_i heq
    rw [heq, Result.state_ok] at hfill
    split
    · exact hfill
    · rename_i hahead
      rw [hahead, List.length_cons] at hfill
      rw [Result.state_ok, ahead_pass]
      omega

theorem kept_pulls (base chunk : Nat) : Kept (Pulls base chunk) where
  next := by
    intro cursor h
    obtain ⟨passed, hpasses⟩ := passes_next cursor
    have hahead := h.ahead_le
    rw [← h.chunk_eq] at hahead
    refine ⟨hpasses.balance h.pulled_eq, ?_, ?_⟩
    · rw [← h.chunk_eq]
      exact ahead_next_le hahead
    · rw [chunk_next, h.chunk_eq]
  markBack := fun h _ => ⟨h.pulled_eq, h.ahead_le, h.chunk_eq⟩
  clearMark := fun h => ⟨h.pulled_eq, h.ahead_le, h.chunk_eq⟩

/-! ## Sources that hand out nothing -/

/-- A cursor at an offset asks for a byte where its source hands out none. -/
structure Dry (offset : Nat) (cursor : Cursor) : Prop where
  ahead_eq : cursor.ahead = []
  portion_eq : cursor.source.portion cursor.source.pulled = some 0
  position_eq : cursor.position = offset

theorem Dry.fill {offset : Nat} (h : cursor.Dry offset) :
    (Result.state cursor.fill).Dry offset := by
  have hserves := cursor.source.serves_read cursor.chunk
  simp only [Cursor.fill, h.ahead_eq, List.isEmpty_nil, ite_true]
  cases hread : cursor.source.read cursor.chunk with
  | error error rest =>
      rw [hread] at hserves
      cases hserves with
      | failure _ hpulled hportion =>
          exact ⟨rfl, by simp [hpulled, hportion, h.portion_eq], h.position_eq⟩
  | ok bytes rest =>
      have hlength := Source.length_read_le_allowance hread
      have hnone : cursor.source.allowance cursor.chunk = 0 := by
        simp [Source.allowance, h.portion_eq]
      have hnil : bytes = [] := List.length_eq_zero_iff.mp (by omega)
      subst hnil
      rw [hread] at hserves
      cases hserves with
      | pause _ hpulled hportion =>
          exact ⟨rfl, by simp [hpulled, hportion, h.portion_eq], h.position_eq⟩
      | bytes _ hpulled hportion _ =>
          exact ⟨rfl, by simp [hpulled, hportion, h.portion_eq], h.position_eq⟩

/-- Where a source hands out nothing, a cursor stays. -/
theorem kept_dry (offset : Nat) : Kept (Dry offset) where
  next := by
    intro cursor h
    have hfill := h.fill
    simp only [Cursor.next]
    split
    · rename_i heq
      rwa [heq] at hfill
    · rename_i heq
      rw [heq, Result.state_ok] at hfill
      simp only [hfill.ahead_eq]
      exact hfill
  markBack := fun h _ => ⟨h.ahead_eq, h.portion_eq, h.position_eq⟩
  clearMark := fun h => ⟨h.ahead_eq, h.portion_eq, h.position_eq⟩

end Multipart.Cursor
