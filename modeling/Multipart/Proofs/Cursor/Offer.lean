import Multipart.Proofs.Cursor.Pull

/-! # Bytes that are handed out

A stream may hand out some bytes when they are asked for and do anything after them. A cursor reads
these bytes, whatever follows. -/

namespace Multipart.Cursor

/-- A stream goes on with some bytes, which it hands out when they are asked for, and then with
`rest`. The cursor has pulled `base` more bytes than it has consumed and holds. -/
structure Offers (base : Nat) (cursor : Cursor) (bytes : List UInt8) (rest : List Moment) :
    Prop where
  upcoming_eq : cursor.upcoming = bytes.map .byte ++ rest
  pulled_eq : cursor.source.pulled = base + cursor.position + cursor.ahead.length
  portion_ne : ∀ offset, cursor.position ≤ offset → offset < cursor.position + bytes.length →
    cursor.source.portion (base + offset) ≠ some 0

variable {base : Nat} {cursor after : Cursor} {value : UInt8} {bytes more : List UInt8}
  {rest : List Moment}

theorem Offers.reads (h : cursor.Offers base (bytes ++ more) rest)
    (hreads : Reads cursor bytes after) : after.Offers base more rest := by
  have hposition := hreads.position_eq
  refine ⟨?_, hreads.balance h.pulled_eq, ?_⟩
  · have hupcoming := hreads.upcoming_eq
    rw [h.upcoming_eq, List.map_append, List.append_assoc] at hupcoming
    exact (List.append_cancel_left hupcoming).symm
  · intro offset hle hlt
    rw [hreads.portion_eq]
    refine h.portion_ne offset (by omega) ?_
    rw [List.length_append]
    omega

/-- The next byte that is offered is read. -/
theorem Offers.next_cons (h : cursor.Offers base (value :: bytes) rest) :
    ∃ after, cursor.next = .ok (some value) after ∧ after.Offers base bytes rest := by
  have hupcoming := h.upcoming_eq
  rw [List.map_cons, List.cons_append] at hupcoming
  have hnexts := nexts_next cursor
  cases hnext : cursor.next with
  | error error failed =>
      rw [hnext] at hnexts
      cases hnexts with
      | failure hpasses => simp [hpasses.upcoming_eq] at hupcoming
  | ok found after =>
      rw [hnext] at hnexts
      cases hnexts with
      | byte hpasses =>
          rw [hpasses.upcoming_eq, List.singleton_append, List.cons.injEq,
            Moment.byte.injEq] at hupcoming
          obtain ⟨rfl, -⟩ := hupcoming
          have hoffers : cursor.Offers base ([_] ++ bytes) rest := h
          exact ⟨after, rfl, hoffers.reads (reads_of_next hnext)⟩
      | pause hpasses _ => simp [hpasses.upcoming_eq] at hupcoming
      | ended _ _ hend =>
          obtain ⟨hahead, -⟩ := passes_of_next_none hnext
          rcases hend with hnil | hportion
          · simp [hnil] at hupcoming
          · have hpulled := h.pulled_eq
            rw [hahead, List.length_nil, Nat.add_zero] at hpulled
            rw [hpulled] at hportion
            exact absurd hportion (h.portion_ne _ (Nat.le_refl _) (by simp))

end Multipart.Cursor
