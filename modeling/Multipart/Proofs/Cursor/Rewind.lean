import Multipart.Proofs.Cursor.Memory

/-! # Going back to the mark

What is read after a mark is held, so going back to the mark and reading on reads the same bytes
again without asking the stream for them. A cursor that has been set back and moved on a little
stands behind one that has not. -/

namespace Multipart.Cursor

variable {cursor after back : Cursor} {kept rest : List UInt8} {value : UInt8}

/-! ## Reading what is held ahead -/

theorem pass_nil (cursor : Cursor) : cursor.pass [] cursor.ahead = cursor := by
  obtain ⟨source, chunk, hchunk, spent, since, ahead, position⟩ := cursor
  cases since <;> rfl

theorem pass_pass (cursor : Cursor) (first second ahead later : List UInt8) :
    (cursor.pass first ahead).pass second later = cursor.pass (second ++ first) later := by
  cases hsince : cursor.since <;> simp [pass, hsince] <;> omega

theorem next_of_ahead (h : cursor.ahead = value :: rest) :
    cursor.next = .ok (some value) (cursor.pass [value] rest) := by
  simp [next, fill, h]

/-- The bytes read before only stand in front of those that are read. -/
theorem gatherFrom_taken (last : UInt8 → Bool) (count : Nat) (taken : List UInt8)
    (cursor : Cursor) :
    gatherFrom last count taken cursor =
      ⟨taken.reverse ++ (gatherFrom last count [] cursor).bytes,
        (gatherFrom last count [] cursor).failure, (gatherFrom last count [] cursor).cursor⟩ := by
  induction count generalizing taken cursor with
  | zero => simp [gatherFrom]
  | succ count ih =>
      rw [gatherFrom, gatherFrom]
      cases cursor.next with
      | error error after => simp
      | ok found after =>
          cases found with
          | none => simp
          | some value =>
              simp only
              split
              · simp
              · rw [ih (value :: taken) after, ih [value] after]
                simp

theorem take_succ (cursor : Cursor) (count : Nat) :
    cursor.take (count + 1) =
      match cursor.next with
      | .error error after => ⟨[], some error, after⟩
      | .ok none after => ⟨[], none, after⟩
      | .ok (some value) after =>
          ⟨value :: (after.take count).bytes, (after.take count).failure,
            (after.take count).cursor⟩ := by
  rw [take, gather, gatherFrom]
  cases cursor.next with
  | error error after => rfl
  | ok found after =>
      cases found with
      | none => rfl
      | some value =>
          simp only [Bool.false_eq_true, ite_false]
          rw [gatherFrom_taken]
          rfl

/-- What is held ahead is read first, without asking the stream. -/
theorem take_of_ahead (h : cursor.ahead = kept ++ rest) (count : Nat) :
    cursor.take (kept.length + count) =
      ⟨kept ++ ((cursor.pass kept.reverse rest).take count).bytes,
        ((cursor.pass kept.reverse rest).take count).failure,
        ((cursor.pass kept.reverse rest).take count).cursor⟩ := by
  induction kept generalizing cursor with
  | nil =>
      rw [List.nil_append] at h
      subst h
      simp [pass_nil]
  | cons value kept ih =>
      rw [List.cons_append] at h
      have hrest := ih (ahead_pass cursor [value] (kept ++ rest))
      rw [pass_pass, ← List.reverse_cons] at hrest
      rw [List.length_cons, Nat.add_right_comm, take_succ, next_of_ahead h]
      simp only
      rw [hrest]
      rfl

theorem take_eq_of_ahead (h : cursor.ahead = kept ++ rest) :
    cursor.take kept.length = ⟨kept, none, cursor.pass kept.reverse rest⟩ := by
  have htake := take_of_ahead h 0
  simpa [take, gather, gatherFrom] using htake

/-! ## What is read since the mark -/

theorem since_next (cursor : Cursor) :
    (Result.state cursor.next).since = cursor.since.map fun since =>
      match cursor.next with
      | .ok (some value) _ => value :: since
      | .ok none _ | .error _ _ => since := by
  have hfill := since_fill cursor
  simp only [next]
  cases hresult : cursor.fill with
  | error error after =>
      rw [hresult] at hfill
      simpa using hfill
  | ok _ filled =>
      rw [hresult, Result.state_ok] at hfill
      cases hahead : filled.ahead with
      | nil => simpa [hahead] using hfill
      | cons value rest =>
          simp only [hahead, Result.state_ok, pass]
          cases hsince : filled.since with
          | none =>
              rw [hsince] at hfill
              simp [← hfill]
          | some since =>
              rw [hsince] at hfill
              simp [← hfill]

/-- What is read is added to what is consumed since the mark. -/
theorem since_take (cursor : Cursor) (count : Nat) :
    (cursor.take count).cursor.since =
      cursor.since.map fun since => (cursor.take count).bytes.reverse ++ since := by
  induction count generalizing cursor with
  | zero => simp [take, gather, gatherFrom]
  | succ count ih =>
      have hnext := since_next cursor
      rw [take_succ]
      cases hresult : cursor.next with
      | error error after =>
          rw [hresult] at hnext
          simpa using hnext
      | ok found after =>
          rw [hresult] at hnext
          cases found with
          | none => simpa using hnext
          | some value =>
              simp only [Result.state_ok] at hnext ⊢
              rw [ih after, hnext, Option.map_map]
              simp [Function.comp_def]

/-! ## Standing behind -/

/-- A cursor stands behind another one by bytes that both hold. If it is marked where it stands and
moved on over these bytes, it is the other one with the mark set back by as many. -/
structure Behind (back cursor : Cursor) (kept : List UInt8) : Prop where
  ahead_eq : back.ahead = kept ++ cursor.ahead
  mark_pass : back.mark.pass kept.reverse cursor.ahead = cursor.markBack kept.length

theorem behind_refl (cursor : Cursor) : Behind cursor cursor [] :=
  ⟨rfl, pass_nil cursor.mark⟩

theorem Behind.position_eq (h : Behind back cursor kept) :
    back.position + kept.length = cursor.position := by
  have hposition := congrArg Cursor.position h.mark_pass
  rwa [position_pass, List.length_reverse] at hposition

/-- Reading from behind reads the bytes that are held, and then what the other cursor reads. -/
theorem Behind.take_mark (h : Behind back cursor kept) (count : Nat) :
    back.mark.take (kept.length + count) =
      ⟨kept ++ ((cursor.markBack kept.length).take count).bytes,
        ((cursor.markBack kept.length).take count).failure,
        ((cursor.markBack kept.length).take count).cursor⟩ := by
  have hahead : back.mark.ahead = kept ++ cursor.ahead := h.ahead_eq
  rw [take_of_ahead hahead, h.mark_pass]

theorem rewind_of_since (h : cursor.since = some kept.reverse) :
    cursor.rewind = .ok () { cursor with
      since := some []
      ahead := kept ++ cursor.ahead
      position := cursor.position - kept.length } := by
  rw [rewind, h]
  simp only [List.reverse_reverse, List.length_reverse]

/-- A cursor that goes back to the mark and skips some of what it has read since stands behind by
what it has not skipped. -/
theorem behind_of_rewind {gone left : List UInt8}
    (hsince : cursor.since = some (gone ++ left).reverse)
    (hposition : (gone ++ left).length ≤ cursor.position) :
    ∃ rewound, cursor.rewind = .ok () rewound ∧
      ∃ back, rewound.take gone.length = ⟨gone, none, back⟩ ∧ Behind back cursor left ∧
        back.outstanding = left.length + cursor.outstanding := by
  have hahead : (gone ++ left) ++ cursor.ahead = gone ++ (left ++ cursor.ahead) :=
    List.append_assoc gone left cursor.ahead
  refine ⟨_, rewind_of_since hsince, _, take_eq_of_ahead hahead, ?_, ?_⟩
  · constructor
    · rw [ahead_pass]
    · rw [List.length_append] at hposition ⊢
      simp only [mark, markBack, divide_eq, consumed, pass, hsince, Option.getD_some]
      simp
      omega
  · rw [outstanding_pass, List.length_append, Nat.add_assoc]
    rfl

end Multipart.Cursor
