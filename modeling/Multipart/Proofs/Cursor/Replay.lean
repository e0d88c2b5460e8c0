import Multipart.Proofs.Cursor.Bisimulation
import Multipart.Proofs.Cursor.Rewind

/-! # Reading the bytes since the mark again

A cursor that has come from another one has read some bytes before its mark and some since. It can
go back to the mark at any time, also after a failed read. From there it reads the bytes of the
stream that follow the mark, and after those that it has read before it is the same cursor again. -/

namespace Multipart.Cursor

def unread (cursor : Cursor) : List UInt8 :=
  Moment.bytes cursor.upcoming

theorem unread_ofPlan (bytes : List UInt8) (plan : List Source.Setback) (most : Option Nat)
    (chunk : Nat) : (ofSource (.ofPlan bytes plan most) chunk).unread = bytes :=
  Source.bytes_script_ofPlan bytes plan most

/-- What so many reads of one byte hand out. A read that fails or answers the end is followed by the
next one all the same. -/
def drain : Nat → Cursor → List UInt8
  | 0, _ => []
  | count + 1, cursor =>
      match cursor.next with
      | .ok (some value) after => value :: drain count after
      | .ok none after => drain count after
      | .error _ after => drain count after

/-- Reading on from a cursor hands out just these bytes: no others, and all of them in the end, if
the source hands out what it has. -/
structure HandsOut (cursor : Cursor) (bytes : List UInt8) : Prop where
  only : ∀ count, drain count cursor <+: bytes
  all : cursor.source.Generous →
    ∃ enough, ∀ count, enough ≤ count → drain count cursor = bytes

variable {start cursor after back : Cursor} {before again gone kept bytes : List UInt8}
  {passed : List Moment}

/-! ## Reading to the end -/

theorem Passes.unread_eq (h : Passes cursor passed after) :
    cursor.unread = Moment.bytes passed ++ after.unread := by
  rw [unread, h.upcoming_eq, Moment.bytes_append, unread]

/-- A read hands out the byte that it passes. -/
theorem drain_succ (h : Passes cursor passed (Result.state cursor.next)) (count : Nat) :
    drain (count + 1) cursor = Moment.bytes passed ++ drain count (Result.state cursor.next) := by
  have hnexts := nexts_next cursor
  have hunread := h.unread_eq
  rw [drain]
  cases hnext : cursor.next with
  | error error after =>
      rw [hnext, Result.state_error] at hunread
      rw [hnext] at hnexts
      cases hnexts with
      | failure hpasses =>
          rw [hpasses.unread_eq, Moment.bytes_failure] at hunread
          rw [← List.append_cancel_right hunread]
          rfl
  | ok value after =>
      have hbytes : cursor.unread = value.toList ++ after.unread := bytes_upcoming_of_next hnext
      rw [hnext, Result.state_ok, hbytes] at hunread
      rw [← List.append_cancel_right hunread]
      cases value <;> rfl

theorem drain_prefix_unread (count : Nat) (cursor : Cursor) :
    drain count cursor <+: cursor.unread := by
  induction count generalizing cursor with
  | zero => exact List.nil_prefix
  | succ count ih =>
      obtain ⟨passed, hpasses⟩ := passes_next cursor
      rw [drain_succ hpasses, hpasses.unread_eq]
      exact (List.prefix_append_right_inj _).mpr (ih _)

/-- Each read takes one moment off the script. -/
theorem drain_eq (h : cursor.source.Generous) (count : Nat) :
    drain count cursor = Moment.bytes (cursor.upcoming.take count) := by
  induction count generalizing cursor with
  | zero => rfl
  | succ count ih =>
      obtain ⟨-, -, hpasses⟩ := @next_eq_serve_of_portion cursor fun _ => h _
      have hupcoming := hpasses.upcoming_eq
      have hafter := List.append_cancel_left (hupcoming.symm.trans (List.take_append_drop 1 _).symm)
      rw [drain_succ hpasses, ih (hpasses.generous h), hafter, ← Moment.bytes_append,
        Nat.add_comm count, List.take_add]

theorem handsOut_unread (cursor : Cursor) : cursor.HandsOut cursor.unread := by
  refine ⟨fun count => drain_prefix_unread count cursor, fun h => ?_⟩
  refine ⟨cursor.upcoming.length, fun count hcount => ?_⟩
  rw [drain_eq h, List.take_of_length_le hcount, unread]

/-! ## Before the mark and since -/

/-- A cursor that has come from another one has read these bytes before its mark and these since. -/
structure MarkedAfter (start : Cursor) (before again : List UInt8) (cursor : Cursor) : Prop where
  passes : ∃ passed, Passes start passed cursor ∧ Moment.bytes passed = before ++ again
  since_eq : cursor.since = some again.reverse

theorem markedAfter_mark (start : Cursor) : MarkedAfter start [] [] start.mark :=
  ⟨⟨[], passes_markBack start 0, rfl⟩, by simp [mark, markBack, divide_eq]⟩

/-- The mark may be put between any of the bytes read since. -/
theorem MarkedAfter.markBack (h : MarkedAfter start before (gone ++ kept) cursor) :
    MarkedAfter start (before ++ gone) kept (cursor.markBack kept.length) := by
  obtain ⟨passed, hpasses, hbytes⟩ := h.passes
  refine ⟨⟨passed, ?_, by rw [hbytes, List.append_assoc]⟩, ?_⟩
  · have hmoved := hpasses.trans (passes_markBack cursor kept.length)
    rwa [List.append_nil] at hmoved
  · have hlength : kept.length = kept.reverse.length := List.length_reverse.symm
    rw [Cursor.markBack, divide_eq, consumed, h.since_eq, Option.getD_some, List.reverse_append,
      List.append_assoc, hlength, List.take_left]

theorem passes_take (cursor : Cursor) (count : Nat) :
    ∃ passed, Passes cursor passed (cursor.take count).cursor ∧
      Moment.bytes passed = (cursor.take count).bytes := by
  have hgathers := gathers_take cursor count
  generalize cursor.take count = gathered at hgathers
  cases hgathers with
  | full hreads hlength => exact ⟨_, hreads, Moment.bytes_map_byte _⟩
  | ended hreads hend hlength =>
      obtain ⟨-, -, idle, hidle, hpasses⟩ := passes_of_next_none hend
      refine ⟨_, Passes.trans hreads hpasses, ?_⟩
      rw [Moment.bytes_append, Moment.bytes_map_byte, hidle, List.append_nil]
  | @failure bytes between after error hreads hend =>
      have hnexts := nexts_next between
      rw [hend] at hnexts
      cases hnexts with
      | failure hpasses =>
          refine ⟨_, Passes.trans hreads hpasses, ?_⟩
          rw [Moment.bytes_append, Moment.bytes_map_byte, Moment.bytes_failure, List.append_nil]

theorem MarkedAfter.take (h : MarkedAfter start before again cursor) (count : Nat) :
    MarkedAfter start before (again ++ (cursor.take count).bytes) (cursor.take count).cursor := by
  obtain ⟨passed, hpasses, hbytes⟩ := h.passes
  obtain ⟨more, hmore, hread⟩ := passes_take cursor count
  refine ⟨⟨passed ++ more, hpasses.trans hmore, ?_⟩, ?_⟩
  · rw [Moment.bytes_append, hbytes, hread, List.append_assoc]
  · rw [since_take, h.since_eq, Option.map_some, List.reverse_append]

theorem cursor_take_one (cursor : Cursor) : (cursor.take 1).cursor = Result.state cursor.next := by
  rw [take_succ]
  cases cursor.next with
  | error error after => rfl
  | ok value after => cases value <;> rfl

theorem MarkedAfter.next (h : MarkedAfter start before again cursor) :
    ∃ more, MarkedAfter start before (again ++ more) (Result.state cursor.next) := by
  rw [← cursor_take_one]
  exact ⟨_, h.take 1⟩

/-! ## Going back -/

theorem MarkedAfter.position_eq (h : MarkedAfter start before again cursor) :
    cursor.position = start.position + before.length + again.length := by
  obtain ⟨passed, hpasses, hbytes⟩ := h.passes
  rw [hpasses.position_eq, hbytes, List.length_append, Nat.add_assoc]

theorem MarkedAfter.marked? (h : MarkedAfter start before again cursor) :
    cursor.marked? = some (start.position + before.length) := by
  rw [Cursor.marked?, h.since_eq, Option.map_some, List.length_reverse, h.position_eq,
    Nat.add_sub_cancel]

theorem MarkedAfter.unread_eq (h : MarkedAfter start before again cursor) :
    start.unread = before ++ (again ++ cursor.unread) := by
  obtain ⟨passed, hpasses, hbytes⟩ := h.passes
  rw [hpasses.unread_eq, hbytes, List.append_assoc]

/-- Going back to the mark and reading the bytes since it again restores the cursor. -/
theorem MarkedAfter.rewind (h : MarkedAfter start before again cursor) :
    ∃ back, cursor.rewind = .ok () back ∧ back.position = start.position + before.length ∧
      back.take again.length = ⟨again, none, cursor⟩ ∧ back.unread = again ++ cursor.unread := by
  have hposition := h.position_eq
  refine ⟨_, rewind_of_since h.since_eq, ?_, ?_, ?_⟩
  · simp only [hposition, Nat.add_sub_cancel]
  · rw [take_eq_of_ahead rfl]
    obtain ⟨source, chunk, hchunk, spent, since, ahead, position⟩ := cursor
    have hsince := h.since_eq
    simp only at hsince hposition
    simp only [pass, hsince, List.append_nil, List.length_reverse, hposition, Nat.add_sub_cancel]
  · simp [unread, upcoming]

end Multipart.Cursor
