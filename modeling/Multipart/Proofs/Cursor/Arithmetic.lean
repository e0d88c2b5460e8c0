import Multipart.Proofs.Cursor.Mirror
import Multipart.Proofs.Cursor.Rewind

/-! # Cursors never leave their words

Registers do what the cursor does that they stand for: no difference is negative, no slice reaches
beyond its buffer, and a sum overflows only if the stream has more bytes than a word counts. The one
exception is consuming, where the sum of the place and an arbitrary count is cut back to the buffer
only after it is formed. -/

namespace Multipart.Cursor

open Breakdown (add sub within enlarge Ends ends_pure ends_bind ends_check)

variable {total chunk count : Nat} {cursor filled failed after : Cursor} {error : StreamError}

/-! ## Reading all that is held at once -/

theorem fill_of_ahead (h : cursor.ahead ≠ []) : cursor.fill = .ok () cursor := by
  rw [fill, if_neg (by simpa using h)]

theorem advance_of_nil (h : cursor.ahead = []) (count : Nat) : cursor.advance count = cursor := by
  rw [advance, List.take_of_length_le (by simp [h]), List.drop_of_length_le (by simp [h]), h]
  simpa [h] using pass_nil cursor

theorem next_of_fill_error (h : cursor.fill = .error error failed) :
    cursor.next = .error error failed := by
  rw [next, h]

theorem next_of_fill_nil (h : cursor.fill = .ok () filled) (hahead : filled.ahead = []) :
    cursor.next = .ok none filled := by
  simp only [next, h, hahead]

theorem next_of_fill (h : cursor.fill = .ok () filled) (hahead : filled.ahead ≠ []) :
    cursor.next = filled.next := by
  rw [next, h, next, fill_of_ahead hahead]

/-- What a read hands out comes first, and then what is read on. -/
theorem take_eq_read (cursor : Cursor) (hcount : count ≠ 0) :
    cursor.take count =
      match cursor.read count with
      | .error error failed => ⟨[], some error, failed⟩
      | .ok bytes after =>
          if bytes = [] then ⟨[], none, after⟩
          else ⟨bytes ++ (after.take (count - bytes.length)).bytes,
            (after.take (count - bytes.length)).failure,
            (after.take (count - bytes.length)).cursor⟩ := by
  obtain ⟨count, rfl⟩ := Nat.exists_eq_succ_of_ne_zero hcount
  rw [read]
  cases hfill : cursor.fill with
  | error error failed => rw [take_succ, next_of_fill_error hfill]
  | ok _ filled =>
      by_cases hahead : filled.ahead = []
      · rw [take_succ, next_of_fill_nil hfill hahead]
        simp [hahead, advance_of_nil hahead]
      · have htake : filled.ahead.take (count + 1) ≠ [] := by simpa using hahead
        have hlength := List.length_take_le (count + 1) filled.ahead
        have hall := take_of_ahead (List.take_append_drop (count + 1) filled.ahead).symm
          (count + 1 - (filled.ahead.take (count + 1)).length)
        rw [Nat.add_sub_cancel' hlength, take_succ] at hall
        rw [take_succ, next_of_fill hfill hahead, hall]
        simp only [if_neg htake]
        rfl

theorem takeThroughFrom_eq_next (stop : UInt8) (taken : List UInt8) (cursor : Cursor) :
    takeThroughFrom stop taken cursor =
      match cursor.next with
      | .error error after => ⟨taken.reverse, some error, after⟩
      | .ok none after => ⟨taken.reverse, none, after⟩
      | .ok (some value) after =>
          if value = stop then ⟨(value :: taken).reverse, none, after⟩
          else takeThroughFrom stop (value :: taken) after := by
  rw [takeThroughFrom]
  split <;> simp only [*]

/-- Bytes without the one that is looked for are passed. -/
theorem takeThroughFrom_of_ahead {stop : UInt8} {front rest : List UInt8} (taken : List UInt8)
    (h : cursor.ahead = front ++ rest) (hstop : stop ∉ front) :
    takeThroughFrom stop taken cursor =
      takeThroughFrom stop (front.reverse ++ taken) (cursor.pass front.reverse rest) := by
  induction front generalizing taken cursor with
  | nil =>
      rw [List.nil_append] at h
      subst h
      rw [List.reverse_nil, List.nil_append, pass_nil]
  | cons value front ih =>
      rw [List.mem_cons, not_or] at hstop
      rw [List.cons_append] at h
      have hrest := ih (value :: taken) (ahead_pass cursor [value] (front ++ rest)) hstop.2
      rw [takeThroughFrom_eq_next, next_of_ahead h]
      simp only [if_neg (Ne.symm hstop.1)]
      rw [hrest, pass_pass, List.reverse_cons, List.append_assoc]
      rfl

/-- What is held is searched at once. -/
theorem takeThroughFrom_eq_fill (stop : UInt8) (taken : List UInt8) (cursor : Cursor) :
    takeThroughFrom stop taken cursor =
      match cursor.fill with
      | .error error failed => ⟨taken.reverse, some error, failed⟩
      | .ok () filled =>
          let count := Registers.reach stop filled.ahead
          let passed := (filled.ahead.take count).reverse ++ taken
          if stop ∈ filled.ahead ∨ count = 0 then ⟨passed.reverse, none, filled.advance count⟩
          else takeThroughFrom stop passed (filled.advance count) := by
  cases hfill : cursor.fill with
  | error error failed => rw [takeThroughFrom_eq_next, next_of_fill_error hfill]
  | ok _ filled =>
      by_cases hahead : filled.ahead = []
      · rw [takeThroughFrom_eq_next, next_of_fill_nil hfill hahead]
        simp [hahead, advance_of_nil hahead, Registers.reach]
      · have hsame : takeThroughFrom stop taken cursor = takeThroughFrom stop taken filled := by
          rw [takeThroughFrom_eq_next, next_of_fill hfill hahead, ← takeThroughFrom_eq_next]
        rw [hsame]
        by_cases hstop : stop ∈ filled.ahead
        · obtain ⟨front, rest, heq, hfront⟩ := List.eq_append_cons_of_mem hstop
          have hreach : Registers.reach stop filled.ahead = front.length + 1 := by
            rw [Registers.reach, if_pos hstop, heq, List.idxOf_append, if_neg hfront,
              List.idxOf_cons_self, Nat.zero_add]
          have hsplit : filled.ahead = (front ++ [stop]) ++ rest := by
            rw [heq, List.append_assoc, List.singleton_append]
          have hlength : front.length + 1 = (front ++ [stop]).length := by simp
          have htake : filled.ahead.take (front.length + 1) = front ++ [stop] := by
            rw [hlength, hsplit, List.take_left]
          have hdrop : filled.ahead.drop (front.length + 1) = rest := by
            rw [hlength, hsplit, List.drop_left]
          rw [takeThroughFrom_of_ahead taken heq hfront, takeThroughFrom_eq_next,
            next_of_ahead (ahead_pass _ _ _)]
          simp only [hstop, true_or, if_true, hreach, htake, advance, hdrop, pass_pass]
          simp
        · have hlength : filled.ahead.length ≠ 0 := by simpa using hahead
          have hreach : Registers.reach stop filled.ahead = filled.ahead.length := if_neg hstop
          have hnil := takeThroughFrom_of_ahead taken (List.append_nil filled.ahead).symm hstop
          simp only [hreach, hstop, hlength, or_self, if_false, List.take_length]
          rw [hnil, advance, List.take_length, List.drop_length]

/-! ## Gathering -/

/-- Registers gather the bytes that a cursor gathers, after some that they have before, and stand
for it afterwards. -/
structure Collects (total chunk : Nat) (before : List UInt8) (gathered : Gathered)
    (result : Registers.Gathered) : Prop where
  bytes_eq : result.bytes = before ++ gathered.bytes
  failure_eq : result.failure = gathered.failure
  registers_eq : result.registers = gathered.cursor.registers
  counted : gathered.cursor.Counted total chunk

theorem Collects.prepend {before bytes : List UInt8} {gathered : Gathered}
    {result : Registers.Gathered} (h : Collects total chunk (before ++ bytes) gathered result) :
    Collects total chunk before ⟨bytes ++ gathered.bytes, gathered.failure, gathered.cursor⟩
      result := by
  refine ⟨?_, h.failure_eq, h.registers_eq, h.counted⟩
  rw [h.bytes_eq, List.append_assoc]

/-- Nothing more is gathered. -/
theorem Counted.collects_nil (h : cursor.Counted total chunk) (before : List UInt8)
    (failure : Option StreamError) :
    Collects total chunk before ⟨[], failure, cursor⟩ ⟨before, failure, cursor.registers⟩ :=
  ⟨(List.append_nil before).symm, rfl, rfl, h⟩

theorem take_zero (cursor : Cursor) : cursor.take 0 = ⟨[], none, cursor⟩ := rfl

theorem position_fill (cursor : Cursor) :
    (Result.state cursor.fill).position = cursor.position := by
  simp only [fill]
  split
  · split <;> rfl
  · rfl

theorem position_read {size : Nat} {bytes : List UInt8} (h : cursor.read size = .ok bytes after) :
    after.position = cursor.position + bytes.length := by
  have hfill := position_fill cursor
  rw [read] at h
  cases hresult : cursor.fill with
  | error error failed => simp [hresult] at h
  | ok _ filled =>
      rw [hresult] at h hfill
      cases h
      rw [advance, position_pass, List.length_reverse, ← hfill, Result.state_ok]

theorem ends_skipFrom (h : cursor.Counted total chunk) (left : Nat) (passed : List UInt8) :
    Ends (fun result => result.1 + (cursor.take left).bytes.length = left ∧
        Collects total chunk passed (cursor.take left) result.2) (Exceeds total chunk)
      (Registers.skipFrom left passed cursor.registers) := by
  induction left using Nat.strongRecOn generalizing passed cursor with
  | ind left ih =>
  rw [Registers.skipFrom_eq]
  by_cases hleft : left = 0
  · subst hleft
    rw [if_pos rfl, ends_pure, take_zero]
    exact ⟨rfl, h.collects_nil passed none⟩
  rw [if_neg hleft, ends_bind, take_eq_read cursor hleft, read]
  refine (ends_fill h).imp fun result hmirrors => ?_
  generalize cursor.fill = answer at hmirrors
  cases hmirrors with
  | error hcounted => exact ⟨rfl, hcounted.collects_nil passed _⟩
  | @ok _ filled hcounted =>
      simp only [List.take_eq_nil_iff, hleft, false_or]
      by_cases hahead : filled.ahead = []
      · simp only [hahead, List.length_nil, if_true, ends_pure, advance_of_nil hahead]
        exact ⟨rfl, hcounted.collects_nil passed none⟩
      · have hlength : filled.ahead.length ≠ 0 := by simpa using hahead
        simp only [hahead, hlength, if_false, ends_bind]
        refine (hcounted.ends_consume (Nat.min_le_left _ _)).imp fun registers hregisters => ?_
        rw [hregisters, advance_min_length, take_min_length, List.length_take, Nat.min_comm,
          sub, ends_check]
        refine ⟨fun _ => ?_, fun hstep => absurd (Nat.min_le_right _ _) hstep⟩
        refine (ih _ (by omega) (hcounted.advance left) _).imp fun result hresult => ?_
        refine ⟨?_, hresult.2.prepend⟩
        rw [List.length_append, List.length_take]
        omega

/-- Reading into a place counts only bytes that are consumed. -/
theorem ends_takeFrom (h : cursor.Counted total chunk) (size : Nat) (taken : List UInt8)
    (htaken : taken.length ≤ cursor.position) :
    Ends (Collects total chunk taken (cursor.take (size - taken.length))) (Exceeds total chunk)
      (Registers.takeFrom size taken cursor.registers) := by
  induction hsize : size - taken.length using Nat.strongRecOn generalizing taken cursor with
  | ind left ih =>
  rw [Registers.takeFrom]
  by_cases hleft : size ≤ taken.length
  · rw [dif_pos hleft, ends_pure, ← hsize, Nat.sub_eq_zero_of_le hleft, take_zero]
    exact h.collects_nil taken none
  rw [dif_neg hleft, within, ends_bind, ends_check]
  refine ⟨fun _ => ?_, fun hbeyond => absurd (by omega) hbeyond⟩
  rw [ends_bind, hsize, take_eq_read cursor (by omega)]
  refine (ends_read h left).imp fun result hmirrors => ?_
  have hread : ∀ bytes after, cursor.read left = .ok bytes after →
      after.position = cursor.position + bytes.length := fun _ _ => position_read
  generalize cursor.read left = answer at hmirrors hread
  cases hmirrors with
  | error hcounted => exact hcounted.collects_nil taken _
  | @ok bytes after hcounted =>
      -- What is taken is consumed, and no more is consumed than the stream has.
      have hposition := hread bytes after rfl
      have htotal := hcounted.total_le
      by_cases hbytes : bytes = []
      · simp only [hbytes, List.length_nil, dif_pos, ends_pure, if_true]
        exact hcounted.collects_nil taken none
      · have hlength : bytes.length ≠ 0 := by simpa using hbytes
        simp only [hbytes, hlength, if_false, dite_false, add, ends_bind, ends_check]
        refine ⟨fun _ => ?_, fun hsum => .overflow (by omega)⟩
        have hrest := ih (left - bytes.length) (by omega) hcounted (taken ++ bytes)
          (by rw [List.length_append]; omega) (by rw [List.length_append]; omega)
        exact hrest.imp fun result hresult => hresult.prepend

theorem ends_takeThroughFrom (h : cursor.Counted total chunk) (stop : UInt8)
    (taken : List UInt8) :
    Ends (Collects total chunk [] (takeThroughFrom stop taken.reverse cursor))
      (Exceeds total chunk) (Registers.takeThroughFrom stop taken cursor.registers) := by
  induction hsize : cursor.outstanding using Nat.strongRecOn generalizing taken cursor with
  | ind size ih =>
  have houtstanding : ∀ filled, cursor.fill = .ok () filled →
      filled.outstanding ≤ cursor.outstanding := fun _ => outstanding_fill_ok
  rw [Registers.takeThroughFrom_eq, takeThroughFrom_eq_fill, ends_bind]
  refine (ends_fill h).imp fun result hmirrors => ?_
  generalize cursor.fill = answer at hmirrors houtstanding
  cases hmirrors with
  | error hcounted =>
      rw [List.reverse_reverse]
      exact ⟨rfl, rfl, rfl, hcounted⟩
  | @ok _ filled hcounted =>
      have hle := houtstanding filled rfl
      have hreach := Registers.reach_le stop filled.ahead
      simp only [ends_bind]
      refine (hcounted.ends_consume hreach).imp fun registers hregisters => ?_
      rw [hregisters, ← List.reverse_append]
      by_cases hlast : stop ∈ filled.ahead ∨ Registers.reach stop filled.ahead = 0
      · simp only [hlast, if_true, List.reverse_reverse]
        exact ⟨rfl, rfl, rfl, hcounted.advance _⟩
      · -- All that is held is passed, and there is something held, so less is outstanding.
        simp only [hlast, if_false]
        refine ih _ ?_ (hcounted.advance _) _ rfl
        rw [not_or] at hlast
        rw [advance, outstanding_pass, List.length_drop]
        rw [outstanding] at hle
        omega

/-! ## The mark -/

theorem registers_mark (cursor : Cursor) : cursor.mark.registers = cursor.registers.mark := by
  have hconsumed : cursor.mark.consumed = cursor.consumed := consumed_markBack cursor 0
  have hheld : cursor.mark.held = cursor.held := held_markBack cursor 0
  have hspent : cursor.mark.spent = cursor.consumed := by
    rw [mark, markBack, divide_eq, List.drop_zero]
  rw [registers, Registers.mark, hheld, hconsumed, hspent, base, hconsumed]
  rfl

theorem Counted.mark (h : cursor.Counted total chunk) : cursor.mark.Counted total chunk := by
  have hconsumed : cursor.mark.consumed = cursor.consumed := consumed_markBack cursor 0
  have hheld : cursor.mark.held = cursor.held := held_markBack cursor 0
  exact ⟨hconsumed ▸ h.consumed_le, h.total_le, h.chunk_eq, h.chunk_le, hheld ▸ h.held_le⟩

theorem Counted.clearMark (h : cursor.Counted total chunk) :
    cursor.clearMark.Counted total chunk :=
  ⟨h.consumed_le, h.total_le, h.chunk_eq, h.chunk_le, h.held_le⟩

/-- The cursor gone back over what it has read since the mark. -/
def rewound (cursor : Cursor) : Cursor :=
  let since := cursor.since.getD []
  { cursor with
    since := some []
    ahead := since.reverse ++ cursor.ahead
    position := cursor.position - since.length }

theorem held_rewound (cursor : Cursor) : cursor.rewound.held = cursor.held := by
  simp [held, consumed, rewound]

theorem registers_rewind {since : List UInt8} (h : cursor.since = some since) :
    cursor.registers.rewind = .ok () cursor.rewound.registers := by
  have hconsumed : cursor.rewound.consumed = cursor.spent := rfl
  have hbase : cursor.rewound.base = cursor.base := by
    rw [base, base, hconsumed, length_consumed]
    exact Nat.sub_sub _ _ _
  simp only [Registers.rewind, registers, held_rewound, hconsumed, hbase, h, Option.map_some]
  rfl

theorem Counted.rewound (h : cursor.Counted total chunk) :
    cursor.rewound.Counted total chunk := by
  have hconsumed := h.consumed_le
  have htotal := h.total_le
  rw [length_consumed] at hconsumed
  refine ⟨?_, ?_, h.chunk_eq, h.chunk_le, ?_⟩
  · change cursor.spent.length ≤ cursor.position - (cursor.since.getD []).length
    omega
  · rw [outstanding] at htotal ⊢
    simp only [Cursor.rewound, List.length_append, List.length_reverse]
    omega
  · rw [held_rewound]
    exact h.held_le

theorem Counted.mirrors_rewind (h : cursor.Counted total chunk) :
    Mirrors total chunk (fun _ _ => ()) cursor.rewind cursor.registers.rewind := by
  cases hsince : cursor.since with
  | none =>
      have hmark : cursor.registers.mark? = none := by simp [registers, hsince]
      rw [rewind, Registers.rewind, hsince, hmark]
      exact .error h
  | some since =>
      have hrewind : cursor.rewind = .ok () cursor.rewound := by
        rw [rewind, Cursor.rewound, hsince]
        rfl
      rw [hrewind, registers_rewind hsince]
      exact .ok h.rewound

/-! ## Operations -/

/-- A cursor gives what registers give, and they stand for it afterwards. -/
def Gives (total chunk : Nat) {α : Type} (outcome : Option (α × Cursor))
    (result : α × Registers) : Prop :=
  ∃ after : Cursor, outcome = some (result.1, after) ∧ result.2 = after.registers ∧
    after.Counted total chunk

/-- Registers break down if a stream is too long, or if a cursor gives nothing. -/
def Fails (total chunk : Nat) {α : Type} (outcome : Option (α × Cursor))
    (breakdown : Breakdown) : Prop :=
  Exceeds total chunk breakdown ∨ breakdown = .overflow ∧ outcome = none

theorem Mirrors.gives {α β : Type} {shown : α → Cursor → β} {answer : Answer α}
    {result : Registers.Answer β} {outcome : Option (Response × Cursor)} {whole : β → Response}
    (h : Mirrors total chunk shown answer result)
    (hok : ∀ value after, answer = .ok value after →
      outcome = some (whole (shown value after), after))
    (herror : ∀ error after, answer = .error error after →
      outcome = some (.failure error [], after)) :
    Gives total chunk outcome (Registers.respond whole result) := by
  cases h with
  | ok hcounted => exact ⟨_, hok _ _ rfl, rfl, hcounted⟩
  | error hcounted => exact ⟨_, herror _ _ rfl, rfl, hcounted⟩

theorem ends_respond {α β : Type} {shown : α → Cursor → β} {answer : Answer α}
    {computation : Except Breakdown (Registers.Answer β)} {outcome : Option (Response × Cursor)}
    {whole : β → Response}
    (h : Ends (Mirrors total chunk shown answer) (Exceeds total chunk) computation)
    (hok : ∀ value after, answer = .ok value after →
      outcome = some (whole (shown value after), after))
    (herror : ∀ error after, answer = .error error after →
      outcome = some (.failure error [], after)) :
    Ends (Gives total chunk outcome) (Fails total chunk outcome)
      (do return Registers.respond whole (← computation)) := by
  rw [ends_bind]
  exact (h.imp fun _ hmirrors => hmirrors.gives hok herror).weaken fun _ => .inl

theorem Collects.gives {gathered : Gathered} {result : Registers.Gathered}
    (h : Collects total chunk [] gathered result) :
    Gives total chunk
      (some (.ofRead .bytes gathered.bytes gathered.failure, gathered.cursor)) result.response := by
  refine ⟨gathered.cursor, ?_, h.registers_eq, h.counted⟩
  rw [Registers.Gathered.response, h.bytes_eq, h.failure_eq, List.nil_append]

theorem ends_response {gathered : Gathered}
    {computation : Except Breakdown Registers.Gathered} {outcome : Option (Response × Cursor)}
    (h : Ends (Collects total chunk [] gathered) (Exceeds total chunk) computation)
    (houtcome : outcome =
      some (.ofRead .bytes gathered.bytes gathered.failure, gathered.cursor)) :
    Ends (Gives total chunk outcome) (Fails total chunk outcome)
      (do return (← computation).response) := by
  subst houtcome
  rw [ends_bind]
  exact (h.imp fun _ hcollects => hcollects.gives).weaken fun _ => .inl

theorem ends_skip (h : cursor.Counted total chunk) (count : Nat) :
    Ends (Gives total chunk (Operation.perform (.skip count) cursor)) (Exceeds total chunk)
      (cursor.registers.skip count) := by
  rw [Registers.skip, ends_bind]
  refine (ends_skipFrom h count []).imp fun result hresult => ?_
  obtain ⟨hlength, hcollects⟩ := hresult
  cases hfailure : (cursor.take count).failure with
  | some error =>
      rw [← hcollects.failure_eq] at hfailure
      simp only [hfailure, ends_pure]
      refine ⟨_, ?_, hcollects.registers_eq, hcollects.counted⟩
      rw [Operation.perform, ← hcollects.failure_eq, hfailure, hcollects.bytes_eq, List.nil_append]
      rfl
  | none =>
      rw [← hcollects.failure_eq] at hfailure
      simp only [hfailure, sub, ends_bind, ends_check, ends_pure]
      refine ⟨fun _ => ?_, fun hleft => absurd (by omega) hleft⟩
      refine ⟨_, ?_, hcollects.registers_eq, hcollects.counted⟩
      have hcount : count - result.1 = (cursor.take count).bytes.length := by omega
      rw [Operation.perform, ← hcollects.failure_eq, hfailure, hcount]
      rfl

/-- Registers do what is asked as the cursor does. -/
theorem ends_perform (h : cursor.Counted total chunk) (operation : Operation) :
    Ends (Gives total chunk (operation.perform cursor))
      (Fails total chunk (operation.perform cursor)) (cursor.registers.perform operation) := by
  cases operation with
  | mark => exact ⟨cursor.mark, rfl, (registers_mark cursor).symm, h.mark⟩
  | clearMark => exact ⟨cursor.clearMark, rfl, rfl, h.clearMark⟩
  | rewind =>
      exact h.mirrors_rewind.gives (fun _ _ hok => by rw [Operation.perform, hok])
        fun _ _ herror => by rw [Operation.perform, herror]
  | skip count => exact (ends_skip h count).weaken fun _ => .inl
  | next =>
      exact ends_respond (ends_next h) (fun _ _ hok => by rw [Operation.perform, hok])
        fun _ _ herror => by rw [Operation.perform, herror]
  | read size =>
      exact ends_respond (ends_read h size) (fun _ _ hok => by rw [Operation.perform, hok])
        fun _ _ herror => by rw [Operation.perform, herror]
  | take count => exact ends_response (ends_takeFrom h count [] (Nat.zero_le _)) rfl
  | fill =>
      exact ends_respond (ends_fill h) (fun _ _ hok => by rw [Operation.perform, hok])
        fun _ _ herror => by rw [Operation.perform, herror]
  | consume count =>
      rw [Registers.perform, ends_bind]
      refine ends_consume (fun hword => ?_) fun hword => ?_
      · refine ⟨cursor.advance count, ?_, rfl, h.advance count⟩
        rw [Operation.perform, consume?, if_pos hword]
        rfl
      · refine .inr ⟨rfl, ?_⟩
        rw [Operation.perform, consume?, if_neg (Nat.not_le_of_lt hword)]
        rfl
  | takeThrough stop => exact ends_response (ends_takeThroughFrom h stop []) rfl

/-- Registers do what is asked as the cursor does, one operation after another. -/
theorem ends_run (h : cursor.Counted total chunk) (operations : List Operation) :
    Ends (Gives total chunk (cursor.run operations)) (Fails total chunk (cursor.run operations))
      (cursor.registers.run operations) := by
  induction operations generalizing cursor with
  | nil => exact ⟨cursor, rfl, rfl, h⟩
  | cons operation operations ih =>
      rw [Registers.run, ends_bind]
      refine ((ends_perform h operation).imp ?_).weaken ?_
      · rintro ⟨response, registers⟩ ⟨after, hperform, rfl, hcounted⟩
        rw [ends_bind]
        refine ((ih hcounted).imp ?_).weaken ?_
        · rintro ⟨responses, registers⟩ ⟨last, hrun, rfl, hlast⟩
          exact ⟨last, by simp only [run, hperform, hrun], rfl, hlast⟩
        · rintro breakdown (hexceeds | ⟨hoverflow, hrun⟩)
          · exact .inl hexceeds
          · exact .inr ⟨hoverflow, by simp only [run, hperform, hrun]⟩
      · rintro breakdown (hexceeds | ⟨hoverflow, hperform⟩)
        · exact .inl hexceeds
        · exact .inr ⟨hoverflow, by simp only [run, hperform]⟩

/-! ## Runs -/

/-- Registers stand for a cursor on a stream of `total` bytes. The mark is not after the place, nor
the place beyond the buffer, and consuming moves on by as many bytes as are asked for and held,
unless the place and the count together do not fit a word. -/
structure Stands (total : Nat) (cursor : Cursor) (registers : Registers) : Prop where
  registers_eq : registers = cursor.registers
  mark_le : ∀ mark ∈ registers.mark?, mark ≤ registers.place
  place_le : registers.place ≤ registers.buffer.length
  buffer_le : registers.buffer.length ≤ maxAllocation
  position_eq : total ≤ maxWord → registers.position = .ok cursor.position
  consume_eq : ∀ count, registers.place + count ≤ maxWord → registers.consume count =
    .ok { registers with
      place := registers.place + min count (registers.buffer.length - registers.place) }
  consume_overflow : ∀ count, maxWord < registers.place + count →
    registers.consume count = .error .overflow

theorem Counted.stands (h : cursor.Counted total chunk) : Stands total cursor cursor.registers := by
  have hconsumed := length_consumed cursor
  have htotal := h.total_le
  have hplace : cursor.consumed.length ≤ cursor.held.length := by
    rw [length_held]
    exact Nat.le_add_right _ _
  refine ⟨rfl, ?_, hplace, h.held_le, ?_, ?_, ?_⟩
  · simp only [registers, Option.mem_def, Option.map_eq_some_iff]
    rintro mark ⟨since, -, rfl⟩
    omega
  · intro hword
    have hadd : cursor.registers.base + cursor.registers.place = cursor.position := h.base_add
    rw [Registers.position, add, hadd, Breakdown.check, if_pos (by omega)]
  · intro count hword
    have hmin : min (cursor.registers.place + count) cursor.registers.buffer.length =
        cursor.registers.place +
          min count (cursor.registers.buffer.length - cursor.registers.place) := by
      change cursor.registers.place ≤ cursor.registers.buffer.length at hplace
      omega
    rw [Registers.consume, add, Breakdown.check, if_pos hword, ← hmin]
    rfl
  · intro count hword
    rw [Registers.consume, add, Breakdown.check, if_neg (Nat.not_le_of_lt hword)]
    rfl

/-- Where a run overflows on a stream that a word can count, it comes to a count that does not fit a
word together with the place where it is to be consumed. -/
theorem Counted.run_overflow {operations : List Operation} (h : cursor.Counted total chunk)
    (hrun : cursor.registers.run operations = .error .overflow) :
    maxWord < total ∨
      ∃ before count rest responses registers, operations = before ++ .consume count :: rest ∧
        cursor.registers.run before = .ok (responses, registers) ∧
        maxWord < registers.place + count := by
  have hends := ends_run h operations
  rw [hrun] at hends
  obtain hexceeds | ⟨-, hnone⟩ := hends
  · cases hexceeds with
    | overflow hword => exact .inl hword
  · obtain ⟨before, count, rest, responses, between, rfl, hbefore, hword⟩ := run_eq_none hnone
    -- The cursor gets to the count, and so do its registers if they do not break down before.
    have hends := ends_run h before
    cases hresult : cursor.registers.run before with
    | error breakdown =>
        have hsame := Registers.run_append_error hresult (.consume count :: rest)
        rw [hrun] at hsame
        cases hsame
        rw [hresult] at hends
        obtain hexceeds | ⟨-, hnone⟩ := hends
        · cases hexceeds with
          | overflow hword => exact .inl hword
        · rw [hbefore] at hnone
          contradiction
    | ok result =>
        obtain ⟨responses, registers⟩ := result
        rw [hresult] at hends
        obtain ⟨after, hafter, rfl, -⟩ := hends
        rw [hbefore] at hafter
        cases hafter
        exact .inr ⟨before, count, rest, responses, _, rfl, hresult, hword⟩

/-- Registers do whatever operations in a row do to a cursor, for every source, chunk and count, and
stand for it at each place that they come to. They never break down because a difference is negative
or a slice reaches beyond a buffer. Memory may run out if the stream and a chunk together are larger
than a buffer may be. A sum overflows only if the stream has more bytes than a word counts, or if
consuming adds a count to a place that together do not fit a word. -/
theorem run_registers (source : Source) (chunk : Nat) (operations : List Operation) :
    match Registers.ofSource source chunk >>= Registers.run operations with
    | .ok (responses, registers) =>
        ∃ cursor, (ofSource source chunk).run operations = some (responses, cursor) ∧
          Stands source.remaining cursor registers
    | .error .overflow => maxWord < source.remaining ∨
        ∃ before count rest responses registers, operations = before ++ .consume count :: rest ∧
          Registers.ofSource source chunk >>= Registers.run before = .ok (responses, registers) ∧
          maxWord < registers.place + count
    | .error .outOfMemory => maxAllocation < source.remaining + max chunk 1
    | .error .underflow => False
    | .error .outOfRange => False := by
  by_cases hroom : max chunk 1 ≤ maxAllocation
  · have hcounted := counted_ofSource source hroom
    have hends := ends_run hcounted operations
    have hstart : ∀ operations, Registers.ofSource source chunk >>= Registers.run operations =
        (ofSource source chunk).registers.run operations := by
      intro operations
      rw [Registers.ofSource, enlarge, Breakdown.check, if_pos hroom]
      rfl
    simp only [hstart]
    cases hrun : (ofSource source chunk).registers.run operations with
    | ok result =>
        rw [hrun] at hends
        obtain ⟨cursor, hresponses, hregisters, hafter⟩ := hends
        refine ⟨cursor, hresponses, ?_⟩
        rw [hregisters]
        exact hafter.stands
    | error breakdown =>
        rw [hrun] at hends
        obtain hexceeds | ⟨rfl, hnone⟩ := hends
        · cases hexceeds with
          | overflow hword => exact .inl hword
          | outOfMemory hmemory => exact hmemory
        · exact hcounted.run_overflow hrun
  · have hstart : Registers.ofSource source chunk = .error .outOfMemory := by
      rw [Registers.ofSource, enlarge, Breakdown.check, if_neg hroom]
      rfl
    rw [hstart]
    change maxAllocation < source.remaining + max chunk 1
    omega

/-- Consuming moves on over what is held only as long as the sum fits. After one byte of two, no
place is found for the largest count that a word holds. -/
theorem not_consume_moves :
    ¬∀ (source : Source) (chunk : Nat) (operations : List Operation) (responses : List Response)
        (cursor : Cursor) (count : Nat), count ≤ maxWord →
        (ofSource source chunk).run operations = some (responses, cursor) →
        ∃ after, cursor.consume? count = some after ∧
          after.position = cursor.position + min count cursor.ahead.length := by
  intro h
  have hstart : ∃ cursor, (ofSource (.ofBytes [97, 98]) 2).run [.next] =
      some ([.byte (some 97)], cursor) ∧ cursor.consumed.length = 1 := ⟨_, rfl, rfl⟩
  obtain ⟨cursor, hrun, hplace⟩ := hstart
  obtain ⟨after, hconsume, -⟩ := h _ _ _ _ cursor maxWord (Nat.le_refl maxWord) hrun
  have hnone : ¬1 + maxWord ≤ maxWord := by decide
  rw [consume?, hplace, if_neg hnone] at hconsume
  contradiction

end Multipart.Cursor
