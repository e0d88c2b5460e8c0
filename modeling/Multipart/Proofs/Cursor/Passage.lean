import Multipart.Proofs.Cursor.Script

/-! # What cursors pass

A cursor that reads on passes some moments of its script. This module says what one read of a source
and one read of a cursor pass, and that passages compose. -/

namespace Multipart

inductive Source.Serves (source : Source) (size : Nat) :
    EStateM.Result StreamError Source (List UInt8) → Prop
  | failure {error : StreamError} {rest : Source} :
      source.script = .failure error :: rest.script → rest.pulled = source.pulled →
      rest.portion = source.portion → Serves source size (.error error rest)
  | pause {rest : Source} :
      source.script = .pause :: rest.script → rest.pulled = source.pulled →
      rest.portion = source.portion → Serves source size (.ok [] rest)
  | bytes {bytes : List UInt8} {rest : Source} :
      source.script = bytes.map .byte ++ rest.script →
      rest.pulled = source.pulled + bytes.length → rest.portion = source.portion →
      (bytes = [] → source.script = [] ∨ source.allowance size = 0) →
      Serves source size (.ok bytes rest)

theorem Arrival.takeBytes_eq_nil {count : Nat} {arrivals : List Arrival}
    (h : (takeBytes count [] arrivals).1 = []) :
    count = 0 ∨ ∀ value rest, arrivals ≠ byte value :: rest := by
  cases count with
  | zero => exact .inl rfl
  | succ count =>
      refine .inr fun value rest hbyte => ?_
      rw [hbyte, takeBytes] at h
      obtain ⟨bytes, htaken, -, -⟩ := takeBytes_spec count [value] rest
      rw [htaken] at h
      simp at h

theorem Source.serves_read (source : Source) (size : Nat) :
    source.Serves size (source.read size) := by
  have hdrop := Arrival.flatMap_moments_dropWhile source.arrivals
  simp only [read]
  split
  · rename_i error more rest heq
    rw [heq, Arrival.flatMap_moments_failure] at hdrop
    exact .failure hdrop.symm rfl rfl
  · rename_i more rest heq
    rw [heq, Arrival.flatMap_moments_pause] at hdrop
    exact .pause hdrop.symm rfl rfl
  · rename_i arrivals hnofailure hnopause
    have hsplit := congrArg (List.flatMap Arrival.moments)
      (Arrival.takeBytes_append (source.allowance size)
        (source.arrivals.dropWhile Arrival.isInterruption))
    rw [List.flatMap_append, Arrival.flatMap_moments_map_byte, hdrop] at hsplit
    refine .bytes hsplit.symm rfl rfl fun hnil => ?_
    rcases Arrival.takeBytes_eq_nil hnil with hzero | hnobyte
    · exact .inr hzero
    · refine .inl ?_
      rw [script, ← hdrop]
      cases hfirst : source.arrivals.dropWhile Arrival.isInterruption with
      | nil => rfl
      | cons first rest =>
          have hkept := List.head?_dropWhile_not Arrival.isInterruption source.arrivals
          rw [hfirst] at hkept
          cases first with
          | byte value => exact absurd hfirst (hnobyte value rest)
          | fault kind more =>
              cases kind with
              | interruption => simp [Arrival.isInterruption] at hkept
              | pause => exact absurd hfirst (hnopause more rest)
              | failure error => exact absurd hfirst (hnofailure error more rest)

namespace Cursor

def upcoming (cursor : Cursor) : List Moment :=
  cursor.ahead.map .byte ++ cursor.source.script

/-- One cursor leads to another over some moments of its script. -/
structure Passes (cursor : Cursor) (passed : List Moment) (after : Cursor) : Prop where
  upcoming_eq : cursor.upcoming = passed ++ after.upcoming
  position_eq : after.position = cursor.position + (Moment.bytes passed).length
  pulled_eq : after.source.pulled + cursor.ahead.length =
    cursor.source.pulled + (Moment.bytes passed).length + after.ahead.length
  portion_eq : after.source.portion = cursor.source.portion

theorem Passes.refl (cursor : Cursor) : Passes cursor [] cursor :=
  ⟨rfl, rfl, by simp, rfl⟩

theorem Passes.trans {a b c : Cursor} {first second : List Moment} (hab : Passes a first b)
    (hbc : Passes b second c) : Passes a (first ++ second) c := by
  refine ⟨?_, ?_, ?_, hbc.portion_eq.trans hab.portion_eq⟩
  · rw [hab.upcoming_eq, hbc.upcoming_eq, List.append_assoc]
  · rw [hbc.position_eq, hab.position_eq, Moment.bytes_append, List.length_append, Nat.add_assoc]
  · have hfirst := hab.pulled_eq
    have hsecond := hbc.pulled_eq
    rw [Moment.bytes_append, List.length_append]
    omega

theorem Passes.generous {cursor after : Cursor} {passed : List Moment}
    (h : Passes cursor passed after) (hgenerous : cursor.source.Generous) :
    after.source.Generous := by
  intro offset
  rw [h.portion_eq]
  exact hgenerous offset

/-- The offset at which the bytes of the stream end does not move. -/
theorem Passes.position_add {cursor after : Cursor} {passed : List Moment}
    (h : Passes cursor passed after) :
    after.position + (Moment.bytes after.upcoming).length =
      cursor.position + (Moment.bytes cursor.upcoming).length := by
  rw [h.position_eq, h.upcoming_eq, Moment.bytes_append, List.length_append, Nat.add_assoc]

theorem passes_markBack (cursor : Cursor) (distance : Nat) :
    Passes cursor [] (cursor.markBack distance) :=
  ⟨rfl, rfl, by simp [markBack], rfl⟩

theorem passes_clearMark (cursor : Cursor) : Passes cursor [] cursor.clearMark :=
  ⟨rfl, rfl, by simp [clearMark], rfl⟩

theorem passes_pass {cursor : Cursor} {value : UInt8} {rest : List UInt8}
    (h : cursor.ahead = value :: rest) :
    Passes cursor [.byte value] (cursor.pass [value] rest) := by
  simp only [pass]
  split
  all_goals
    refine ⟨by simp [upcoming, h], rfl, ?_, rfl⟩
    simp only [h, List.length_cons, Moment.bytes_byte, List.length_nil]
    omega

inductive Fills (cursor : Cursor) : Answer Unit → Prop
  | full {filled : Cursor} : Passes cursor [] filled → filled.ahead ≠ [] →
      Fills cursor (.ok () filled)
  | pause {filled : Cursor} : Passes cursor [.pause] filled → filled.ahead = [] →
      Fills cursor (.ok () filled)
  | ended {filled : Cursor} : Passes cursor [] filled → filled.ahead = [] →
      cursor.upcoming = [] ∨ cursor.source.portion cursor.source.pulled = some 0 →
      Fills cursor (.ok () filled)
  | failure {error : StreamError} {failed : Cursor} :
      Passes cursor [.failure error] failed → Fills cursor (.error error failed)

theorem fills_fill (cursor : Cursor) : Fills cursor cursor.fill := by
  simp only [fill]
  by_cases hahead : cursor.ahead = []
  · have hserves := cursor.source.serves_read cursor.chunk
    simp only [hahead, List.isEmpty_nil, ite_true]
    cases hread : cursor.source.read cursor.chunk with
    | error error source =>
        rw [hread] at hserves
        cases hserves with
        | failure hscript hpulled hportion =>
            exact .failure ⟨by simpa [upcoming, hahead] using hscript, rfl,
              by simp [hahead, hpulled], hportion⟩
    | ok bytes source =>
        rw [hread] at hserves
        cases hserves with
        | pause hscript hpulled hportion =>
            exact .pause ⟨by simpa [upcoming, hahead] using hscript, rfl,
              by simp [hahead, hpulled], hportion⟩ rfl
        | bytes hscript hpulled hportion hnil =>
            have hpasses : Passes cursor [] { cursor with source, spent := [], ahead := bytes } :=
              ⟨by simpa [upcoming, hahead] using hscript, rfl, by simp [hahead, hpulled], hportion⟩
            by_cases hbytes : bytes = []
            · refine .ended hpasses hbytes ?_
              refine (hnil hbytes).imp (fun hscript => ?_)
                (Source.allowance_eq_zero cursor.chunk_pos)
              simpa [upcoming, hahead] using hscript
            · exact .full hpasses hbytes
  · simp only [List.isEmpty_iff, hahead, ite_false]
    exact .full (.refl cursor) hahead

inductive Nexts (cursor : Cursor) : Answer (Option UInt8) → Prop
  | byte {value : UInt8} {after : Cursor} : Passes cursor [.byte value] after →
      Nexts cursor (.ok (some value) after)
  | pause {after : Cursor} : Passes cursor [.pause] after → after.ahead = [] →
      Nexts cursor (.ok none after)
  | ended {after : Cursor} : Passes cursor [] after → after.ahead = [] →
      cursor.upcoming = [] ∨ cursor.source.portion cursor.source.pulled = some 0 →
      Nexts cursor (.ok none after)
  | failure {error : StreamError} {after : Cursor} : Passes cursor [.failure error] after →
      Nexts cursor (.error error after)

theorem nexts_next (cursor : Cursor) : Nexts cursor cursor.next := by
  have hfills := fills_fill cursor
  simp only [next]
  cases hfill : cursor.fill with
  | error error failed =>
      rw [hfill] at hfills
      cases hfills with
      | failure hpasses => exact .failure hpasses
  | ok _ filled =>
      rw [hfill] at hfills
      simp only
      cases hahead : filled.ahead with
      | nil =>
          cases hfills with
          | full hpasses hne => exact absurd hahead hne
          | pause hpasses hnil => exact .pause hpasses hnil
          | ended hpasses hnil hend => exact .ended hpasses hnil hend
      | cons value rest =>
          cases hfills with
          | full hpasses hne => exact .byte (hpasses.trans (passes_pass hahead))
          | pause hpasses hnil => simp [hahead] at hnil
          | ended hpasses hnil hend => simp [hahead] at hnil

/-- A read that answers the end has no byte in the buffer and delivers none. -/
theorem passes_of_next_none {cursor after : Cursor} (h : cursor.next = .ok none after) :
    cursor.ahead = [] ∧ after.ahead = [] ∧
      ∃ idle, Moment.bytes idle = [] ∧ Passes cursor idle after := by
  have hnexts := nexts_next cursor
  rw [h] at hnexts
  have hafter : after.ahead = [] ∧ ∃ idle, Moment.bytes idle = [] ∧ Passes cursor idle after := by
    cases hnexts with
    | pause hpasses hafter => exact ⟨hafter, _, Moment.bytes_pause, hpasses⟩
    | ended hpasses hafter _ => exact ⟨hafter, _, Moment.bytes_nil, hpasses⟩
  refine ⟨?_, hafter⟩
  cases hahead : cursor.ahead with
  | nil => rfl
  | cons value rest => simp [next, fill, hahead] at h

theorem passes_next (cursor : Cursor) :
    ∃ passed, Passes cursor passed (Result.state cursor.next) := by
  have hnexts := nexts_next cursor
  generalize cursor.next = result at hnexts ⊢
  cases hnexts with
  | byte hpasses => exact ⟨_, hpasses⟩
  | pause hpasses _ => exact ⟨_, hpasses⟩
  | ended hpasses _ _ => exact ⟨_, hpasses⟩
  | failure hpasses => exact ⟨_, hpasses⟩

/-- A cursor reads what its script says, unless it asks for a byte where none is handed out. -/
theorem next_eq_serve_of_portion {cursor : Cursor}
    (h : cursor.ahead = [] → cursor.source.portion cursor.source.pulled ≠ some 0) :
    Result.answer cursor.next = Result.answer (Moment.serve cursor.upcoming) ∧
      (Result.state cursor.next).upcoming = Result.state (Moment.serve cursor.upcoming) ∧
      Passes cursor (cursor.upcoming.take 1) (Result.state cursor.next) := by
  have hnexts := nexts_next cursor
  cases hnext : cursor.next with
  | error error after =>
      rw [hnext] at hnexts
      cases hnexts with
      | failure hpasses =>
          rw [hpasses.upcoming_eq]
          exact ⟨rfl, rfl, hpasses⟩
  | ok value after =>
      rw [hnext] at hnexts
      cases hnexts with
      | byte hpasses =>
          rw [hpasses.upcoming_eq]
          exact ⟨rfl, rfl, hpasses⟩
      | pause hpasses _ =>
          rw [hpasses.upcoming_eq]
          exact ⟨rfl, rfl, hpasses⟩
      | ended hpasses _ hend =>
          have hupcoming := hend.resolve_right (h (passes_of_next_none hnext).1)
          have hafter := hpasses.upcoming_eq
          rw [hupcoming, List.nil_append] at hafter
          rw [hupcoming]
          exact ⟨rfl, hafter.symm, hpasses⟩

/-- A cursor on a generous source reads what its script says. -/
theorem next_eq_serve {cursor : Cursor} (h : cursor.source.Generous) :
    Result.answer cursor.next = Result.answer (Moment.serve cursor.upcoming) ∧
      (Result.state cursor.next).upcoming = Result.state (Moment.serve cursor.upcoming) ∧
      (Result.state cursor.next).source.Generous := by
  obtain ⟨hanswer, hupcoming, hpasses⟩ := next_eq_serve_of_portion fun _ => h _
  exact ⟨hanswer, hupcoming, hpasses.generous h⟩

end Cursor

end Multipart
