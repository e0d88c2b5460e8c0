import Multipart.Proofs.Decoder.Run

/-! # Failures

A query that fails leaves what the extractions before the failing one have filed, and nothing of the
part that could not be read. From then on a decoder stays as it is: it answers from what is filed
and refuses all else. -/

namespace Multipart.Decoder

variable {fresh decoder state failed : Decoder} {error : Error} {parts : List Part}

/-! ## The extraction that fails -/

/-- The next extraction fails, and leaves all that is filed as it was. -/
structure FailsWith (decoder : Decoder) (error : Error) (failed : Decoder) : Prop where
  isOpen : decoder.phase.isOpen
  advance_eq : decoder.advance = .error error failed
  root_eq : failed.root = decoder.root
  attachments_eq : failed.attachments = decoder.attachments
  count_eq : failed.count = decoder.count

theorem failsWith_of_advance (hopen : decoder.phase.isOpen)
    (h : decoder.advance = .error error failed) : decoder.FailsWith error failed := by
  obtain ⟨cursor, log, hsame⟩ := advance_error_readsOn h
  refine ⟨hopen, h, ?_, ?_, ?_⟩
  · rw [hsame]
  · rw [hsame]
  · rw [hsame]

/-- The parts of the extractions that have succeeded up to a decoder, which is where the last of
them has led to, or where the next one has failed. -/
def HasRead (fresh decoder : Decoder) (parts : List Part) : Prop :=
  ∃ state, fresh.extractions parts.length = some (parts, state) ∧
    (decoder = state ∨ ∃ error, state.FailsWith error decoder)

theorem hasRead_after (fresh : Decoder) (queries : List Query) :
    ∃ parts, HasRead fresh (fresh.after queries) parts := by
  cases reached_after fresh queries with
  | @extracted n parts decoder hn =>
      have hlength := (length_extractions hn).1
      exact ⟨parts, fresh.after queries, hlength.symm ▸ hn, .inl rfl⟩
  | @failed n parts decoder _ error hn hopen hfailed =>
      have hlength := (length_extractions hn).1
      exact ⟨parts, decoder, hlength.symm ▸ hn, .inr ⟨error, failsWith_of_advance hopen hfailed⟩⟩

theorem HasRead.count_eq (h : HasRead fresh decoder parts) :
    decoder.count = fresh.count + parts.length := by
  obtain ⟨state, hstate, hdecoder⟩ := h
  have hcount := (length_extractions hstate).2
  rcases hdecoder with rfl | ⟨error, hfails⟩
  · exact hcount
  · rw [hfails.count_eq, hcount]

/-! ## After a failure -/

/-- A decoder that has failed: no query reads or changes anything, and each finds what is filed or
is refused. -/
structure Final (decoder : Decoder) : Prop where
  phase_eq : decoder.phase = .failed
  after_eq : ∀ queries, decoder.after queries = decoder
  rootPart_eq : decoder.rootPart =
    match decoder.root with
    | some root => .ok (some root) decoder
    | none => .error .unusable decoder
  attachmentPart_eq : ∀ id, decoder.attachmentPart id =
    match decoder.attachments.get? id with
    | some part => .ok (some part) decoder
    | none => .error .unusable decoder
  attachmentParts_eq : decoder.attachmentParts = .error .unusable decoder

theorem after_of_failed (hphase : decoder.phase = .failed) (queries : List Query) :
    decoder.after queries = decoder := by
  induction queries with
  | nil => rfl
  | cons query queries ih =>
      rw [Decoder.after, state_ask, state_advanceUntil_of_failed query.isSettled hphase]
      exact ih

/-- What settles a query is there already, or the query is refused. -/
theorem advanceUntil_of_phase_failed (hphase : decoder.phase = .failed)
    (condition : Decoder → Bool) :
    decoder.advanceUntil condition =
      if condition decoder then .ok () decoder else .error .unusable decoder := by
  cases hcondition : condition decoder with
  | true => exact advanceUntil_of_stopsAt (by simp [stopsAt, hcondition])
  | false => exact advanceUntil_of_failed hcondition hphase

theorem final_of_failed (hphase : decoder.phase = .failed) : decoder.Final := by
  refine ⟨hphase, after_of_failed hphase, ?_, ?_, ?_⟩
  · rw [rootPart, advanceUntil_of_phase_failed hphase]
    cases hroot : decoder.root <;> simp [hroot]
  · intro id
    rw [attachmentPart, advanceUntil_of_phase_failed hphase]
    cases hpart : decoder.attachments.get? id <;> simp [Table.contains, hpart]
  · rw [attachmentParts, advanceUntil_of_phase_failed hphase]
    rfl

/-! ## The query that fails -/

/-- What a query leaves that is put to a decoder of a run and fails. -/
structure Halts (fresh decoder : Decoder) (error : Error) (failed : Decoder) : Prop where
  /-- All that is filed has been filed by the extractions that have succeeded, of which there are as
  many as parts are counted. The one after them has failed. -/
  kept : ∃ parts state failure, fresh.extractions failed.count = some (parts, state) ∧
    state.FailsWith failure failed
  /-- The extractions of the query itself are the last of them. It has failed with the one after
  them, unless it is refused because an earlier query has failed. -/
  own : (∃ n parts state, decoder.extractions n = some (parts, state) ∧
      state.FailsWith error failed) ∨
    decoder.phase = .failed ∧ error = .unusable ∧ failed = decoder
  final : failed.Final

theorem phase_ne_failed_of_extractions {n : Nat} (hfresh : fresh.phase ≠ .failed)
    (h : fresh.extractions n = some (parts, state)) : state.phase ≠ .failed := by
  cases n with
  | zero =>
      obtain ⟨-, rfl⟩ := extractions_zero.mp h
      exact hfresh
  | succ n =>
      obtain ⟨_, _, _, -, hlast, -⟩ := extractions_succ.mp h
      exact (phase_of_nextPart? hlast).1

theorem eq_of_extractions_of_failed {n : Nat} (hphase : decoder.phase = .failed)
    (h : decoder.extractions n = some (parts, state)) : state = decoder := by
  cases n with
  | zero => exact (extractions_zero.mp h).2
  | succ n =>
      obtain ⟨_, _, _, hfirst, -⟩ := extractions_succ_front.mp h
      have hopen := (nextPart?_eq_some_iff.mp hfirst).1
      simp [hphase, Phase.isOpen] at hopen

theorem ask_error_iff {query : Query} : query.ask decoder = .error error failed ↔
    decoder.advanceUntil query.isSettled = .error error failed := by
  rw [query.ask_eq]
  cases decoder.advanceUntil query.isSettled <;> simp

/-- Wherever a query is put, its failure is that of the next extraction that succeeds no more. -/
theorem HasRead.halts (hcount : fresh.count = 0) (hfresh : fresh.phase ≠ .failed)
    (h : HasRead fresh decoder parts) {query : Query}
    (hask : query.ask decoder = .error error failed) : Halts fresh decoder error failed := by
  have hread := h.count_eq
  rw [hcount, Nat.zero_add] at hread
  obtain ⟨state, hstate, hdecoder⟩ := h
  rcases advanceUntil_error (ask_error_iff.mp hask) with
    ⟨n, later, last, hlater, hopen, hadvance⟩ | ⟨rfl, rfl, hphase⟩
  · have hfails := failsWith_of_advance hopen hadvance
    have hown : decoder = state := by
      rcases hdecoder with hsame | ⟨failure, hbefore⟩
      · exact hsame
      · have hphase := phase_of_advance_error hbefore.advance_eq
        rw [eq_of_extractions_of_failed hphase hlater, hphase] at hopen
        cases hopen
    subst hown
    have hall := extractions_add.mpr ⟨parts, decoder, later, hstate, hlater, rfl⟩
    have hlast := (length_extractions hall).2
    rw [hcount, Nat.zero_add] at hlast
    refine ⟨⟨parts ++ later, last, error, ?_, hfails⟩, .inl ⟨n, later, last, hlater, hfails⟩,
      final_of_failed (phase_of_advance_error hadvance)⟩
    rw [hfails.count_eq, hlast]
    exact hall
  · refine ⟨?_, .inr ⟨hphase, rfl, rfl⟩, final_of_failed hphase⟩
    rcases hdecoder with rfl | ⟨failure, hfails⟩
    · exact absurd hphase (phase_ne_failed_of_extractions hfresh hstate)
    · exact ⟨parts, state, failure, hread ▸ hstate, hfails⟩

/-- A query of a run that fails keeps what was filed before the extraction that has failed, its own
extractions included, and whatever is asked afterwards finds just that. -/
theorem failed_query_halts {source : Source} {text : String} {settings : Settings}
    {fresh : Decoder} (hnew : ofSource source text settings = .ok fresh) {queries : List Query}
    {query : Query} {error : Error} {failed : Decoder}
    (hask : query.ask (fresh.after queries) = .error error failed) :
    Halts fresh (fresh.after queries) error failed := by
  have hunread := unread_ofSource hnew
  obtain ⟨parts, hread⟩ := hasRead_after fresh queries
  have hfresh : fresh.phase ≠ .failed := by
    rw [hunread.phase_eq]
    decide
  exact hread.halts hunread.count_eq hfresh hask

/-- A root and two attachments, and a failure in the header block after them. -/
def brokenOff : Source :=
  .ofPlan (Text.Utf8.encode
    "--B\n\nr\n--B\nContent-Id: a\n\na\n--B\nContent-Id: b\n\nb\n--B\nContent".toList)
    [⟨55, .failure (.device .timedOut "timed out"), 1⟩] none

theorem failed_query_halts_broken_off :
    ∃ fresh failed, ofSource brokenOff "multipart/mixed; boundary=B" = .ok fresh ∧
      Query.attachments.ask (fresh.after [.root]) =
        .error (.stream (.device .timedOut "timed out")) failed ∧
      failed.count = 3 ∧
      Halts fresh (fresh.after [.root]) (.stream (.device .timedOut "timed out")) failed := by
  obtain ⟨fresh, hnew, hcheck⟩ := exists_of_any brokenOff "multipart/mixed; boundary=B" {}
    (fun fresh =>
      match Query.attachments.ask (fresh.after [.root]) with
      | .error error failed => error = .stream (.device .timedOut "timed out") ∧ failed.count = 3
      | .ok _ _ => false) (by decide +kernel)
  cases hask : Query.attachments.ask (fresh.after [.root]) with
  | ok reply after => simp [hask] at hcheck
  | error error failed =>
      rw [hask] at hcheck
      obtain ⟨rfl, hcount⟩ := of_decide_eq_true hcheck
      exact ⟨fresh, failed, hnew, hask, hcount, failed_query_halts hnew hask⟩

end Multipart.Decoder
