import Mathlib.Logic.Relation
import Multipart.Proofs.Decoder.Bisimulation
import Multipart.Proofs.Decoder.Slices
import Multipart.Proofs.Scan.Line

/-! # Progress

A decoder only moves forward: through its phases, over the stream and from part to part. A part
that another one follows takes up at least a delimiter and a byte of its line, so the extractions of
a run are no more than the stream has room for. -/

namespace Multipart

inductive Phase.Step : Phase → Phase → Prop
  | start : Step .fresh .scanning
  | close : Step .scanning .closed
  | exhaust : Step .scanning .exhausted
  | fail {phase : Phase} : phase.isOpen → Step phase .failed

def Outcome.phase : Outcome → Phase
  | found .opening => .scanning
  | found .closing => .closed
  | ended _ => .exhausted

theorem Outcome.eq_opening_of_isOpen {outcome : Outcome} (h : outcome.phase.isOpen) :
    outcome = .found .opening := by
  cases outcome with
  | ended place => cases h
  | found kind =>
      cases kind with
      | opening => rfl
      | closing => cases h

namespace Decoder

open Relation (ReflTransGen)

variable {decoder started after : Decoder} {part : Part}

/-! ## One part -/

/-- A part is a header block and the body that follows it. -/
theorem readPart_ok_iff {phase : Phase} :
    decoder.readPart = .ok (part, phase) after ↔
      ∃ headers between, decoder.readHeaders = .ok headers between ∧
        part = ⟨headers, part.data, between.position⟩ ∧
        between.readBody between.position = .ok (part.data, phase) after := by
  constructor
  · intro h
    simp only [readPart] at h
    split at h
    · cases h
    · rename_i headers between hheaders
      split at h
      · cases h
      · rename_i hbody
        cases h
        exact ⟨headers, between, hheaders, rfl, hbody⟩
  · rintro ⟨headers, between, hheaders, hpart, hbody⟩
    simp only [readPart, hheaders, hbody]
    rw [← hpart]

/-- A body that is read ends where the scan for the next delimiter ends. -/
theorem readBody_eq_ok {offset : Nat} {data : List UInt8} {phase : Phase}
    (h : decoder.readBody offset = .ok (data, phase) after) :
    ∃ outcome, (Scan.find decoder.delimiter decoder.cursor
        (some (Body.empty decoder.settings.maxPartSize))).outcome = .ok outcome ∧
      outcome.phase = phase ∧
      after.cursor = (Scan.find decoder.delimiter decoder.cursor
        (some (Body.empty decoder.settings.maxPartSize))).cursor := by
  simp only [readBody] at h
  split at h
  · cases h
  · rename_i hscan
    obtain ⟨hfind, -, hcursor⟩ := scan_ok hscan
    split at h
    · cases h
      exact ⟨_, hfind, rfl, hcursor⟩
    · cases h
      exact ⟨_, hfind, rfl, hcursor⟩
    · split at h
      · cases h
      · rename_i hend
        cases h
        obtain ⟨rfl, -⟩ := endWithStream_phase hend
        exact ⟨_, hfind, rfl, (endWithStream_cursor hend).trans hcursor⟩

/-! ## One extraction -/

structure Moves (before after : Decoder) : Prop where
  phases : ReflTransGen Phase.Step before.phase after.phase
  /-- The end of the stream is the end of the parts only where that is allowed. -/
  allowed : after.phase = .exhausted →
    before.phase = .exhausted ∨ before.settings.allowUnterminatedFinalPart
  leads : Cursor.Leads before.cursor after.cursor
  count_le : before.count ≤ after.count
  delimiter_eq : after.delimiter = before.delimiter
  settings_eq : after.settings = before.settings

theorem Moves.refl (decoder : Decoder) : Moves decoder decoder :=
  ⟨.refl, .inl, .refl decoder.cursor, Nat.le_refl _, rfl, rfl⟩

theorem Moves.trans {a b c : Decoder} (hab : Moves a b) (hbc : Moves b c) : Moves a c := by
  refine ⟨hab.phases.trans hbc.phases, fun hc => ?_, hab.leads.trans hbc.leads,
    Nat.le_trans hab.count_le hbc.count_le, hbc.delimiter_eq.trans hab.delimiter_eq,
    hbc.settings_eq.trans hab.settings_eq⟩
  rcases hbc.allowed hc with hb | hallowed
  · exact hab.allowed hb
  · exact .inr (hab.settings_eq ▸ hallowed)

theorem Moves.position_le {before : Decoder} (h : Moves before after) :
    before.position ≤ after.position := by
  obtain ⟨passed, hpasses⟩ := h.leads
  have hposition := hpasses.position_eq
  simp only [position]
  omega

theorem phases_of_nextPart? (h : decoder.nextPart? = some (part, after)) :
    ReflTransGen Phase.Step decoder.phase after.phase := by
  have hopen := (nextPart?_eq_some_iff.mp h).1
  have hstart : ReflTransGen Phase.Step decoder.phase .scanning := by
    cases hphase : decoder.phase with
    | fresh => exact .single .start
    | scanning => exact .refl
    | closed | exhausted | failed => simp [hphase, Phase.isOpen] at hopen
  refine hstart.trans ?_
  rcases (nextPart?_files h).2 with hscanning | hdone
  · rw [hscanning]
  · cases hphase : after.phase with
    | closed => exact .single .close
    | exhausted => exact .single .exhaust
    | fresh | scanning | failed => simp [hphase, Phase.isDone] at hdone

/-- An extraction moves on, whether it succeeds or not. -/
theorem moves_advance (hopen : decoder.phase.isOpen) :
    Moves decoder (Result.state decoder.advance) := by
  have hleads := leads_advance decoder
  cases hadvance : decoder.advance with
  | ok _ after =>
      rw [hadvance] at hleads
      obtain ⟨part, hpart⟩ := (advance_eq_ok_iff hopen).mp hadvance
      have hallowed := (reads_of_nextPart? hpart).1
      have hcount := count_of_nextPart? hpart
      obtain ⟨hdelimiter, hsettings, -⟩ := setting_of_nextPart? hpart
      exact ⟨phases_of_nextPart? hpart, fun hphase => .inr (hallowed hphase), hleads,
        hcount ▸ Nat.le_succ _, hdelimiter, hsettings⟩
  | error error after =>
      rw [hadvance] at hleads
      obtain ⟨cursor, log, rfl⟩ := advance_error_readsOn hadvance
      exact ⟨.single (.fail hopen), nofun, hleads, Nat.le_refl _, rfl, rfl⟩

/-! ## The room that a part takes up -/

theorem position_find {delimiter : Delimiter} {cursor : Cursor} {body : Option Body}
    (h : (Scan.find delimiter cursor body).outcome = .ok (.found .opening)) :
    cursor.position + (delimiter.length + 1) ≤
      (Scan.find delimiter cursor body).cursor.position := by
  obtain ⟨front, line, hline, hreads⟩ := Scan.find_opening h
  have hposition := hreads.position_eq
  have hpos := hline.length_pos
  rw [List.length_append, List.length_append, Delimiter.length_bytes] at hposition
  omega

/-- The first delimiter and its line come before the first part. -/
theorem position_start (hphase : decoder.phase = .fresh) (h : decoder.start = .ok () started) :
    decoder.position + (decoder.delimiter.length + 1) ≤ started.position := by
  simp only [start, hphase] at h
  split at h
  · cases h
  · rename_i skipped hskip
    cases h
    simp only [skipPreamble] at hskip
    split at hskip
    · cases hskip
    · rename_i hscan
      cases hskip
      obtain ⟨hfind, -, hcursor⟩ := scan_ok hscan
      have hposition := position_find hfind
      rw [← hcursor] at hposition
      exact hposition
    · cases hskip
    · cases hskip

/-- A part that another one follows ends with a delimiter and its line. -/
theorem position_readPart (h : decoder.readPart = .ok (part, .scanning) after) :
    decoder.position + (decoder.delimiter.length + 1) ≤ after.position := by
  obtain ⟨headers, between, hheaders, -, hbody⟩ := readPart_ok_iff.mp h
  obtain ⟨outcome, hfind, hphase, hcursor⟩ := readBody_eq_ok hbody
  have hleads := leads_readHeaders decoder
  have hsame := readHeaders_readsOn decoder
  rw [hheaders] at hleads hsame
  obtain ⟨passed, hpasses⟩ := hleads
  obtain ⟨cursor, log, rfl⟩ := hsame
  have hopens : outcome.phase.isOpen := by rw [hphase]; rfl
  rw [Outcome.eq_opening_of_isOpen hopens] at hfind
  have hposition := hpasses.position_eq
  have hmoved := position_find hfind
  rw [← hcursor] at hmoved
  simp only [position, Result.state_ok] at hposition hmoved ⊢
  omega

/-- A decoder has come as far as the delimiters take up that it has read. -/
structure Paced (decoder : Decoder) : Prop where
  fresh_count : decoder.phase = .fresh → decoder.count = 0
  scanning_le : decoder.phase = .scanning →
    (decoder.count + 1) * (decoder.delimiter.length + 1) ≤ decoder.position

/-- Where the next part starts there is a delimiter for each part so far and one before them. -/
theorem Paced.start (h : decoder.Paced) (hopen : decoder.phase.isOpen)
    (hstart : decoder.start = .ok () started) :
    (decoder.count + 1) * (decoder.delimiter.length + 1) ≤ started.position := by
  cases hphase : decoder.phase with
  | fresh =>
      have hmoved := position_start hphase hstart
      rw [h.fresh_count hphase]
      omega
  | scanning =>
      simp only [Decoder.start, hphase] at hstart
      cases hstart
      exact h.scanning_le hphase
  | closed | exhausted | failed => simp [hphase, Phase.isOpen] at hopen

theorem Paced.nextPart? (h : decoder.Paced) (hpart : decoder.nextPart? = some (part, after)) :
    after.Paced := by
  refine ⟨fun hphase => absurd hphase (phase_of_nextPart? hpart).2, fun hphase => ?_⟩
  rw [count_of_nextPart? hpart, (setting_of_nextPart? hpart).1]
  obtain ⟨hopen, started, phase, read, hstart, hread, rfl⟩ := nextPart?_eq_some_iff.mp hpart
  obtain ⟨_, _, hsame⟩ := (start_readsOn hstart).1
  have hdelimiter : started.delimiter = decoder.delimiter := by rw [hsame]
  have hscanning : phase = .scanning := hphase
  have hmoved := position_readPart (hscanning ▸ hread)
  have hstarted := h.start hopen hstart
  rw [hdelimiter] at hmoved
  rw [position, cursor_keep, Nat.add_mul _ 1, Nat.one_mul]
  exact Nat.le_trans (Nat.add_le_add_right hstarted _) hmoved

theorem Paced.advance (h : decoder.Paced) (hopen : decoder.phase.isOpen) :
    (Result.state decoder.advance).Paced := by
  cases hadvance : decoder.advance with
  | error error after =>
      have hphase := phase_of_advance_error hadvance
      exact ⟨by simp [hphase], by simp [hphase]⟩
  | ok _ after =>
      obtain ⟨part, hpart⟩ := (advance_eq_ok_iff hopen).mp hadvance
      exact h.nextPart? hpart

/-! ## Extractions that are tried -/

/-- So many extractions are tried one after another, each while parts may follow. One that fails is
the last. -/
inductive Tries (start : Decoder) : Nat → Decoder → Prop
  | none : Tries start 0 start
  | next {n : Nat} {decoder : Decoder} : Tries start n decoder → decoder.phase.isOpen →
      Tries start (n + 1) (Result.state decoder.advance)

variable {fresh : Decoder} {m n : Nat}

theorem Tries.trans (h : Tries fresh m decoder) (hafter : Tries decoder n after) :
    Tries fresh (m + n) after := by
  induction hafter with
  | none => exact h
  | next _ hopen ih => exact ih.next hopen

theorem Tries.moves (h : Tries fresh n after) : Moves fresh after := by
  induction h with
  | none => exact .refl fresh
  | next _ hopen ih => exact ih.trans (moves_advance hopen)

theorem Tries.paced (h : Tries fresh n after) (hfresh : fresh.Paced) : after.Paced := by
  induction h with
  | none => exact hfresh
  | next _ hopen ih => exact ih.advance hopen

/-- A query tries extractions, and does nothing else. -/
theorem tries_advanceUntil (condition : Decoder → Bool) (decoder : Decoder) :
    ∃ n, Tries decoder n (Result.state (decoder.advanceUntil condition)) := by
  induction decoder using advanceUntil_induction condition with
  | stop decoder hstop =>
      rw [advanceUntil_of_stopsAt hstop]
      exact ⟨0, .none⟩
  | unusable decoder hcondition hphase =>
      rw [advanceUntil_of_failed hcondition hphase]
      exact ⟨0, .none⟩
  | failure decoder error after hcondition hopen hadvance =>
      rw [advanceUntil_of_isOpen hcondition hopen, hadvance]
      have hnext := Tries.none.next hopen
      rw [hadvance] at hnext
      exact ⟨1, hnext⟩
  | step decoder part after hcondition hopen hpart ih =>
      rw [advanceUntil_of_nextPart? hcondition hpart]
      obtain ⟨n, hn⟩ := ih
      have hnext := Tries.none.next hopen
      rw [(advance_eq_ok_iff hopen).mpr ⟨part, hpart⟩] at hnext
      exact ⟨1 + n, hnext.trans hn⟩

theorem tries_after (decoder : Decoder) (queries : List Query) :
    ∃ n, Tries decoder n (decoder.after queries) := by
  induction queries generalizing decoder with
  | nil => exact ⟨0, .none⟩
  | cons query queries ih =>
      obtain ⟨m, hm⟩ := tries_advanceUntil query.isSettled decoder
      rw [← state_ask] at hm
      obtain ⟨n, hn⟩ := ih (Result.state (query.ask decoder))
      exact ⟨m + n, hm.trans hn⟩

/-- Each extraction up to one after which parts may follow has read a part. -/
theorem Tries.count_eq (h : Tries fresh n after) (hopen : after.phase.isOpen) :
    after.count = fresh.count + n := by
  induction h with
  | none => rfl
  | @next n decoder _ hbefore ih =>
      cases hadvance : decoder.advance with
      | error error failed =>
          rw [hadvance, Result.state_error, phase_of_advance_error hadvance] at hopen
          cases hopen
      | ok _ read =>
          obtain ⟨part, hpart⟩ := (advance_eq_ok_iff hbefore).mp hadvance
          rw [Result.state_ok, count_of_nextPart? hpart, ih hbefore, Nat.add_assoc]

/-- There are no more extractions than delimiters have room in the stream, and one. -/
theorem Tries.le_room (h : Tries fresh n after) (hcount : fresh.count = 0)
    (hpaced : fresh.Paced) {length : Nat}
    (hlength : fresh.position + (Moment.bytes fresh.cursor.upcoming).length ≤ length) :
    n ≤ length / (fresh.delimiter.length + 1) + 1 := by
  cases h with
  | none => exact Nat.zero_le _
  | @next n decoder hbefore hopen =>
      have hn := hbefore.count_eq hopen
      have hmoves := hbefore.moves
      rw [hcount, Nat.zero_add] at hn
      refine Nat.succ_le_succ ?_
      cases hphase : decoder.phase with
      | fresh =>
          have hzero := (hbefore.paced hpaced).fresh_count hphase
          rw [← hn, hzero]
          exact Nat.zero_le _
      | scanning =>
          have hscanning := (hbefore.paced hpaced).scanning_le hphase
          obtain ⟨passed, hpasses⟩ := hmoves.leads
          have hend := hpasses.position_add
          rw [hn, hmoves.delimiter_eq] at hscanning
          rw [Nat.le_div_iff_mul_le (Nat.add_one_pos _)]
          have hless : n * (fresh.delimiter.length + 1) ≤ (n + 1) * (fresh.delimiter.length + 1) :=
            Nat.mul_le_mul_right _ (Nat.le_succ n)
          simp only [position] at hscanning hlength
          omega
      | closed | exhausted | failed => simp [hphase, Phase.isOpen] at hopen

theorem Unread.paced {source : Source} {settings : Settings} (h : Unread source settings fresh) :
    fresh.Paced :=
  ⟨fun _ => h.count_eq, fun hphase => by simp [h.phase_eq] at hphase⟩

/-- What a query of a run does to the progress of a decoder. -/
structure Progresses (source : Source) (fresh before after : Decoder) : Prop where
  /-- The phases follow one another, several of them within one query if need be. -/
  phases : ReflTransGen Phase.Step before.phase after.phase
  /-- Once no part may follow, nothing changes any more. -/
  stays : ¬before.phase.isOpen → after = before
  allowed : after.phase = .exhausted → fresh.settings.allowUnterminatedFinalPart
  position_le : before.position ≤ after.position
  count_le : before.count ≤ after.count
  scanning_le : after.phase = .scanning →
    (after.count + 1) * (fresh.delimiter.length + 1) ≤ after.position
  /-- The extractions that the query tries and those that were tried before it are bounded. -/
  tries_le : ∃ earlier own, Tries fresh earlier before ∧ Tries before own after ∧
    earlier + own ≤
      (Moment.bytes source.script).length / (fresh.delimiter.length + 1) + 1

theorem state_ask_of_not_isOpen (h : ¬decoder.phase.isOpen) (query : Query) :
    Result.state (query.ask decoder) = decoder := by
  rw [state_ask]
  by_cases hfailed : decoder.phase = .failed
  · exact state_advanceUntil_of_failed query.isSettled hfailed
  · have hdone : decoder.isDone := by
      cases hphase : decoder.phase <;> simp_all [Phase.isOpen, isDone, Phase.isDone]
    rw [advanceUntil_of_stopsAt (by simp [stopsAt, hdone]), Result.state_ok]

/-- Whatever the stream sends and whatever is asked, a run only moves forward, and tries no more
extractions than the stream has room for. -/
theorem run_progresses {source : Source} {text : String} {settings : Settings}
    (hnew : ofSource source text settings = .ok fresh) (queries : List Query) (query : Query) :
    Progresses source fresh (fresh.after queries)
      (Result.state (query.ask (fresh.after queries))) := by
  have hunread := unread_ofSource hnew
  have hpaced := hunread.paced
  obtain ⟨earlier, hearlier⟩ := tries_after fresh queries
  obtain ⟨own, hown⟩ := tries_advanceUntil query.isSettled (fresh.after queries)
  rw [← state_ask] at hown
  have hall := hearlier.trans hown
  have hlength : fresh.position + (Moment.bytes fresh.cursor.upcoming).length ≤
      (Moment.bytes source.script).length := by
    simp [position, hunread.position_eq, Cursor.upcoming, hunread.ahead_eq, hunread.source_eq]
  refine ⟨hown.moves.phases, fun hdone => state_ask_of_not_isOpen hdone query, fun hphase => ?_,
    hown.moves.position_le, hown.moves.count_le, fun hphase => ?_, earlier, own, hearlier, hown,
    hall.le_room hunread.count_eq hpaced hlength⟩
  · rcases hall.moves.allowed hphase with hfresh | hallowed
    · simp [hunread.phase_eq] at hfresh
    · exact hallowed
  · have hscanning := (hall.paced hpaced).scanning_le hphase
    rwa [hall.moves.delimiter_eq] at hscanning

/-- A preamble, a root, a part whose header block a pause ends, and a last part that does not
end. -/
def pausing : Source :=
  .ofPlan (Text.Utf8.encode
    "p\n--B\n\nr\n--B\nContent-Id: a\n\na\n--B\nContent-Id: b\n\nb".toList)
    [⟨20, .pause, 1⟩, ⟨12, .interruption, 2⟩] (some 3)

theorem run_progresses_pausing :
    ∃ fresh, ofSource pausing "multipart/mixed; boundary=B"
        { allowUnterminatedFinalPart := true } = .ok fresh ∧
      (fresh.after [.root]).phase = .scanning ∧ (fresh.after [.root]).count = 1 ∧
      (fresh.after [.root, .attachments]).phase = .exhausted ∧
      (fresh.after [.root, .attachments]).count = 3 ∧
      Progresses pausing fresh (fresh.after [.root])
        (Result.state (Query.attachments.ask (fresh.after [.root]))) := by
  obtain ⟨fresh, hnew, hcheck⟩ := exists_of_any pausing "multipart/mixed; boundary=B"
    { allowUnterminatedFinalPart := true }
    (fun fresh => ((fresh.after [.root]).phase = .scanning ∧ (fresh.after [.root]).count = 1) ∧
      (fresh.after [.root, .attachments]).phase = .exhausted ∧
      (fresh.after [.root, .attachments]).count = 3) (by decide +kernel)
  obtain ⟨⟨hscanning, hone⟩, hexhausted, hthree⟩ := of_decide_eq_true hcheck
  exact ⟨fresh, hnew, hscanning, hone, hexhausted, hthree,
    run_progresses hnew [.root] .attachments⟩

end Decoder

end Multipart
