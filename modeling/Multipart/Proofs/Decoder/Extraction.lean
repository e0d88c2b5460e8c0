import Multipart.Decoder.Query
import Multipart.Proofs.Cursor.Faultless
import Multipart.Proofs.Result

/-! # Successive extractions

One extraction reads a part and files it. The parts of a stream and the decoder that each of them
leaves are what extractions in a row make of a fresh decoder, whatever is asked in between. -/

namespace Multipart

def ContentType.delimiter (contentType : ContentType) : Delimiter :=
  .ofBytes (Text.Utf8.encode contentType.boundary.toList)

def Phase.isOpen : Phase → Bool
  | .fresh | .scanning => true
  | .closed | .exhausted | .failed => false

namespace Decoder

/-- The decoder after a part is read, with the part reported and filed. -/
def keep (decoder : Decoder) (part : Part) (phase : Phase) : Decoder :=
  { (decoder.record
      (.partExtracted part.offset part.length part.contentType part.contentId?)).file part with
    phase }

/-- The next part and the decoder that has filed it, if there is one and reading it succeeds. -/
def nextPart? (decoder : Decoder) : Option (Part × Decoder) :=
  if decoder.phase.isOpen then
    match decoder.start with
    | .error _ _ => none
    | .ok () started =>
        match started.readPart with
        | .error _ _ => none
        | .ok (part, phase) read => some (part, read.keep part phase)
  else none

/-- The parts that so many extractions in a row read, and the decoder they leave. -/
def extractions : Nat → Decoder → Option (List Part × Decoder)
  | 0, decoder => some ([], decoder)
  | n + 1, decoder =>
      match decoder.extractions n with
      | none => none
      | some (parts, decoder) =>
          match decoder.nextPart? with
          | none => none
          | some (part, decoder) => some (parts ++ [part], decoder)

/-! ## Before anything is read -/

structure Unread (source : Source) (settings : Settings) (decoder : Decoder) : Prop where
  source_eq : decoder.cursor.source = source
  ahead_eq : decoder.cursor.ahead = []
  position_eq : decoder.cursor.position = 0
  delimiter_eq : decoder.delimiter = decoder.contentType.delimiter
  settings_eq : decoder.settings = settings
  phase_eq : decoder.phase = .fresh
  count_eq : decoder.count = 0
  root_eq : decoder.root = none
  attachments_eq : decoder.attachments = .empty

theorem unread_ofSource {source : Source} {text : String} {settings : Settings}
    {fresh : Decoder} (h : ofSource source text settings = .ok fresh) :
    Unread source settings fresh := by
  simp only [ofSource] at h
  split at h
  · cases h
  · cases h
    exact ⟨rfl, rfl, rfl, rfl, rfl, rfl, rfl, rfl, rfl⟩

/-- A decoder faces the bytes of its stream before it reads. -/
theorem Unread.faces {source : Source} {settings : Settings} {fresh : Decoder}
    {bytes : List UInt8} (h : Unread source settings fresh) (hgenerous : source.Generous)
    (hscript : source.script = bytes.map .byte) : fresh.cursor.Faces 0 bytes := by
  refine ⟨?_, h.position_eq, h.source_eq ▸ hgenerous⟩
  rw [Cursor.upcoming, h.ahead_eq, h.source_eq, List.map_nil, List.nil_append, hscript]

/-! ## What reading leaves alone -/

/-- Reading moves the cursor and adds to the log, and leaves the rest of a decoder alone. -/
def ReadsOn (decoder after : Decoder) : Prop :=
  ∃ cursor log, after = { decoder with cursor, log }

theorem ReadsOn.refl (decoder : Decoder) : ReadsOn decoder decoder :=
  ⟨decoder.cursor, decoder.log, rfl⟩

theorem ReadsOn.trans {a b c : Decoder} (hab : ReadsOn a b) (hbc : ReadsOn b c) :
    ReadsOn a c := by
  obtain ⟨_, _, rfl⟩ := hab
  obtain ⟨cursor, log, rfl⟩ := hbc
  exact ⟨cursor, log, rfl⟩

theorem ReadsOn.record (decoder : Decoder) (event : Event) :
    ReadsOn decoder (decoder.record event) :=
  ⟨decoder.cursor, decoder.log.push event, rfl⟩

theorem scan_readsOn (decoder : Decoder) (body : Option Body) :
    ReadsOn decoder (Result.state (decoder.scan body)) := by
  simp only [scan]
  cases (Scan.find decoder.delimiter decoder.cursor body).matched <;>
    cases (Scan.find decoder.delimiter decoder.cursor body).outcome <;>
    exact ⟨_, _, rfl⟩

/-- What a scan of a decoder answers is what the scan for the delimiter finds. -/
theorem scan_eq_of_find {decoder : Decoder} {after : Cursor} {body last : Option Body}
    {outcome : Outcome} {matched : Option Nat}
    (h : Scan.find decoder.delimiter decoder.cursor body = ⟨.ok outcome, after, last, matched⟩) :
    ∃ log, decoder.scan body = .ok (outcome, last) { decoder with cursor := after, log } := by
  cases matched with
  | none => exact ⟨decoder.log, by simp [scan, h]⟩
  | some offset =>
      exact ⟨decoder.log.push (.delimiterMatched offset), by simp [scan, h, record]⟩

theorem readHeaders_readsOn (decoder : Decoder) :
    ReadsOn decoder (Result.state decoder.readHeaders) := by
  simp only [readHeaders]
  cases Header.readBlock decoder.settings.maxHeaderSize decoder.cursor <;> exact ⟨_, _, rfl⟩

theorem endWithStream_readsOn (decoder : Decoder) (offset : Nat) (body : Body) :
    ReadsOn decoder (Result.state (decoder.endWithStream offset body)) := by
  simp only [endWithStream]
  split
  · cases body.checkLimit with
    | error error => exact .refl decoder
    | ok _ => exact .record decoder _
  · exact .refl decoder

theorem readBody_readsOn (decoder : Decoder) (offset : Nat) :
    ReadsOn decoder (Result.state (decoder.readBody offset)) := by
  have hscan := scan_readsOn decoder (some (Body.empty decoder.settings.maxPartSize))
  simp only [readBody]
  split
  · rename_i after hafter
    simpa only [hafter, Result.state] using hscan
  · rename_i outcome body after hafter
    rw [hafter] at hscan
    split
    · exact hscan
    · exact hscan
    · have hend := endWithStream_readsOn after offset
        (body.getD (Body.empty decoder.settings.maxPartSize))
      split <;> rename_i ended hended <;> rw [hended] at hend <;> exact hscan.trans hend

theorem readPart_readsOn (decoder : Decoder) : ReadsOn decoder (Result.state decoder.readPart) := by
  have hheaders := readHeaders_readsOn decoder
  simp only [readPart]
  split
  · rename_i after hafter
    simpa only [hafter, Result.state] using hheaders
  · rename_i headers after hafter
    rw [hafter] at hheaders
    have hbody := readBody_readsOn after after.position
    split <;> rename_i read hread <;> rw [hread] at hbody <;> exact hheaders.trans hbody

theorem skipPreamble_readsOn (decoder : Decoder) :
    ReadsOn decoder (Result.state decoder.skipPreamble) := by
  have hscan := scan_readsOn decoder none
  simp only [skipPreamble]
  split <;> rename_i after hafter <;> rw [hafter] at hscan
  · exact hscan
  · exact hscan.trans (.record after _)
  · exact hscan
  · exact hscan

theorem start_readsOn {decoder started : Decoder} (h : decoder.start = .ok () started) :
    ReadsOn { decoder with phase := started.phase } started ∧
      (decoder.phase.isOpen → started.phase = .scanning) := by
  simp only [start] at h
  cases hphase : decoder.phase with
  | fresh =>
      have hskip := skipPreamble_readsOn decoder
      rw [hphase] at h
      cases hresult : decoder.skipPreamble with
      | error error after => simp [hresult] at h
      | ok _ after =>
          rw [hresult] at h hskip
          obtain ⟨cursor, log, rfl⟩ := hskip
          cases h
          exact ⟨⟨cursor, log, rfl⟩, fun _ => rfl⟩
  | scanning =>
      rw [hphase] at h
      cases h
      exact ⟨.refl decoder, fun _ => hphase⟩
  | closed | exhausted | failed =>
      rw [hphase] at h
      cases h
      exact ⟨.refl decoder, by simp [Phase.isOpen]⟩

/-! ## What one extraction does -/

/-- An extraction that succeeds starts, reads a part and keeps it. -/
theorem advance_ok_iff {decoder after : Decoder} :
    decoder.advance = .ok () after ↔
      ∃ started part phase read, decoder.start = .ok () started ∧
        started.readPart = .ok (part, phase) read ∧ after = read.keep part phase := by
  simp only [advance, extract]
  cases decoder.start with
  | error error started => simp
  | ok _ started =>
      cases hread : started.readPart with
      | error error read => simp [hread]
      | ok found read =>
          obtain ⟨part, phase⟩ := found
          simp only [hread, EStateM.Result.ok.injEq, true_and]
          constructor
          · rintro rfl
            exact ⟨started, part, phase, read, rfl, hread, rfl⟩
          · rintro ⟨_, _, _, _, rfl, hread', rfl⟩
            rw [hread] at hread'
            cases hread'
            rfl

theorem nextPart?_eq_some_iff {decoder after : Decoder} {part : Part} :
    decoder.nextPart? = some (part, after) ↔ decoder.phase.isOpen ∧
      ∃ started phase read, decoder.start = .ok () started ∧
        started.readPart = .ok (part, phase) read ∧ after = read.keep part phase := by
  simp only [nextPart?]
  by_cases hopen : decoder.phase.isOpen
  · simp only [hopen, ite_true, true_and]
    cases decoder.start with
    | error error started => simp
    | ok _ started =>
        cases hread : started.readPart with
        | error error read => simp [hread]
        | ok found read =>
            obtain ⟨found, phase⟩ := found
            simp only [hread, Option.some.injEq, Prod.mk.injEq, EStateM.Result.ok.injEq, true_and]
            constructor
            · rintro ⟨rfl, rfl⟩
              exact ⟨started, phase, read, rfl, hread, rfl⟩
            · rintro ⟨_, _, _, rfl, hread', rfl⟩
              rw [hread] at hread'
              cases hread'
              exact ⟨rfl, rfl⟩
  · simp [hopen]

/-- While parts may follow, the part that is next is the one that an advance reads. -/
theorem advance_eq_ok_iff {decoder after : Decoder} (hopen : decoder.phase.isOpen) :
    decoder.advance = .ok () after ↔ ∃ part, decoder.nextPart? = some (part, after) := by
  simp only [advance_ok_iff, nextPart?_eq_some_iff, hopen, true_and]
  exact ⟨fun ⟨started, part, rest⟩ => ⟨part, started, rest⟩,
    fun ⟨part, started, rest⟩ => ⟨started, part, rest⟩⟩

/-! ## Where a part goes -/

/-- The table of attachments once a part is filed. -/
def attachmentsWith (decoder : Decoder) (part : Part) : Table Part :=
  if decoder.isRoot part then decoder.attachments
  else
    match part.contentId? with
    | some id => decoder.attachments.insert id part
    | none => decoder.attachments

/-- A decoder with one more part, but for what is reported about it. -/
def withPart (decoder : Decoder) (part : Part) : Decoder :=
  { decoder with
    root := if decoder.isRoot part then some part else decoder.root
    attachments := decoder.attachmentsWith part
    count := decoder.count + 1 }

theorem file_readsOn (decoder : Decoder) (part : Part) :
    ReadsOn (decoder.withPart part) (decoder.file part) := by
  by_cases hroot : decoder.isRoot part
  · exact ⟨decoder.cursor, decoder.log, by simp [file, withPart, attachmentsWith, hroot]⟩
  · cases hid : part.contentId? with
    | none =>
        exact ⟨decoder.cursor, decoder.log.push (.partUnreachable part.offset), by
          simp [file, withPart, attachmentsWith, attach, record, hroot, hid]⟩
    | some id =>
        by_cases hcontains : decoder.attachments.contains id
        · exact ⟨decoder.cursor, decoder.log.push (.duplicateContentId id), by
            simp [file, withPart, attachmentsWith, attach, record, hroot, hid, hcontains]⟩
        · exact ⟨decoder.cursor, decoder.log, by
            simp [file, withPart, attachmentsWith, attach, hroot, hid, hcontains]⟩

theorem cursor_file (decoder : Decoder) (part : Part) :
    (decoder.file part).cursor = decoder.cursor := by
  simp only [file, attach]
  repeat' split
  all_goals rfl

theorem cursor_keep (decoder : Decoder) (part : Part) (phase : Phase) :
    (decoder.keep part phase).cursor = decoder.cursor :=
  cursor_file _ part

/-- What is kept does not depend on what was read and reported on the way to a part. -/
theorem ReadsOn.withPart {decoder read : Decoder} (h : ReadsOn decoder read) (part : Part) :
    ReadsOn (decoder.withPart part) (read.withPart part) := by
  obtain ⟨cursor, log, rfl⟩ := h
  exact ⟨cursor, log, rfl⟩

theorem endWithStream_phase {decoder after : Decoder} {offset : Nat} {body : Body}
    {phase : Phase} (h : decoder.endWithStream offset body = .ok phase after) :
    phase = .exhausted ∧ decoder.settings.allowUnterminatedFinalPart := by
  simp only [endWithStream] at h
  split at h
  · rename_i hallowed
    cases hlimit : body.checkLimit with
    | error error => simp [hlimit] at h
    | ok _ =>
        rw [hlimit] at h
        cases h
        exact ⟨rfl, hallowed⟩
  · cases h

/-- After a part comes another one, the closing delimiter or the end of the stream. -/
theorem readPart_phase {decoder after : Decoder} {part : Part} {phase : Phase}
    (h : decoder.readPart = .ok (part, phase) after) :
    phase = .scanning ∨ phase = .closed ∨
      phase = .exhausted ∧ decoder.settings.allowUnterminatedFinalPart := by
  have hheaders := readHeaders_readsOn decoder
  simp only [readPart] at h
  split at h
  · cases h
  · rename_i headers started hstarted
    rw [hstarted] at hheaders
    have hscan := scan_readsOn started (some (Body.empty started.settings.maxPartSize))
    split at h
    · cases h
    · rename_i data next read hread
      cases h
      simp only [readBody] at hread
      split at hread
      · cases hread
      · rename_i outcome body scanned hscanned
        rw [hscanned] at hscan
        split at hread
        · cases hread
          exact .inl rfl
        · cases hread
          exact .inr (.inl rfl)
        · split at hread
          · cases hread
          · rename_i hend
            cases hread
            obtain ⟨hphase, hallowed⟩ := endWithStream_phase hend
            obtain ⟨_, _, rfl⟩ := hheaders
            obtain ⟨_, _, rfl⟩ := hscan
            exact .inr (.inr ⟨hphase, hallowed⟩)

/-- An extraction files one part and leaves all else but the phase, the cursor and the log. -/
theorem nextPart?_files {decoder after : Decoder} {part : Part}
    (h : decoder.nextPart? = some (part, after)) :
    ReadsOn { decoder.withPart part with phase := after.phase } after ∧
      (after.phase = .scanning ∨ after.phase.isDone) := by
  obtain ⟨-, started, phase, read, hstart, hread, rfl⟩ := nextPart?_eq_some_iff.mp h
  have hphase : phase = .scanning ∨ phase.isDone := by
    rcases readPart_phase hread with rfl | rfl | ⟨rfl, -⟩
    · exact .inl rfl
    · exact .inr rfl
    · exact .inr rfl
  have hkept := readPart_readsOn started
  rw [hread] at hkept
  have hall : ReadsOn { decoder with phase := started.phase } read :=
    (start_readsOn hstart).1.trans hkept
  have hfiled := ((hall.trans (.record read
    (.partExtracted part.offset part.length part.contentType part.contentId?))).withPart part).trans
      (file_readsOn _ part)
  obtain ⟨cursor, log, hfiled⟩ := hfiled
  refine ⟨⟨cursor, log, ?_⟩, hphase⟩
  rw [keep, hfiled]
  rfl

theorem start_error_readsOn {decoder after : Decoder} {error : Error}
    (h : decoder.start = .error error after) : ReadsOn decoder after := by
  have hskip := skipPreamble_readsOn decoder
  simp only [start] at h
  split at h
  · cases hresult : decoder.skipPreamble with
    | error _ skipped =>
        rw [hresult] at h hskip
        cases h
        exact hskip
    | ok _ skipped => simp [hresult] at h
  · cases h

/-- An extraction that fails files nothing. -/
theorem advance_error_readsOn {decoder after : Decoder} {error : Error}
    (h : decoder.advance = .error error after) :
    ReadsOn { decoder with phase := .failed } after := by
  simp only [advance, extract] at h
  cases hstart : decoder.start with
  | error _ started =>
      obtain ⟨cursor, log, rfl⟩ := start_error_readsOn hstart
      simp only [hstart, EStateM.Result.error.injEq] at h
      obtain ⟨-, rfl⟩ := h
      exact ⟨_, _, rfl⟩
  | ok _ started =>
      obtain ⟨cursor, log, hstarted⟩ := (start_readsOn hstart).1
      cases hread : started.readPart with
      | ok found read => simp [hstart, hread] at h
      | error _ read =>
          have hkept := readPart_readsOn started
          rw [hread, hstarted] at hkept
          obtain ⟨cursor, log, rfl⟩ := hkept
          simp only [hstart, hread, EStateM.Result.error.injEq] at h
          obtain ⟨-, rfl⟩ := h
          exact ⟨_, _, rfl⟩

/-! ## Extractions in a row -/

theorem count_of_nextPart? {decoder after : Decoder} {part : Part}
    (h : decoder.nextPart? = some (part, after)) : after.count = decoder.count + 1 := by
  obtain ⟨_, _, hafter⟩ := (nextPart?_files h).1
  rw [hafter]
  rfl

theorem setting_of_nextPart? {decoder after : Decoder} {part : Part}
    (h : decoder.nextPart? = some (part, after)) :
    after.delimiter = decoder.delimiter ∧ after.settings = decoder.settings ∧
      after.contentType = decoder.contentType := by
  obtain ⟨_, _, hafter⟩ := (nextPart?_files h).1
  rw [hafter]
  exact ⟨rfl, rfl, rfl⟩

theorem phase_of_nextPart? {decoder after : Decoder} {part : Part}
    (h : decoder.nextPart? = some (part, after)) :
    after.phase ≠ .failed ∧ after.phase ≠ .fresh := by
  rcases (nextPart?_files h).2 with hphase | hdone
  · simp [hphase]
  · constructor <;> intro hphase <;> simp [hphase, Phase.isDone] at hdone

theorem extractions_succ {n : Nat} {decoder : Decoder} {parts : List Part} {after : Decoder} :
    decoder.extractions (n + 1) = some (parts, after) ↔
      ∃ before last state, decoder.extractions n = some (before, state) ∧
        state.nextPart? = some (last, after) ∧ parts = before ++ [last] := by
  simp only [extractions]
  cases hbefore : decoder.extractions n with
  | none => simp
  | some found =>
      obtain ⟨before, state⟩ := found
      cases hlast : state.nextPart? with
      | none => simp [hlast]
      | some next =>
          obtain ⟨last, next⟩ := next
          simp only [hlast, Option.some.injEq, Prod.mk.injEq]
          constructor
          · rintro ⟨rfl, rfl⟩
            exact ⟨before, last, state, ⟨rfl, rfl⟩, hlast, rfl⟩
          · rintro ⟨_, _, _, ⟨rfl, rfl⟩, hlast', rfl⟩
            rw [hlast] at hlast'
            cases hlast'
            exact ⟨rfl, rfl⟩

/-- Each extraction reads one part and counts it. -/
theorem length_extractions {n : Nat} {decoder after : Decoder} {parts : List Part}
    (h : decoder.extractions n = some (parts, after)) :
    parts.length = n ∧ after.count = decoder.count + n := by
  induction n generalizing parts after with
  | zero =>
      cases h
      exact ⟨rfl, rfl⟩
  | succ n ih =>
      obtain ⟨before, last, state, hbefore, hlast, rfl⟩ := extractions_succ.mp h
      obtain ⟨hlength, hcount⟩ := ih hbefore
      rw [count_of_nextPart? hlast, hcount, List.length_append, hlength]
      exact ⟨rfl, rfl⟩

/-- A row of extractions may be cut anywhere. -/
theorem extractions_add {m n : Nat} {decoder after : Decoder} {parts : List Part} :
    decoder.extractions (m + n) = some (parts, after) ↔
      ∃ before state later, decoder.extractions m = some (before, state) ∧
        state.extractions n = some (later, after) ∧ parts = before ++ later := by
  induction n generalizing parts after with
  | zero =>
      constructor
      · intro h
        exact ⟨parts, after, [], h, rfl, (List.append_nil parts).symm⟩
      · rintro ⟨before, state, later, hbefore, hlater, rfl⟩
        cases hlater
        rwa [List.append_nil]
  | succ n ih =>
      rw [← Nat.add_assoc, extractions_succ]
      constructor
      · rintro ⟨_, last, reached, hreached, hlast, rfl⟩
        obtain ⟨before, state, later, hbefore, hlater, rfl⟩ := ih.mp hreached
        exact ⟨before, state, later ++ [last], hbefore,
          extractions_succ.mpr ⟨later, last, reached, hlater, hlast, rfl⟩,
          List.append_assoc before later [last]⟩
      · rintro ⟨before, state, _, hbefore, hlater, rfl⟩
        obtain ⟨later, last, reached, hreached, hlast, rfl⟩ := extractions_succ.mp hlater
        exact ⟨before ++ later, last, reached,
          ih.mpr ⟨before, state, later, hbefore, hreached, rfl⟩, hlast,
          (List.append_assoc before later [last]).symm⟩

@[simp] theorem extractions_zero {decoder after : Decoder} {parts : List Part} :
    decoder.extractions 0 = some (parts, after) ↔ parts = [] ∧ after = decoder := by
  simp [extractions, eq_comm]

theorem extractions_one {decoder after : Decoder} {parts : List Part} :
    decoder.extractions 1 = some (parts, after) ↔
      ∃ part, decoder.nextPart? = some (part, after) ∧ parts = [part] := by
  rw [show 1 = 0 + 1 from rfl, extractions_succ]
  simp only [extractions_zero]
  constructor
  · rintro ⟨_, part, _, ⟨rfl, rfl⟩, hpart, rfl⟩
    exact ⟨part, hpart, rfl⟩
  · rintro ⟨part, hpart, rfl⟩
    exact ⟨[], part, decoder, ⟨rfl, rfl⟩, hpart, rfl⟩

theorem extractions_succ_front {n : Nat} {decoder after : Decoder} {parts : List Part} :
    decoder.extractions (n + 1) = some (parts, after) ↔
      ∃ first state later, decoder.nextPart? = some (first, state) ∧
        state.extractions n = some (later, after) ∧ parts = first :: later := by
  rw [Nat.add_comm, extractions_add]
  simp only [extractions_one]
  constructor
  · rintro ⟨_, state, later, ⟨first, hfirst, rfl⟩, hlater, rfl⟩
    exact ⟨first, state, later, hfirst, hlater, rfl⟩
  · rintro ⟨first, state, later, hfirst, hlater, rfl⟩
    exact ⟨[first], state, later, ⟨first, hfirst, rfl⟩, hlater, rfl⟩

end Decoder

end Multipart
