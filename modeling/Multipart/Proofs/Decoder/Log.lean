import Multipart.Proofs.Decoder.Errors
import Multipart.Proofs.Decoder.Failure

/-! # What the log says about the parts

Every part that is read is reported once, and every part that can no longer be looked up is reported
as such. So the log accounts for all parts, whatever is asked and wherever an extraction fails. A
query that reads nothing reports nothing. -/

namespace Multipart

inductive Notice
  /-- A part was read. -/
  | extracted
  /-- A part takes the place of an earlier one. -/
  | duplicate
  /-- A part cannot be looked up. -/
  | unreachable
  /-- A part could not be read. -/
  | failure
  deriving DecidableEq, Repr

/-- What an event says about a part, if it is about one as a whole. -/
def Event.notice? : Event → Option Notice
  | partExtracted .. => some .extracted
  | duplicateContentId _ => some .duplicate
  | partUnreachable _ => some .unreachable
  | extractionFailed .. => some .failure
  | bufferRaised .. | delimiterMatched _ | preambleSkipped _ | unendedPartAccepted _ => none

namespace Notice

def level : Notice → Event.Level
  | extracted | failure => .debug
  | duplicate | unreachable => .warn

def message : Notice → String
  | extracted => "Extracted MIME part"
  | duplicate => "Duplicate Content-ID, keeping the later part"
  | unreachable => "Part without Content-ID is not the root and cannot be looked up"
  | failure => "Multipart parse failed"

end Notice

/-- What an event says about a part shows in its level and its text. -/
theorem Event.notice?_eq_some_iff (event : Event) (notice : Notice) :
    event.notice? = some notice ↔
      event.level = notice.level ∧ event.message = notice.message := by
  cases event <;> cases notice <;>
    simp [Event.notice?, Event.level, Event.message, Notice.level, Notice.message]

namespace Decoder

variable {decoder after started read failed : Decoder} {part : Part} {phase : Phase} {error : Error}

def notices (decoder : Decoder) : List Notice :=
  decoder.log.toList.filterMap Event.notice?

/-- How often the log says something about a part. -/
def tally (decoder : Decoder) (notice : Notice) : Nat :=
  decoder.notices.count notice

@[simp] theorem notices_record (decoder : Decoder) (event : Event) :
    (decoder.record event).notices = decoder.notices ++ event.notice?.toList := by
  cases h : event.notice? <;> simp [notices, record, h]

/-! ## Reading says nothing about a part -/

/-- Nothing is reported about a part from one decoder to another. -/
def Quiet (decoder after : Decoder) : Prop :=
  ∃ events, after.log.toList = decoder.log.toList ++ events ∧
    ∀ event ∈ events, event.notice? = none

theorem Quiet.of_log_eq (h : after.log = decoder.log) : Quiet decoder after :=
  ⟨[], by simp [h], by simp⟩

theorem Quiet.refl (decoder : Decoder) : Quiet decoder decoder :=
  .of_log_eq rfl

theorem Quiet.trans {a b c : Decoder} (hab : Quiet a b) (hbc : Quiet b c) : Quiet a c := by
  obtain ⟨first, hfirst, hquiet⟩ := hab
  obtain ⟨second, hsecond, hstill⟩ := hbc
  refine ⟨first ++ second, by rw [hsecond, hfirst, List.append_assoc], ?_⟩
  intro event hmem
  rcases List.mem_append.mp hmem with hmem | hmem
  · exact hquiet event hmem
  · exact hstill event hmem

theorem Quiet.record (decoder : Decoder) {event : Event} (h : event.notice? = none) :
    Quiet decoder (decoder.record event) :=
  ⟨[event], by simp [Decoder.record], by simpa using h⟩

theorem Quiet.notices_eq (h : Quiet decoder after) : after.notices = decoder.notices := by
  obtain ⟨events, hlog, hquiet⟩ := h
  have hnone : events.filterMap Event.notice? = [] := List.filterMap_eq_nil_iff.mpr hquiet
  rw [notices, hlog, List.filterMap_append, hnone, List.append_nil]
  rfl

theorem quiet_scan (decoder : Decoder) (body : Option Body) :
    Quiet decoder (Result.state (decoder.scan body)) := by
  simp only [scan]
  cases (Scan.find decoder.delimiter decoder.cursor body).matched <;>
    cases (Scan.find decoder.delimiter decoder.cursor body).outcome
  · exact .of_log_eq rfl
  · exact .of_log_eq rfl
  · exact .record { decoder with cursor := _ } rfl
  · exact .record { decoder with cursor := _ } rfl

theorem quiet_skipPreamble (decoder : Decoder) :
    Quiet decoder (Result.state decoder.skipPreamble) := by
  have hscan := quiet_scan decoder none
  simp only [skipPreamble]
  split <;> rename_i after hafter <;> rw [hafter] at hscan
  · exact hscan
  · exact hscan.trans (.record after rfl)
  · exact hscan
  · exact hscan

theorem quiet_start (decoder : Decoder) : Quiet decoder (Result.state decoder.start) := by
  have hskip := quiet_skipPreamble decoder
  simp only [start]
  split
  · split <;> rename_i after hafter <;> rw [hafter] at hskip
    · exact hskip
    · exact hskip.trans (.of_log_eq rfl)
  · exact .refl decoder

theorem quiet_readHeaders (decoder : Decoder) :
    Quiet decoder (Result.state decoder.readHeaders) := by
  simp only [readHeaders]
  split <;> exact .of_log_eq rfl

theorem quiet_endWithStream (decoder : Decoder) (offset : Nat) (body : Body) :
    Quiet decoder (Result.state (decoder.endWithStream offset body)) := by
  simp only [endWithStream]
  split
  · split
    · exact .refl decoder
    · exact .record decoder rfl
  · exact .refl decoder

theorem quiet_readBody (decoder : Decoder) (offset : Nat) :
    Quiet decoder (Result.state (decoder.readBody offset)) := by
  have hscan := quiet_scan decoder (some (Body.empty decoder.settings.maxPartSize))
  simp only [readBody]
  split
  · rename_i hafter
    rwa [hafter] at hscan
  · rename_i outcome body after hafter
    rw [hafter] at hscan
    split
    · exact hscan
    · exact hscan
    · have hend := quiet_endWithStream after offset
        (body.getD (Body.empty decoder.settings.maxPartSize))
      split <;> rename_i hended <;> rw [hended] at hend <;> exact hscan.trans hend

theorem quiet_readPart (decoder : Decoder) : Quiet decoder (Result.state decoder.readPart) := by
  have hheaders := quiet_readHeaders decoder
  simp only [readPart]
  split <;> rename_i hafter <;> rw [hafter] at hheaders
  · exact hheaders
  · rename_i after
    have hbody := quiet_readBody after after.position
    split <;> rename_i hread <;> rw [hread] at hbody <;> exact hheaders.trans hbody

/-! ## One extraction -/

/-- An extraction that fails reports that it does and where, and nothing else about a part. -/
def LogsFailure (decoder : Decoder) (error : Error) (failed : Decoder) : Prop :=
  ∃ events, failed.log.toList =
      decoder.log.toList ++ events ++ [.extractionFailed error failed.position] ∧
    ∀ event ∈ events, event.notice? = none

theorem logsFailure_of_advance (h : decoder.advance = .error error failed) :
    decoder.LogsFailure error failed := by
  have hread : ∃ last, Quiet decoder last ∧
      failed = { last.record (.extractionFailed error last.position) with phase := .failed } := by
    have hquiet := quiet_start decoder
    simp only [advance, extract] at h
    cases hstart : decoder.start with
    | error _ last =>
        rw [hstart] at hquiet
        simp only [hstart, EStateM.Result.error.injEq] at h
        obtain ⟨rfl, rfl⟩ := h
        exact ⟨last, hquiet, rfl⟩
    | ok _ started =>
        rw [hstart] at hquiet
        have hpart := quiet_readPart started
        cases hread : started.readPart with
        | ok found last => simp [hstart, hread] at h
        | error _ last =>
            rw [hread] at hpart
            simp only [hstart, hread, EStateM.Result.error.injEq] at h
            obtain ⟨rfl, rfl⟩ := h
            exact ⟨last, hquiet.trans hpart, rfl⟩
  obtain ⟨last, ⟨events, hlog, hquiet⟩, rfl⟩ := hread
  refine ⟨events, ?_, hquiet⟩
  simp only [record, Array.toList_push, hlog]
  rfl

theorem LogsFailure.notices_eq (h : decoder.LogsFailure error failed) :
    failed.notices = decoder.notices ++ [.failure] := by
  obtain ⟨events, hlog, hquiet⟩ := h
  have hnone : events.filterMap Event.notice? = [] := List.filterMap_eq_nil_iff.mpr hquiet
  rw [notices, hlog, List.filterMap_append, List.filterMap_append, hnone, List.append_nil]
  rfl

def filingNotices (decoder : Decoder) (part : Part) : List Notice :=
  if decoder.isRoot part then []
  else
    match part.contentId? with
    | some id => if decoder.attachments.contains id then [.duplicate] else []
    | none => [.unreachable]

theorem notices_file (decoder : Decoder) (part : Part) :
    (decoder.file part).notices = decoder.notices ++ decoder.filingNotices part := by
  by_cases hroot : decoder.isRoot part
  · simp [file, filingNotices, hroot, notices]
  · cases hid : part.contentId? with
    | none =>
        have hlast := notices_record decoder (.partUnreachable part.offset)
        simpa [file, filingNotices, attach, hroot, hid, Event.notice?, notices] using hlast
    | some id =>
        by_cases hcontains : decoder.attachments.contains id
        · have hlast := notices_record decoder (.duplicateContentId id)
          simpa [file, filingNotices, attach, hroot, hid, hcontains, Event.notice?, notices]
            using hlast
        · simp [file, filingNotices, attach, hroot, hid, hcontains, notices]

theorem notices_keep (decoder : Decoder) (part : Part) (phase : Phase) :
    (decoder.keep part phase).notices =
      decoder.notices ++ .extracted :: decoder.filingNotices part := by
  have hfile := notices_file (decoder.record
    (.partExtracted part.offset part.length part.contentType part.contentId?)) part
  rw [notices_record, List.append_assoc] at hfile
  exact hfile

/-- The number of parts that can be looked up. -/
def held (decoder : Decoder) : Nat :=
  (if decoder.root.isSome then 1 else 0) + decoder.attachments.size

/-- A part that is kept can be looked up, or something is reported about it when it is filed. -/
theorem held_keep (decoder : Decoder) (part : Part) (phase : Phase) :
    (decoder.keep part phase).held + (decoder.filingNotices part).length = decoder.held + 1 := by
  have hreads := file_readsOn (decoder.record
    (.partExtracted part.offset part.length part.contentType part.contentId?)) part
  have hsame : (decoder.keep part phase).held = (decoder.withPart part).held := by
    obtain ⟨cursor, log, hfiled⟩ := hreads
    rw [keep, hfiled]
    rfl
  rw [hsame]
  by_cases hroot : decoder.isRoot part
  · have hnone : decoder.root = none := by
      simp only [isRoot, Bool.and_eq_true, Option.isNone_iff_eq_none] at hroot
      exact hroot.1
    simp [held, withPart, attachmentsWith, filingNotices, hroot, hnone]
    omega
  · cases hid : part.contentId? with
    | none => simp [held, withPart, attachmentsWith, filingNotices, hroot, hid]
    | some id =>
        have hsize := decoder.attachments.size_insert id part
        by_cases hcontains : decoder.attachments.contains id
        · simp [held, withPart, attachmentsWith, filingNotices, hroot, hid, hcontains, hsize]
        · simp [held, withPart, attachmentsWith, filingNotices, hroot, hid, hcontains, hsize]
          omega

/-! ## The account -/

/-- The log accounts for every part that is read: for each it says so once, and every part but the
ones that can be looked up is reported as replaced or unreachable. A failure is reported once. -/
structure Accounted (decoder : Decoder) : Prop where
  extracted : decoder.tally .extracted = decoder.count
  filed : decoder.count = (if decoder.root.isSome then 1 else 0) + decoder.attachments.size +
    decoder.tally .duplicate + decoder.tally .unreachable
  failure : decoder.tally .failure = if decoder.phase = .failed then 1 else 0

theorem accounted_ofSource {source : Source} {text : String} {settings : Settings}
    {fresh : Decoder} (hnew : ofSource source text settings = .ok fresh) : fresh.Accounted := by
  have hunread := unread_ofSource hnew
  have hnotices : fresh.notices = [] := by
    simp only [ofSource] at hnew
    split at hnew
    · cases hnew
    · cases hnew
      simp only [notices]
      split <;> rfl
  constructor
  · simp [tally, hnotices, hunread.count_eq]
  · simp [tally, hnotices, hunread.count_eq, hunread.root_eq, hunread.attachments_eq]
  · simp [tally, hnotices, hunread.phase_eq]

theorem count_filingNotices (decoder : Decoder) (part : Part) :
    (decoder.filingNotices part).count .extracted = 0 ∧
      (decoder.filingNotices part).count .failure = 0 ∧
      (decoder.filingNotices part).count .duplicate +
        (decoder.filingNotices part).count .unreachable =
          (decoder.filingNotices part).length := by
  simp only [filingNotices]
  repeat' split
  all_goals decide

theorem Accounted.of_readsOn (h : decoder.Accounted)
    (hreads : ReadsOn { decoder with phase } after) (hquiet : Quiet decoder after)
    (hbefore : decoder.phase ≠ .failed) (hphase : phase ≠ .failed) : after.Accounted := by
  have htally : ∀ notice, after.tally notice = decoder.tally notice := by
    intro notice
    rw [tally, hquiet.notices_eq, tally]
  obtain ⟨cursor, log, rfl⟩ := hreads
  constructor
  · exact (htally .extracted).trans h.extracted
  · rw [htally .duplicate, htally .unreachable]
    exact h.filed
  · rw [htally .failure, h.failure, if_neg hbefore, if_neg hphase]

theorem Accounted.keep (h : decoder.Accounted) (part : Part) (hbefore : decoder.phase ≠ .failed)
    (hphase : phase ≠ .failed) : (decoder.keep part phase).Accounted := by
  have htally : ∀ notice, (decoder.keep part phase).tally notice =
      decoder.tally notice + (.extracted :: decoder.filingNotices part).count notice := by
    intro notice
    rw [tally, notices_keep, List.count_append, tally]
  obtain ⟨hextracted, hfailure, hlength⟩ := count_filingNotices decoder part
  have hheld := held_keep decoder part phase
  have hcount : (decoder.keep part phase).count = decoder.count + 1 := rfl
  have hfiled := h.filed
  simp only [held] at hheld
  constructor
  · rw [htally, List.count_cons_self, hextracted, h.extracted, hcount]
  · rw [htally, htally, List.count_cons_of_ne (by decide), List.count_cons_of_ne (by decide),
      hcount]
    omega
  · rw [htally, List.count_cons_of_ne (by decide), hfailure, h.failure, if_neg hbefore]
    exact (if_neg hphase).symm

/-- A part that is read and filed is accounted for. -/
theorem Accounted.nextPart? (h : decoder.Accounted)
    (hpart : decoder.nextPart? = some (part, after)) : after.Accounted := by
  obtain ⟨hopen, started, phase, read, hstart, hread, rfl⟩ := nextPart?_eq_some_iff.mp hpart
  have hbefore : decoder.phase ≠ .failed := by
    intro hfailed
    simp [hfailed, Phase.isOpen] at hopen
  have hstarted : started.phase ≠ .failed := by
    simp [(start_readsOn hstart).2 hopen]
  have hreads : ReadsOn started read := by
    simpa [hread] using readPart_readsOn started
  have hquiet : Quiet decoder read := by
    have hfirst := quiet_start decoder
    have hsecond := quiet_readPart started
    rw [hstart] at hfirst
    rw [hread] at hsecond
    exact hfirst.trans hsecond
  have haccounted : read.Accounted :=
    h.of_readsOn ((start_readsOn hstart).1.trans hreads) hquiet hbefore hstarted
  apply haccounted.keep part
  · obtain ⟨_, _, rfl⟩ := hreads
    exact hstarted
  · exact (phase_of_nextPart? hpart).1

/-- An extraction that fails is accounted for. -/
theorem Accounted.failsWith (h : decoder.Accounted) (hfails : decoder.FailsWith error failed) :
    failed.Accounted := by
  have htally : ∀ notice, failed.tally notice =
      decoder.tally notice + [Notice.failure].count notice := by
    intro notice
    rw [tally, (logsFailure_of_advance hfails.advance_eq).notices_eq, List.count_append, tally]
  have hphase := phase_of_advance_error hfails.advance_eq
  have hbefore : decoder.phase ≠ .failed := by
    intro hfailed
    have hopen := hfails.isOpen
    simp [hfailed, Phase.isOpen] at hopen
  constructor
  · rw [htally, h.extracted, hfails.count_eq]
    rfl
  · rw [htally, htally, hfails.count_eq, hfails.root_eq, hfails.attachments_eq]
    exact h.filed
  · rw [htally, h.failure, if_neg hbefore, if_pos hphase]
    rfl

theorem Accounted.extractions {n : Nat} {parts : List Part} (h : decoder.Accounted)
    (hn : decoder.extractions n = some (parts, after)) : after.Accounted := by
  induction n generalizing parts after with
  | zero =>
      obtain ⟨-, rfl⟩ := extractions_zero.mp hn
      exact h
  | succ n ih =>
      obtain ⟨before, last, state, hbefore, hlast, -⟩ := extractions_succ.mp hn
      exact (ih hbefore).nextPart? hlast

/-- Wherever a run can be, all parts are accounted for. -/
theorem Accounted.reached (h : decoder.Accounted) (hreached : Reached decoder after) :
    after.Accounted := by
  cases hreached with
  | extracted hn => exact h.extractions hn
  | failed hn hopen hadvance =>
      exact (h.extractions hn).failsWith (failsWith_of_advance hopen hadvance)

/-! ## What a query reports -/

/-- What a query adds to the log besides what its extractions report about the parts they read. -/
structure Reports (query : Query) (decoder : Decoder) : Prop where
  /-- A query that is answered from what is filed leaves everything as it is, the log included. -/
  settled : stopsAt query.isSettled decoder →
    query.ask decoder = .ok (query.reply decoder) decoder
  /-- So does a query that is refused because an earlier one has failed. -/
  refused : ∀ failed, query.ask decoder = .error .unusable failed → failed = decoder
  /-- Any other failure is that of the extraction after those of the query that succeed. -/
  failure : ∀ error failed, query.ask decoder = .error error failed → error ≠ .unusable →
    ∃ n parts state, decoder.extractions n = some (parts, state) ∧
      state.FailsWith error failed ∧ state.LogsFailure error failed

theorem reports (query : Query) (decoder : Decoder) : Reports query decoder := by
  constructor
  · intro hstop
    exact ask_ok_iff.mpr ⟨advanceUntil_of_stopsAt hstop, rfl⟩
  · intro failed hask
    rcases advanceUntil_error (ask_error_iff.mp hask) with ⟨_, _, _, -, -, hadvance⟩ | ⟨-, hsame, -⟩
    · exact absurd rfl (ne_unusable_of_advance hadvance)
    · exact hsame
  · intro error failed hask hne
    rcases advanceUntil_error (ask_error_iff.mp hask) with
      ⟨n, parts, state, hstate, hopen, hadvance⟩ | ⟨hunusable, -, -⟩
    · exact ⟨n, parts, state, hstate, failsWith_of_advance hopen hadvance,
        logsFailure_of_advance hadvance⟩
    · exact absurd hunusable hne

/-- After every run of queries the log accounts for every part that was read: it is the root, an
attachment, or reported as replaced or unreachable. An extraction that fails is reported once, with
the offset it has come to, and what reads nothing reports nothing. -/
theorem log_accounts_for_parts {source : Source} {text : String} {settings : Settings}
    {fresh : Decoder} (hnew : ofSource source text settings = .ok fresh) (queries : List Query) :
    (fresh.after queries).Accounted ∧ ∀ query, Reports query (fresh.after queries) :=
  ⟨(accounted_ofSource hnew).reached (reached_after fresh queries), fun query => reports query _⟩

/-- A root, two parts with the same content id, a part without one, and a part without its end. -/
def mixedBag : Source :=
  .ofBytes (Text.Utf8.encode
    "--B\n\nr\n--B\nContent-Id: a\n\na\n--B\nContent-Id: a\n\nb\n--B\n\nx\n--B\n\ny".toList)

theorem log_accounts_for_parts_mixed_bag :
    ∃ fresh, ofSource mixedBag "multipart/mixed; boundary=B" = .ok fresh ∧
      (fresh.after [.root, .attachments]).notices =
        [.extracted, .extracted, .extracted, .duplicate, .extracted, .unreachable, .failure] ∧
      (fresh.after [.root, .attachments]).Accounted ∧
      ∀ query, Reports query (fresh.after [.root, .attachments]) := by
  obtain ⟨fresh, hnew, hcheck⟩ := exists_of_any mixedBag "multipart/mixed; boundary=B" {}
    (fun fresh => (fresh.after [.root, .attachments]).notices =
      [.extracted, .extracted, .extracted, .duplicate, .extracted, .unreachable, .failure])
    (by decide +kernel)
  exact ⟨fresh, hnew, of_decide_eq_true hcheck, log_accounts_for_parts hnew [.root, .attachments]⟩

end Decoder

end Multipart
