import Multipart.Proofs.Decoder.Errors
import Multipart.Proofs.Decoder.Failure
import Multipart.Proofs.Decoder.Invariant
import Multipart.Proofs.Decoder.Laziness
import Multipart.Proofs.Decoder.Limits

/-! # The end of the stream as the end of a part

A decoder that takes the end of the stream for the end of a part does what a strict one does, but
for a part that lacks its delimiter. There it keeps the rest of the stream as the last part. -/

namespace Multipart

open Cursor (Reads Leads)

/-- The same settings, but that the end of the stream may end a part. -/
def Settings.lenient (settings : Settings) : Settings :=
  { settings with allowUnterminatedFinalPart := true }

theorem Settings.loosens_lenient (settings : Settings) : settings.Loosens settings.lenient :=
  ⟨Nat.le_refl _, Nat.le_refl _, fun _ => rfl⟩

def Error.isUnendedPart : Error → Bool
  | unendedPart _ => true
  | stream _ | noBoundary _ | noFirstDelimiter | closedBeforeFirstPart _ | delimiterInsideLine _
  | unendedDelimiterLine _ | loneHyphen _ | headerTooLong _ | bodyTooLong _ | unusable => false

/-- What is read does not tell whether a part is ended. -/
theorem Error.isUnendedPart_of_isOfReading {error : Error} (h : error.isOfReading) :
    error.isUnendedPart = false := by
  cases error <;> first | rfl | cases h

namespace Decoder

variable {delimiter : Delimiter} {first second : Settings} {R : Cursor → Cursor → Prop}
  {a b after failed : Decoder} {error : Error}

/-! ## One part -/

/-- How an operation comes out that fails with `error` in a strict decoder. It fails in the same
way, unless a delimiter is missing. Then it succeeds as `Kept` says, or the part is too long. -/
inductive Relents {α : Type} (limit : Nat) (error : Error) (failed : Decoder)
    (Kept : α → Decoder → Prop) : Answer α → Prop
  | same {other : Decoder} : error.isUnendedPart = false → other.view = failed.view →
      Relents limit error failed Kept (.error error other)
  | kept {value : α} {after : Decoder} : error.isUnendedPart → Kept value after →
      Relents limit error failed Kept (.ok value after)
  | tooLong {other : Decoder} : error.isUnendedPart →
      Relents limit error failed Kept (.error (.bodyTooLong limit) other)

/-- Some bytes go on from a cursor to where the stream reports its end, without the delimiter. -/
def RunsOut (delimiter : Delimiter) (start : Cursor) (data : List UInt8) (after : Cursor) : Prop :=
  ∃ before ended, Reads start data before ∧ before.next = .ok none ended ∧
    (∀ offset, ¬delimiter.OccursAt data offset) ∧ after = ended.clearMark

theorem isUnendedPart_start (h : a.start = .error error after) : error.isUnendedPart = false := by
  rcases error_of_start h with hreading | rfl | ⟨offset, rfl⟩
  · exact Error.isUnendedPart_of_isOfReading hreading
  · rfl
  · rfl

theorem scan_ended {limit : Nat} {place : StreamEnd} {left : Option Body}
    (h : a.scan (some (Body.empty limit)) = .ok (.ended place, left) after) :
    (left.getD (Body.empty limit)).limit = limit ∧
      RunsOut a.delimiter a.cursor (left.getD (Body.empty limit)).bytes after.cursor := by
  obtain ⟨hfind, rfl, hcursor⟩ := scan_ok h
  obtain ⟨read, before, ended, hreads, hend, hnone, hbody, hlast⟩ := Scan.find_ended hfind
  rw [hbody, hcursor, hlast]
  refine ⟨rfl, before, ended, ?_, hend, ?_, rfl⟩
  · simpa [Scan.grow] using hreads
  · simpa [Scan.grow] using hnone

theorem view_failed {event report : Event} (h : b.view = a.view) :
    view { b.record report with phase := .failed } =
      view { a.record event with phase := .failed } :=
  congrArg (fun shown => { shown with phase := .failed }) h

section

variable (hstrict : first.allowUnterminatedFinalPart = false)
  (h : Follows delimiter first first.lenient (· = ·) a b)

include hstrict h

theorem relents_readBody {offset : Nat} (hread : a.readBody offset = .error error failed) :
    Relents first.maxPartSize error failed
      (fun found last => found.2 = .exhausted ∧ RunsOut delimiter b.cursor found.1 last.cursor)
      (b.readBody offset) := by
  have hscan := related_scan Cursor.bisimulation_eq h.alike (some (Body.empty first.maxPartSize))
  simp only [Decoder.readBody, h.settings_eq.1, h.settings_eq.2, Settings.lenient] at hread ⊢
  cases hresult : a.scan (some (Body.empty first.maxPartSize)) with
  | error refusal between =>
      rw [hresult] at hread hscan
      cases hread
      obtain ⟨other, hother, halike⟩ := hscan.of_error
      rw [hother]
      exact .same (Error.isUnendedPart_of_isOfReading (isOfReading_scan hresult))
        (halike.view_eq Cursor.bisimulation_eq).symm
  | ok found between =>
      rw [hresult] at hread hscan
      obtain ⟨outcome, left⟩ := found
      obtain ⟨other, hother, halike⟩ := hscan.of_ok
      rw [hother]
      cases outcome with
      | found kind => cases kind <;> cases hread
      | ended place =>
          obtain ⟨hlimit, hrunsOut⟩ := scan_ended hother
          rw [h.twin_delimiter_eq] at hrunsOut
          simp only [Decoder.endWithStream, halike.settings.1, halike.settings.2,
            Settings.lenient, hstrict, Bool.false_eq_true, ite_false, ite_true, Body.checkLimit,
            hlimit] at hread ⊢
          cases hread
          by_cases hfits : first.maxPartSize < (left.getD (Body.empty first.maxPartSize)).size
          · simp only [hfits, ite_true]
            exact .tooLong rfl
          · simp only [hfits, ite_false]
            exact .kept rfl ⟨rfl, hrunsOut⟩

theorem relents_readPart (hread : a.readPart = .error error failed) :
    Relents first.maxPartSize error failed
      (fun found last => found.2 = .exhausted ∧ ∃ start, Leads b.cursor start ∧
        found.1.offset = start.position ∧ RunsOut delimiter start found.1.data last.cursor)
      b.readPart := by
  have hheaders := related_readHeaders Cursor.bisimulation_eq
    (by rintro _ _ ⟨rfl, rfl⟩; rfl) h.alike
  have hleads := leads_readHeaders b
  have hreads := readHeaders_readsOn a
  simp only [Decoder.readPart] at hread ⊢
  cases hresult : a.readHeaders with
  | error refusal between =>
      rw [hresult] at hread hheaders
      cases hread
      obtain ⟨other, hother, halike⟩ := hheaders.of_error
      rw [hother]
      exact .same (Error.isUnendedPart_of_isOfReading (isOfReading_readHeaders hresult))
        (halike.view_eq Cursor.bisimulation_eq).symm
  | ok headers between =>
      rw [hresult] at hread hheaders hreads
      obtain ⟨other, hother, halike⟩ := hheaders.of_ok
      rw [hother] at hleads ⊢
      have hfollows := h.of_alike hreads halike
      have hposition := halike.position_eq Cursor.bisimulation_eq
      cases hbody : between.readBody between.position with
      | ok found last => simp [hbody] at hread
      | error refusal last =>
          simp only [hbody, EStateM.Result.error.injEq] at hread
          obtain ⟨rfl, rfl⟩ := hread
          have hrelents := relents_readBody hstrict hfollows hbody
          simp only [← hposition]
          generalize other.readBody between.position = result at hrelents
          cases hrelents with
          | same herror hview => exact .same herror hview
          | tooLong herror => exact .tooLong herror
          | kept herror hkept =>
              exact .kept herror ⟨hkept.1, other.cursor, hleads, hposition, hkept.2⟩

/-- An extraction that fails fails in the same way where the end of the stream may end a part, or it
keeps the rest of the stream as a part. -/
theorem relents_advance (hopen : a.phase.isOpen) (hadvance : a.advance = .error error failed) :
    Relents first.maxPartSize error failed
      (fun _ after => ∃ tail, b.nextPart? = some (tail, after) ∧ after.phase = .exhausted ∧
        ∃ start, Leads b.cursor start ∧ tail.offset = start.position ∧
          RunsOut delimiter start tail.data after.cursor)
      b.advance := by
  have hstart := related_start Cursor.bisimulation_eq h.alike
  have hleads := leads_start b
  simp only [advance, extract] at hadvance ⊢
  cases hresult : a.start with
  | error refusal between =>
      rw [hresult] at hadvance hstart
      cases hadvance
      obtain ⟨other, hother, halike⟩ := hstart.of_error
      rw [hother]
      exact .same (isUnendedPart_start hresult)
        (view_failed (halike.view_eq Cursor.bisimulation_eq).symm)
  | ok _ started =>
      rw [hresult] at hadvance hstart
      obtain ⟨other, hother, halike⟩ := hstart.of_ok
      have hready := hother
      rw [hother] at hleads ⊢
      have hfollows := h.of_alike (start_readsOn hresult).1 halike
      cases hpart : started.readPart with
      | ok found last => simp [hpart] at hadvance
      | error refusal last =>
          simp only [hpart, EStateM.Result.error.injEq] at hadvance
          obtain ⟨rfl, rfl⟩ := hadvance
          have hrelents := relents_readPart hstrict hfollows hpart
          cases hread : other.readPart with
          | error denial rest =>
              rw [hread] at hrelents
              simp only [hread]
              cases hrelents with
              | same herror hview => exact .same herror (view_failed hview)
              | tooLong herror => exact .tooLong herror
          | ok found rest =>
              rw [hread] at hrelents
              obtain ⟨tail, phase⟩ := found
              simp only [hread]
              cases hrelents with
              | kept herror hkept =>
                  obtain ⟨rfl, start, hbetween, hoffset, hrunsOut⟩ := hkept
                  refine .kept herror ⟨tail, ?_, rfl, start, hleads.trans hbetween, hoffset, ?_⟩
                  · exact nextPart?_eq_some_iff.mpr
                      ⟨h.alike.phase_eq ▸ hopen, other, .exhausted, rest, hready, hread, rfl⟩
                  · rw [cursor_file]
                    exact hrunsOut

end

/-! ## Runs -/

/-- A query that fails comes to the extraction that it fails with in every decoder that follows. -/
theorem Follows.advanceUntil_error {query : Query}
    (hF : Cursor.Following delimiter first second (fun _ _ => True) R)
    (h : Follows delimiter first second R a b) (hphase : a.phase ≠ .failed)
    (hread : a.advanceUntil query.isSettled = .error error failed) :
    ∃ n parts state other, a.extractions n = some (parts, state) ∧
      b.extractions n = some (parts, other) ∧ Follows delimiter first second R state other ∧
      state.phase.isOpen ∧ state.advance = .error error failed ∧
      b.advanceUntil query.isSettled =
        match other.advance with
        | .error error after => .error error after
        | .ok () after => after.advanceUntil query.isSettled := by
  induction a using advanceUntil_induction query.isSettled generalizing b with
  | stop a hstop =>
      rw [advanceUntil_of_stopsAt hstop] at hread
      cases hread
  | unusable a hcondition hfailed => exact absurd hfailed hphase
  | failure a refusal last hcondition hopen hadvance =>
      rw [advanceUntil_of_isOpen hcondition hopen, hadvance] at hread
      cases hread
      exact ⟨0, [], a, b, rfl, rfl, h, hopen, hadvance, advanceUntil_of_isOpen
        ((h.alike.isSettled_eq query).trans hcondition) (h.alike.phase_eq ▸ hopen)⟩
  | step a part next hcondition hopen hpart ih =>
      rw [advanceUntil_of_nextPart? hcondition hpart] at hread
      obtain ⟨last, hlast, hfollows⟩ := h.nextPart? hF hpart trivial
      obtain ⟨n, parts, state, other, hstate, hother, hrest⟩ :=
        ih hfollows (phase_of_nextPart? hpart).1 hread
      rw [advanceUntil_of_nextPart? ((h.alike.isSettled_eq query).trans hcondition) hlast]
      exact ⟨n + 1, part :: parts, state, other,
        extractions_succ_front.mpr ⟨part, next, parts, hpart, hstate, rfl⟩,
        extractions_succ_front.mpr ⟨part, last, parts, hlast, hother, rfl⟩, hrest⟩

/-- An extraction keeps what the stream still delivers as the last part, and no part follows. -/
structure KeepsRest (source : Source) (decoder : Decoder) (tail : Part) (after : Decoder) :
    Prop where
  nextPart?_eq : decoder.nextPart? = some (tail, after)
  filed : ReadsOn { decoder.withPart tail with phase := .exhausted } after
  unended : tail.Unended decoder.delimiter (delivered source after)
  reportsEnd : source.ReportsEndAt (delivered source after).length

theorem keepsRest_of_runsOut {source : Source} {fresh : Decoder} {settings : Settings} {tail : Part}
    {start : Cursor} (hunread : Unread source settings fresh) (hleads : Leads fresh.cursor a.cursor)
    (hpart : a.nextPart? = some (tail, after)) (hphase : after.phase = .exhausted)
    (hstart : Leads a.cursor start) (hoffset : tail.offset = start.position)
    (h : RunsOut a.delimiter start tail.data after.cursor) : KeepsRest source a tail after := by
  obtain ⟨passed, hpasses⟩ := hleads.trans hstart
  obtain ⟨before, ended, hreads, hend, hnone, hcursor⟩ := h
  obtain ⟨-, hahead, idle, hidle, hrest⟩ := Cursor.passes_of_next_none hend
  have hread := hpasses.trans hreads
  have hall := (hread.trans hrest).trans (Cursor.passes_clearMark ended)
  rw [← hcursor] at hall
  have hdelivered := delivered_eq hunread.source_eq hunread.ahead_eq hall
  have hreport := Cursor.reportsEndAt_of_next_none hunread.ahead_eq hread hend
  have hempty : after.cursor.ahead = [] := by
    rw [hcursor]
    exact hahead
  simp only [Moment.bytes_append, hidle, Moment.bytes_map_byte, List.append_nil,
    hempty] at hdelivered hreport
  rw [hunread.source_eq] at hreport
  refine ⟨hpart, ?_, ?_, ?_⟩
  · rw [← hphase]
    exact (nextPart?_files hpart).1
  · rw [hdelivered]
    refine Part.unended_of_split ?_ hnone
    rw [hoffset, hpasses.position_eq, hunread.position_eq, Nat.zero_add]
  · rw [hdelivered]
    exact hreport

/-- A query fails in a strict decoder with an extraction that a lenient one comes to as well. What
the lenient one makes of this extraction decides its answer. -/
def Lenient (source : Source) (limit : Nat) (query : Query) (strict lenient : Decoder)
    (error : Error) (failed : Decoder) : Prop :=
  ∃ n parts state other, strict.extractions n = some (parts, state) ∧
    state.advance = .error error failed ∧ lenient.extractions n = some (parts, other) ∧
    Relents limit error failed (fun _ after => ∃ tail, KeepsRest source other tail after)
      other.advance ∧
    query.ask lenient =
      match other.advance with
      | .error error after => .error error after
      | .ok () after => .ok (query.reply after) after

theorem lenient_ask {source : Source} {fresh twin : Decoder} {queries : List Query} {query : Query}
    (hstrict : first.allowUnterminatedFinalPart = false)
    (hfresh : Unread source first fresh) (htwin : Unread source first.lenient twin)
    (h : Follows delimiter first first.lenient (· = ·) fresh twin)
    (hok : ∀ answer ∈ fresh.answers queries, answer.isOk)
    (hask : query.ask (fresh.after queries) = .error error failed) :
    Lenient source first.maxPartSize query (fresh.after queries) (twin.after queries) error
      failed := by
  have hF : Cursor.Following delimiter first first.lenient (fun _ _ => True) (· = ·) :=
    Cursor.bisimulation_eq.following delimiter first.loosens_lenient
  obtain ⟨_, hextracted⟩ := extractions_after hfresh.count_eq hok
  have hphase := phase_ne_failed_of_extractions (by simp [hfresh.phase_eq]) hextracted
  obtain ⟨n, parts, state, other, hstate, hother, hfollows, hopen, hadvance, hread⟩ :=
    (follows_after hF h hok trivial).1.advanceUntil_error hF hphase (ask_error_iff.mp hask)
  have hleads : Leads twin.cursor other.cursor := by
    have hmeets : Meets twin.delimiter (Leads twin.cursor) twin := ⟨rfl, .refl _⟩
    have hinvariant := (Cursor.kept_leads twin.cursor).invariant twin.delimiter
    exact ((hmeets.reached hinvariant (reached_after twin queries)).extractions hinvariant
      hother).cursor
  have hrelents := relents_advance hstrict hfollows hopen hadvance
  refine ⟨n, parts, state, other, hstate, hadvance, hother, ?_, ?_⟩
  · generalize hresult : other.advance = result at hrelents ⊢
    cases hrelents with
    | same herror hview => exact .same herror hview
    | tooLong herror => exact .tooLong herror
    | kept herror hkept =>
        obtain ⟨tail, hpart, hend, start, hstart, hoffset, hrunsOut⟩ := hkept
        rw [← hfollows.twin_delimiter_eq] at hrunsOut
        exact .kept herror
          ⟨tail, keepsRest_of_runsOut htwin hleads hpart hend hstart hoffset hrunsOut⟩
  · rw [query.ask_eq, hread]
    generalize hresult : other.advance = result at hrelents ⊢
    cases hrelents with
    | same _ _ => rfl
    | tooLong _ => rfl
    | kept _ hkept =>
        obtain ⟨_, -, hend, -⟩ := hkept
        simp only
        rw [advanceUntil_of_stopsAt (by simp [stopsAt, isDone, hend, Phase.isDone])]

/-- Settings that are looser change no answer and nothing that can be seen, up to the first query
that fails under the tighter ones. If the looser ones only allow the last part to end with the
stream, that query fails in the same way, but where the delimiter of a part is missing: there the
rest of the stream is kept as the last part, or is too long. -/
theorem looser_settings {source : Source} {text : String} {strict : Settings} {fresh : Decoder}
    (hnew : ofSource source text strict = .ok fresh) :
    (∀ loose, strict.Loosens loose →
      source.Steady ∨ strict.readBufferSize = loose.readBufferSize →
      ∃ twin, ofSource source text loose = .ok twin ∧
        ∀ queries, (fresh.transcript queries).takeWhile (fun shown => shown.1.isOk) <+:
          twin.transcript queries) ∧
    (strict.allowUnterminatedFinalPart = false →
      ∃ twin, ofSource source text strict.lenient = .ok twin ∧
        ∀ queries query error failed, (∀ answer ∈ fresh.answers queries, answer.isOk) →
          query.ask (fresh.after queries) = .error error failed →
          Lenient source strict.maxPartSize query (fresh.after queries) (twin.after queries) error
            failed) := by
  constructor
  · intro loose hloosens hsource
    obtain ⟨R, hR, hcursors⟩ := Cursor.exists_bisimulation hsource
    obtain ⟨twin, htwin, hfollows⟩ := follows_ofSource hnew hcursors
    exact ⟨twin, htwin, hfollows.transcript_prefix (hR.following fresh.delimiter hloosens)⟩
  · intro hstrict
    have hcursors : ∀ least, Cursor.ofSource source (max strict.readBufferSize least) =
        Cursor.ofSource source (max strict.lenient.readBufferSize least) := fun _ => rfl
    obtain ⟨twin, htwin, hfollows⟩ := follows_ofSource hnew hcursors
    refine ⟨twin, htwin, fun queries query error failed hok hask => ?_⟩
    exact lenient_ask hstrict (unread_ofSource hnew) (unread_ofSource htwin) hfollows hok hask

/-- A root and an attachment that ends with the stream, read three bytes at a time. -/
def trickling : Source :=
  .ofPlan (Text.Utf8.encode "--B\n\nroot\r\n--B\nContent-Id: a\n\n-\r\n--".toList)
    [⟨20, .interruption, 1⟩] (some 3)

theorem looser_settings_open_ended :
    ∃ fresh failed error, ofSource trickling "multipart/mixed; boundary=B" = .ok fresh ∧
      Query.attachments.ask (fresh.after [.root]) = .error error failed ∧ error.isUnendedPart ∧
      (∃ twin, ofSource trickling "multipart/mixed; boundary=B"
          { maxPartSize := maxWord, readBufferSize := 1 } = .ok twin ∧
        (fresh.transcript [.root, .attachments]).takeWhile (fun shown => shown.1.isOk) <+:
          twin.transcript [.root, .attachments]) ∧
      ∃ twin, ofSource trickling "multipart/mixed; boundary=B" (Settings.lenient {}) = .ok twin ∧
        Lenient trickling (Settings.maxPartSize {}) .attachments (fresh.after [.root])
          (twin.after [.root]) error failed := by
  obtain ⟨fresh, hnew, hcheck⟩ := exists_of_any trickling "multipart/mixed; boundary=B" {}
    (fun fresh => (fresh.answers [.root]).all Except.isOk &&
      match Query.attachments.ask (fresh.after [.root]) with
      | .error error _ => error.isUnendedPart
      | .ok _ _ => false) (by decide +kernel)
  rw [Bool.and_eq_true] at hcheck
  cases hask : Query.attachments.ask (fresh.after [.root]) with
  | ok reply after => simp [hask] at hcheck
  | error error failed =>
      rw [hask] at hcheck
      obtain ⟨hlooser, hlenient⟩ := looser_settings hnew
      obtain ⟨twin, htwin, hprefix⟩ := hlooser
        { maxPartSize := maxWord, readBufferSize := 1 } ⟨by decide, Nat.le_refl _, id⟩
        (.inl (Source.steady_ofPlan _ _ _))
      obtain ⟨other, hother, hfails⟩ := hlenient rfl
      exact ⟨fresh, failed, error, hnew, hask, hcheck.2, ⟨twin, htwin, hprefix _⟩, other, hother,
        hfails [.root] .attachments error failed (List.all_eq_true.mp hcheck.1) hask⟩

end Decoder

end Multipart
