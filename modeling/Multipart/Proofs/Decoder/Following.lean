import Multipart.Proofs.Decoder.Progress
import Multipart.Proofs.Decoder.Seams
import Multipart.Proofs.Scan.Limit

/-! # Decoders that follow another one

A decoder follows another one when it does what that one does as long as it succeeds. Its limits may
be looser, and it need not follow to everywhere: a condition on the phase and the cursor says where
the other one has to end up. What holds of scans and header blocks then holds of whole runs. -/

namespace Multipart

open Cursor (Leads)

/-- The limits are no tighter, and a part may end with the stream where it may before. -/
structure Settings.Loosens (first second : Settings) : Prop where
  maxPartSize_le : first.maxPartSize ≤ second.maxPartSize
  maxHeaderSize_le : first.maxHeaderSize ≤ second.maxHeaderSize
  allowed : first.allowUnterminatedFinalPart → second.allowUnterminatedFinalPart

/-- From related cursors scans and header blocks that succeed under the first settings do the same
under the second, if they end up where `Good` holds. -/
structure Cursor.Following (delimiter : Delimiter) (first second : Settings)
    (Good : Phase → Cursor → Prop) (R : Cursor → Cursor → Prop) : Prop where
  loosens : first.Loosens second
  position_eq : ∀ {a b}, R a b → a.position = b.position
  /-- What leads to a good end is good while parts may follow. -/
  good_of_leads : ∀ {phase earlier cursor after}, Good phase after → Leads cursor after →
    earlier.isOpen → Good earlier cursor
  find : ∀ {a b body other outcome}, R a b → Option.Rel Body.Loosens body other →
    (Scan.find delimiter a body).outcome = .ok outcome →
    Good outcome.phase (Scan.find delimiter a body).cursor →
    Scan.Follows R (Scan.find delimiter a body) (Scan.find delimiter b other)
  /-- A header block counts only if the body after it ends well. -/
  readBlock : ∀ {a b headers after body outcome}, R a b →
    Header.readBlock first.maxHeaderSize a = .ok headers after →
    (Scan.find delimiter after body).outcome = .ok outcome →
    Good outcome.phase (Scan.find delimiter after body).cursor →
    ∃ other, Header.readBlock second.maxHeaderSize b = .ok headers other ∧ R after other

/-- Two decoders for a delimiter differ in their cursors, which are related, their settings, which
are given, and their logs. -/
structure Decoder.Follows (delimiter : Delimiter) (first second : Settings)
    (R : Cursor → Cursor → Prop) (a b : Decoder) : Prop where
  alike : Alike (fun x y => x = first ∧ y = second) R a b
  delimiter_eq : a.delimiter = delimiter

namespace Decoder

variable {delimiter : Delimiter} {first second : Settings} {Good : Phase → Cursor → Prop}
  {R : Cursor → Cursor → Prop} {a b after : Decoder}

theorem Follows.of_readsOn {x y : Decoder} (h : Follows delimiter first second R a b)
    (hx : ReadsOn a x) (hy : ReadsOn b y) (hcursor : R x.cursor y.cursor) :
    Follows delimiter first second R x y := by
  obtain ⟨_, _, rfl⟩ := hx
  exact ⟨h.alike.of_readsOn ⟨_, _, rfl⟩ hy hcursor, h.delimiter_eq⟩

/-- What has read on from one of two decoders follows if it is alike. -/
theorem Follows.of_alike {x y : Decoder} {phase : Phase}
    (h : Follows delimiter first second R a b) (hx : ReadsOn { a with phase } x)
    (hxy : Alike (fun x y => x = first ∧ y = second) R x y) :
    Follows delimiter first second R x y := by
  obtain ⟨_, _, rfl⟩ := hx
  exact ⟨hxy, h.delimiter_eq⟩

theorem Follows.withPhase (h : Follows delimiter first second R a b) (phase : Phase) :
    Follows delimiter first second R { a with phase } { b with phase } :=
  ⟨h.alike.withPhase phase, h.delimiter_eq⟩

theorem Follows.record (h : Follows delimiter first second R a b) (event other : Event) :
    Follows delimiter first second R (a.record event) (b.record other) :=
  ⟨h.alike.record event other, h.delimiter_eq⟩

theorem Follows.twin_delimiter_eq (h : Follows delimiter first second R a b) :
    b.delimiter = delimiter :=
  h.alike.delimiter_eq.trans h.delimiter_eq

theorem Follows.settings_eq (h : Follows delimiter first second R a b) :
    a.settings = first ∧ b.settings = second :=
  h.alike.settings

/-! ## One part -/

theorem scan_of_outcome {decoder : Decoder} {body : Option Body} {outcome : Outcome}
    (h : (Scan.find decoder.delimiter decoder.cursor body).outcome = .ok outcome) :
    ∃ log, decoder.scan body =
      .ok (outcome, (Scan.find decoder.delimiter decoder.cursor body).body)
        { decoder with cursor := (Scan.find decoder.delimiter decoder.cursor body).cursor, log } :=
  scan_eq_of_find (by rw [← h])

theorem Follows.scan {body other left : Option Body} {outcome : Outcome}
    (hF : Cursor.Following delimiter first second Good R)
    (h : Follows delimiter first second R a b) (hbody : Option.Rel Body.Loosens body other)
    (hscan : a.scan body = .ok (outcome, left) after) (hgood : Good outcome.phase after.cursor) :
    ∃ rest last, b.scan other = .ok (outcome, rest) last ∧ Option.Rel Body.Loosens left rest ∧
      Follows delimiter first second R after last := by
  obtain ⟨hfind, rfl, hcursor⟩ := scan_ok hscan
  have hreads := scan_readsOn a body
  have hother := scan_readsOn b other
  rw [hcursor] at hgood
  rw [h.delimiter_eq] at hfind hgood hcursor ⊢
  have hfollows := hF.find h.alike.cursor hbody hfind hgood
  have houtcome : (Scan.find b.delimiter b.cursor other).outcome = .ok outcome := by
    rw [h.twin_delimiter_eq, hfollows.outcome_eq, hfind]
  obtain ⟨log, hlast⟩ := scan_of_outcome houtcome
  rw [h.twin_delimiter_eq] at hlast
  rw [hscan, Result.state_ok] at hreads
  rw [hlast, Result.state_ok] at hother
  exact ⟨_, _, hlast, hfollows.body, h.of_readsOn hreads hother (hcursor ▸ hfollows.cursor)⟩

theorem Follows.start {started : Decoder} (hF : Cursor.Following delimiter first second Good R)
    (h : Follows delimiter first second R a b) (hstart : a.start = .ok () started)
    (hgood : Good .scanning started.cursor) :
    ∃ last, b.start = .ok () last ∧ Follows delimiter first second R started last := by
  simp only [Decoder.start, h.alike.phase_eq] at hstart ⊢
  cases hphase : a.phase with
  | fresh =>
      simp only [hphase] at hstart ⊢
      split at hstart
      · cases hstart
      · rename_i skipped hskip
        cases hstart
        simp only [skipPreamble] at hskip
        split at hskip
        · cases hskip
        · rename_i hscan
          cases hskip
          obtain ⟨_, last, hlast, -, hfollows⟩ := h.scan hF .none hscan hgood
          simp only [skipPreamble, hlast]
          exact ⟨_, rfl, (hfollows.record _ _).withPhase .scanning⟩
        · cases hskip
        · cases hskip
  | scanning | closed | exhausted | failed =>
      simp only [hphase] at hstart ⊢
      cases hstart
      exact ⟨b, rfl, h⟩

theorem Follows.endWithStream {offset : Nat} {body other : Body} {phase : Phase}
    (hloosens : first.Loosens second) (h : Follows delimiter first second R a b)
    (hbody : Body.Loosens body other) (hend : a.endWithStream offset body = .ok phase after) :
    ∃ last, b.endWithStream offset other = .ok phase last ∧
      Follows delimiter first second R after last := by
  simp only [Decoder.endWithStream] at hend ⊢
  split at hend
  · rename_i hallowed
    cases hlimit : body.checkLimit with
    | error error => simp [hlimit] at hend
    | ok _ =>
        rw [hlimit] at hend
        cases hend
        rw [h.settings_eq.1] at hallowed
        rw [h.settings_eq.2, if_pos (hloosens.allowed hallowed), hbody.checkLimit hlimit]
        exact ⟨_, rfl, h.record _ _⟩
  · cases hend

theorem Follows.readBody {offset : Nat} {data : List UInt8} {phase : Phase}
    (hF : Cursor.Following delimiter first second Good R)
    (h : Follows delimiter first second R a b)
    (hread : a.readBody offset = .ok (data, phase) after) (hgood : Good phase after.cursor) :
    ∃ last, b.readBody offset = .ok (data, phase) last ∧
      Follows delimiter first second R after last := by
  have hempty : Body.Loosens (Body.empty a.settings.maxPartSize)
      (Body.empty b.settings.maxPartSize) := by
    refine ⟨rfl, ?_⟩
    rw [h.settings_eq.1, h.settings_eq.2]
    exact hF.loosens.maxPartSize_le
  obtain ⟨found, hfind, hphase, hcursor⟩ := readBody_eq_ok hread
  simp only [Decoder.readBody] at hread ⊢
  split at hread
  · cases hread
  · rename_i outcome left scanned hscan
    obtain ⟨hfound, -, hscanned⟩ := scan_ok hscan
    cases hfind.symm.trans hfound
    rw [hcursor, ← hscanned, ← hphase] at hgood
    obtain ⟨rest, last, hlast, hbody, hfollows⟩ := h.scan hF (.some hempty) hscan hgood
    have hgetD : Body.Loosens (left.getD (Body.empty a.settings.maxPartSize))
        (rest.getD (Body.empty b.settings.maxPartSize)) := by
      cases hbody with
      | none => exact hempty
      | some hbody => exact hbody
    simp only [hlast]
    split at hread
    · cases hread
      exact ⟨last, by rw [hgetD.bytes_eq], hfollows⟩
    · cases hread
      exact ⟨last, by rw [hgetD.bytes_eq], hfollows⟩
    · split at hread
      · cases hread
      · rename_i hend
        cases hread
        obtain ⟨ended, hended, hfollows⟩ := hfollows.endWithStream hF.loosens hgetD hend
        simp only [hended, hgetD.bytes_eq]
        exact ⟨ended, rfl, hfollows⟩

theorem readHeaders_eq_ok {headers : List Header} (h : a.readHeaders = .ok headers after) :
    ∃ cursor, Header.readBlock a.settings.maxHeaderSize a.cursor = .ok headers cursor ∧
      after = { a with cursor } := by
  simp only [readHeaders] at h
  split at h
  · cases h
  · rename_i hblock
    cases h
    exact ⟨_, hblock, rfl⟩

theorem Follows.readPart {part : Part} {phase : Phase}
    (hF : Cursor.Following delimiter first second Good R)
    (h : Follows delimiter first second R a b) (hread : a.readPart = .ok (part, phase) after)
    (hgood : Good phase after.cursor) :
    ∃ last, b.readPart = .ok (part, phase) last ∧
      Follows delimiter first second R after last := by
  obtain ⟨headers, between, hheaders, hpart, hbody⟩ := readPart_ok_iff.mp hread
  obtain ⟨cursor, hblock, rfl⟩ := readHeaders_eq_ok hheaders
  -- the block may be read alike because the body after it ends well
  obtain ⟨outcome, hfind, hphase, hcursor⟩ := readBody_eq_ok hbody
  have hend := hgood
  rw [hcursor, ← hphase, h.delimiter_eq] at hend
  rw [h.delimiter_eq] at hfind
  rw [h.settings_eq.1] at hblock
  obtain ⟨other, hother, hR⟩ := hF.readBlock h.alike.cursor hblock hfind hend
  have hfollows : Follows delimiter first second R { a with cursor } { b with cursor := other } :=
    h.of_readsOn ⟨cursor, a.log, rfl⟩ ⟨other, b.log, rfl⟩ hR
  obtain ⟨last, hlast, hfollows⟩ := hfollows.readBody hF hbody hgood
  have hposition : position { b with cursor := other } = position { a with cursor } :=
    (hF.position_eq hR).symm
  rw [← h.settings_eq.2] at hother
  refine ⟨last, readPart_ok_iff.mpr ⟨headers, { b with cursor := other }, ?_, ?_, ?_⟩, hfollows⟩
  · simp only [Decoder.readHeaders, hother]
  · rw [hposition]
    exact hpart
  · rw [hposition]
    exact hlast

/-- The next part is the same, if it ends well. -/
theorem Follows.nextPart? {part : Part} (hF : Cursor.Following delimiter first second Good R)
    (h : Follows delimiter first second R a b) (hpart : a.nextPart? = some (part, after))
    (hgood : Good after.phase after.cursor) :
    ∃ last, b.nextPart? = some (part, last) ∧ Follows delimiter first second R after last := by
  obtain ⟨hopen, started, phase, read, hstart, hread, rfl⟩ := nextPart?_eq_some_iff.mp hpart
  have hleads := leads_readPart started
  rw [hread, Result.state_ok] at hleads
  rw [cursor_keep] at hgood
  obtain ⟨ready, hready, hfollows⟩ := h.start hF hstart (hF.good_of_leads hgood hleads rfl)
  obtain ⟨last, hlast, hfollows⟩ := hfollows.readPart hF hread hgood
  exact ⟨last.keep part phase,
    nextPart?_eq_some_iff.mpr ⟨h.alike.phase_eq ▸ hopen, ready, phase, last, hready, hlast, rfl⟩,
    hfollows.alike.keep part phase, (setting_of_nextPart? hpart).1.trans h.delimiter_eq⟩

/-! ## Queries -/

theorem Follows.view_eq (hF : Cursor.Following delimiter first second Good R)
    (h : Follows delimiter first second R a b) : b.view = a.view := by
  have hposition : b.position = a.position := (hF.position_eq h.alike.cursor).symm
  obtain ⟨⟨_, _, _, rfl, -, -⟩, -⟩ := h
  simp only [view, hposition]

/-- Where a query leaves a decoder well, the decoder was well before. -/
theorem good_of_ask (hF : Cursor.Following delimiter first second Good R) (query : Query)
    (hgood : Good (Result.state (query.ask a)).phase (Result.state (query.ask a)).cursor) :
    Good a.phase a.cursor := by
  by_cases hopen : a.phase.isOpen
  · exact hF.good_of_leads hgood (leads_ask query a) hopen
  · rwa [state_ask_of_not_isOpen hopen] at hgood

theorem Follows.advanceUntil {query : Query}
    (hF : Cursor.Following delimiter first second Good R)
    (h : Follows delimiter first second R a b)
    (hread : a.advanceUntil query.isSettled = .ok () after)
    (hgood : Good after.phase after.cursor) :
    ∃ last, b.advanceUntil query.isSettled = .ok () last ∧
      Follows delimiter first second R after last := by
  induction a using advanceUntil_induction query.isSettled generalizing b with
  | stop a hstop =>
      rw [advanceUntil_of_stopsAt hstop] at hread
      cases hread
      have hother : stopsAt query.isSettled b := by
        simpa [stopsAt, isDone, h.alike.isSettled_eq query, h.alike.phase_eq] using hstop
      exact ⟨b, advanceUntil_of_stopsAt hother, h⟩
  | unusable a hcondition hphase =>
      rw [advanceUntil_of_failed hcondition hphase] at hread
      cases hread
  | failure a error failed hcondition hopen hadvance =>
      rw [advanceUntil_of_isOpen hcondition hopen, hadvance] at hread
      cases hread
  | step a part next hcondition hopen hpart ih =>
      rw [advanceUntil_of_nextPart? hcondition hpart] at hread
      have hstate : Result.state (query.ask next) = after := by
        rw [state_ask, hread, Result.state_ok]
      have hnext := good_of_ask hF query (hstate.symm ▸ hgood)
      obtain ⟨other, hother, hfollows⟩ := h.nextPart? hF hpart hnext
      rw [advanceUntil_of_nextPart? ((h.alike.isSettled_eq query).trans hcondition) hother]
      exact ih hfollows hread

theorem Follows.ask {query : Query} {reply : Reply}
    (hF : Cursor.Following delimiter first second Good R)
    (h : Follows delimiter first second R a b) (hask : query.ask a = .ok reply after)
    (hgood : Good after.phase after.cursor) :
    ∃ last, query.ask b = .ok reply last ∧ Follows delimiter first second R after last := by
  obtain ⟨hread, rfl⟩ := ask_ok_iff.mp hask
  obtain ⟨last, hlast, hfollows⟩ := h.advanceUntil hF hread hgood
  exact ⟨last, ask_ok_iff.mpr ⟨hlast, (hfollows.alike.reply_eq query).symm⟩, hfollows⟩

/-! ## Runs -/

/-- Decoders whose cursors start related start alike. -/
theorem follows_ofSource {source other : Source} {text : String} {fresh : Decoder}
    (hnew : ofSource source text first = .ok fresh)
    (hcursors : ∀ least, R (Cursor.ofSource source (max first.readBufferSize least))
      (Cursor.ofSource other (max second.readBufferSize least))) :
    ∃ twin, ofSource other text second = .ok twin ∧
      Follows fresh.delimiter first second R fresh twin := by
  simp only [ofSource] at hnew ⊢
  cases hparse : ContentType.parse text with
  | error error => simp [hparse] at hnew
  | ok contentType =>
      rw [hparse] at hnew
      cases hnew
      exact ⟨_, rfl, ⟨_, second, _, rfl, hcursors _, rfl, rfl⟩, rfl⟩

theorem good_of_after (hF : Cursor.Following delimiter first second Good R) {queries : List Query}
    (hgood : Good (a.after queries).phase (a.after queries).cursor) : Good a.phase a.cursor := by
  induction queries generalizing a with
  | nil => exact hgood
  | cons query queries ih => exact good_of_ask hF query (ih hgood)

/-- A run without an error leads decoders that follow one another on alike, if it ends well. -/
theorem follows_after (hF : Cursor.Following delimiter first second Good R)
    (h : Follows delimiter first second R a b) {queries : List Query}
    (hok : ∀ answer ∈ a.answers queries, answer.isOk)
    (hgood : Good (a.after queries).phase (a.after queries).cursor) :
    Follows delimiter first second R (a.after queries) (b.after queries) ∧
      b.transcript queries = a.transcript queries := by
  induction queries generalizing a b with
  | nil => exact ⟨h, rfl⟩
  | cons query queries ih =>
      rw [answers, List.forall_mem_cons] at hok
      rw [Decoder.after] at hgood ⊢
      rw [Decoder.after, transcript, transcript]
      obtain ⟨reply, reached, hask⟩ := Result.exists_ok_of_isOk hok.1
      rw [hask, Result.state_ok] at hok hgood
      obtain ⟨last, hlast, hfollows⟩ := h.ask hF hask (good_of_after hF hgood)
      obtain ⟨hafter, htranscript⟩ := ih hfollows hok.2 hgood
      refine ⟨by rwa [hask, hlast], ?_⟩
      rw [hask, hlast, Result.state_ok, Result.state_ok, hfollows.view_eq hF, htranscript]
      rfl

end Decoder

end Multipart
