import Multipart.Proofs.Decoder.Run
import Multipart.Proofs.Header.Lines
import Multipart.Proofs.Scan.Bisimulation

/-! # Decoders and bisimulations

Decoders are alike when their cursors are related and they agree on all that decides and records
what they do. Every operation keeps them so. -/

namespace Multipart

open Cursor (Bisimulation)
open Result (Related)

/-- The limits and the leniency are the same; the sizes of the buffers may differ. -/
structure Settings.SameLimits (first second : Settings) : Prop where
  maxPartSize_eq : first.maxPartSize = second.maxPartSize
  maxHeaderSize_eq : first.maxHeaderSize = second.maxHeaderSize
  allowUnterminatedFinalPart_eq :
    first.allowUnterminatedFinalPart = second.allowUnterminatedFinalPart

/-- Two decoders differ at most in their cursors and settings, which are related, and in what they
have reported. -/
def Decoder.Alike (S : Settings → Settings → Prop) (R : Cursor → Cursor → Prop) (a b : Decoder) :
    Prop :=
  ∃ cursor settings log, b = { a with cursor, settings, log } ∧ R a.cursor cursor ∧
    S a.settings settings

namespace Decoder

open Settings (SameLimits)

variable {S : Settings → Settings → Prop} {R : Cursor → Cursor → Prop} {a b : Decoder}

theorem Alike.record (h : Alike S R a b) (event other : Event) :
    Alike S R (a.record event) (b.record other) := by
  obtain ⟨cursor, settings, log, rfl, hR, hsettings⟩ := h
  exact ⟨cursor, settings, log.push other, rfl, hR, hsettings⟩

theorem Alike.withPhase (h : Alike S R a b) (phase : Phase) :
    Alike S R { a with phase } { b with phase } := by
  obtain ⟨cursor, settings, log, rfl, hR, hsettings⟩ := h
  exact ⟨cursor, settings, log, rfl, hR, hsettings⟩

theorem Alike.withPart (h : Alike S R a b) (part : Part) :
    Alike S R (a.withPart part) (b.withPart part) := by
  obtain ⟨cursor, settings, log, rfl, hR, hsettings⟩ := h
  exact ⟨cursor, settings, log, rfl, hR, hsettings⟩

theorem Alike.cursor (h : Alike S R a b) : R a.cursor b.cursor := by
  obtain ⟨_, _, _, rfl, hcursor, -⟩ := h
  exact hcursor

theorem Alike.of_readsOn {x y : Decoder} (h : Alike S R a b) (hx : ReadsOn a x) (hy : ReadsOn b y)
    (hcursor : R x.cursor y.cursor) : Alike S R x y := by
  obtain ⟨cursor, log, rfl⟩ := hx
  obtain ⟨other, report, rfl⟩ := hy
  obtain ⟨_, settings, _, rfl, -, hsettings⟩ := h
  exact ⟨other, settings, report, rfl, hcursor, hsettings⟩

theorem Alike.file (h : Alike S R a b) (part : Part) : Alike S R (a.file part) (b.file part) := by
  refine (h.withPart part).of_readsOn (file_readsOn a part) (file_readsOn b part) ?_
  rw [cursor_file, cursor_file]
  exact h.cursor

theorem Alike.keep (h : Alike S R a b) (part : Part) (phase : Phase) :
    Alike S R (a.keep part phase) (b.keep part phase) :=
  ((h.record _ _).file part).withPhase phase

theorem Alike.phase_eq (h : Alike S R a b) : b.phase = a.phase := by
  obtain ⟨_, _, _, rfl, -, -⟩ := h
  rfl

theorem Alike.delimiter_eq (h : Alike S R a b) : b.delimiter = a.delimiter := by
  obtain ⟨_, _, _, rfl, -, -⟩ := h
  rfl

theorem Alike.settings (h : Alike S R a b) : S a.settings b.settings := by
  obtain ⟨_, _, _, rfl, -, hsettings⟩ := h
  exact hsettings

theorem Alike.position_eq (hR : Bisimulation R) (h : Alike S R a b) : a.position = b.position := by
  obtain ⟨cursor, _, _, rfl, hcursor, -⟩ := h
  exact hR.position_eq hcursor

/-! ## Operations -/

theorem related_scan (hR : Bisimulation R) (h : Alike S R a b) (body : Option Body) :
    Related (Alike S R) (a.scan body) (b.scan body) := by
  obtain ⟨cursor, settings, log, rfl, hcursor, hsettings⟩ := h
  have hfind := Scan.alike_find hR hcursor a.delimiter body
  simp only [scan, ← hfind.outcome_eq, ← hfind.matched_eq, ← hfind.body_eq]
  cases (Scan.find a.delimiter a.cursor body).outcome with
  | error error =>
      cases (Scan.find a.delimiter a.cursor body).matched <;>
        exact .error ⟨_, settings, _, rfl, hfind.cursor, hsettings⟩
  | ok outcome =>
      cases (Scan.find a.delimiter a.cursor body).matched <;>
        exact .ok ⟨_, settings, _, rfl, hfind.cursor, hsettings⟩

theorem related_skipPreamble (hR : Bisimulation R) (h : Alike S R a b) :
    Related (Alike S R) a.skipPreamble b.skipPreamble := by
  have hscan := related_scan hR h none
  simp only [skipPreamble]
  generalize a.scan none = first at hscan
  generalize b.scan none = second at hscan
  cases hscan with
  | error hafter => exact .error hafter
  | @ok found x y hafter =>
      obtain ⟨outcome, body⟩ := found
      cases outcome with
      | ended place => exact .error hafter
      | found kind =>
          cases kind with
          | opening => exact .ok (hafter.record _ _)
          | closing =>
              simp only [hafter.position_eq hR]
              exact .error hafter

theorem related_start (hR : Bisimulation R) (h : Alike S R a b) :
    Related (Alike S R) a.start b.start := by
  have hskip := related_skipPreamble hR h
  simp only [start, h.phase_eq]
  cases a.phase with
  | fresh =>
      generalize a.skipPreamble = first at hskip
      generalize b.skipPreamble = second at hskip
      cases hskip with
      | error hafter => exact .error hafter
      | ok hafter => exact .ok (hafter.withPhase .scanning)
  | scanning | closed | exhausted | failed => exact .ok h

theorem related_readHeaders (hR : Bisimulation R)
    (hS : ∀ {first second}, S first second → first.maxHeaderSize = second.maxHeaderSize)
    (h : Alike S R a b) :
    Related (Alike S R) a.readHeaders b.readHeaders := by
  obtain ⟨cursor, settings, log, rfl, hcursor, hsettings⟩ := h
  have hblock := Header.related_readBlock hR hcursor a.settings.maxHeaderSize
  simp only [readHeaders, ← hS hsettings]
  generalize Header.readBlock a.settings.maxHeaderSize a.cursor = first at hblock
  generalize Header.readBlock a.settings.maxHeaderSize cursor = second at hblock
  cases hblock with
  | error hafter => exact .error ⟨_, settings, log, rfl, hafter, hsettings⟩
  | ok hafter => exact .ok ⟨_, settings, log, rfl, hafter, hsettings⟩

theorem related_endWithStream (hR : Bisimulation R) (h : Alike SameLimits R a b) (offset : Nat)
    (body : Body) :
    Related (Alike SameLimits R) (a.endWithStream offset body) (b.endWithStream offset body) := by
  have hposition := h.position_eq hR
  have hallowed : b.settings.allowUnterminatedFinalPart =
      a.settings.allowUnterminatedFinalPart := by
    obtain ⟨_, _, _, rfl, -, hlimits⟩ := h
    exact hlimits.allowUnterminatedFinalPart_eq.symm
  simp only [endWithStream, hallowed, hposition]
  by_cases hallow : a.settings.allowUnterminatedFinalPart
  · simp only [hallow, ite_true]
    cases body.checkLimit with
    | error error => exact .error h
    | ok _ => exact .ok (h.record _ _)
  · simp only [hallow, Bool.false_eq_true, ite_false]
    exact .error h

theorem related_readBody (hR : Bisimulation R) (h : Alike SameLimits R a b) (offset : Nat) :
    Related (Alike SameLimits R) (a.readBody offset) (b.readBody offset) := by
  have hlimit : b.settings.maxPartSize = a.settings.maxPartSize := by
    obtain ⟨_, _, _, rfl, -, hlimits⟩ := h
    exact hlimits.maxPartSize_eq.symm
  have hscan := related_scan hR h (some (Body.empty a.settings.maxPartSize))
  simp only [readBody, hlimit]
  generalize a.scan (some (Body.empty a.settings.maxPartSize)) = first at hscan
  generalize b.scan (some (Body.empty a.settings.maxPartSize)) = second at hscan
  cases hscan with
  | error hafter => exact .error hafter
  | @ok found x y hafter =>
      obtain ⟨outcome, body⟩ := found
      cases outcome with
      | found kind => cases kind <;> exact .ok hafter
      | ended place =>
          have hend := related_endWithStream hR hafter offset
            (body.getD (Body.empty a.settings.maxPartSize))
          simp only
          generalize x.endWithStream offset
            (body.getD (Body.empty a.settings.maxPartSize)) = third at hend
          generalize y.endWithStream offset
            (body.getD (Body.empty a.settings.maxPartSize)) = fourth at hend
          cases hend with
          | error hlast => exact .error hlast
          | ok hlast => exact .ok hlast

theorem related_readPart (hR : Bisimulation R) (h : Alike SameLimits R a b) :
    Related (Alike SameLimits R) a.readPart b.readPart := by
  have hheaders := related_readHeaders hR (·.maxHeaderSize_eq) h
  simp only [readPart]
  generalize a.readHeaders = first at hheaders
  generalize b.readHeaders = second at hheaders
  cases hheaders with
  | error hafter => exact .error hafter
  | @ok headers x y hafter =>
      have hbody := related_readBody hR hafter x.position
      simp only [← hafter.position_eq hR]
      generalize x.readBody x.position = third at hbody
      generalize y.readBody x.position = fourth at hbody
      cases hbody with
      | error hlast => exact .error hlast
      | ok hlast => exact .ok hlast

theorem related_extract (hR : Bisimulation R) (h : Alike SameLimits R a b) :
    Related (Alike SameLimits R) a.extract b.extract := by
  have hstart := related_start hR h
  simp only [extract]
  generalize a.start = first at hstart
  generalize b.start = second at hstart
  cases hstart with
  | error hafter => exact .error hafter
  | @ok _ x y hafter =>
      have hpart := related_readPart hR hafter
      simp only
      generalize x.readPart = third at hpart
      generalize y.readPart = fourth at hpart
      cases hpart with
      | error hlast => exact .error hlast
      | @ok found x y hlast =>
          obtain ⟨part, phase⟩ := found
          exact .ok (hlast.keep part phase)

theorem related_advance (hR : Bisimulation R) (h : Alike SameLimits R a b) :
    Related (Alike SameLimits R) a.advance b.advance := by
  have hextract := related_extract hR h
  simp only [advance]
  generalize a.extract = first at hextract
  generalize b.extract = second at hextract
  cases hextract with
  | ok hafter => exact .ok hafter
  | error hafter => exact .error ((hafter.record _ _).withPhase .failed)

/-! ## Queries -/

theorem Alike.isSettled_eq (h : Alike S R a b) (query : Query) :
    query.isSettled b = query.isSettled a := by
  obtain ⟨_, _, _, rfl, -, -⟩ := h
  cases query <;> rfl

theorem Alike.reply_eq (h : Alike S R a b) (query : Query) : query.reply b = query.reply a := by
  obtain ⟨_, _, _, rfl, -, -⟩ := h
  cases query <;> rfl

theorem related_advanceUntil (hR : Bisimulation R) (h : Alike SameLimits R a b)
    (query : Query) :
    Related (Alike SameLimits R) (a.advanceUntil query.isSettled)
      (b.advanceUntil query.isSettled) := by
  induction a using advanceUntil_induction query.isSettled generalizing b with
  | stop a hstop =>
      have hother : stopsAt query.isSettled b := by
        simpa [stopsAt, isDone, h.isSettled_eq query, h.phase_eq] using hstop
      rw [advanceUntil_of_stopsAt hstop, advanceUntil_of_stopsAt hother]
      exact .ok h
  | unusable a hcondition hphase =>
      rw [advanceUntil_of_failed hcondition hphase,
        advanceUntil_of_failed ((h.isSettled_eq query).trans hcondition)
          (h.phase_eq.trans hphase)]
      exact .error h
  | failure a error after hcondition hopen hadvance =>
      obtain ⟨other, hother, hafter⟩ := (hadvance ▸ related_advance hR h).of_error
      rw [advanceUntil_of_isOpen hcondition hopen, hadvance,
        advanceUntil_of_isOpen ((h.isSettled_eq query).trans hcondition) (h.phase_eq ▸ hopen),
        hother]
      exact .error hafter
  | step a part after hcondition hopen hpart ih =>
      have hadvance := (advance_eq_ok_iff hopen).mpr ⟨part, hpart⟩
      obtain ⟨other, hother, hafter⟩ := (hadvance ▸ related_advance hR h).of_ok
      rw [advanceUntil_of_nextPart? hcondition hpart,
        advanceUntil_of_isOpen ((h.isSettled_eq query).trans hcondition) (h.phase_eq ▸ hopen),
        hother]
      exact ih hafter

theorem related_ask (hR : Bisimulation R) (h : Alike SameLimits R a b) (query : Query) :
    Related (Alike SameLimits R) (query.ask a) (query.ask b) := by
  have hread := related_advanceUntil hR h query
  rw [query.ask_eq, query.ask_eq]
  generalize a.advanceUntil query.isSettled = first at hread
  generalize b.advanceUntil query.isSettled = second at hread
  cases hread with
  | error hafter => exact .error hafter
  | ok hafter =>
      simp only [hafter.reply_eq query]
      exact .ok hafter

/-! ## Moving on -/

theorem alike_ahead (decoder : Decoder) :
    Alike SameLimits (Cursor.Ahead decoder.cursor) decoder decoder :=
  ⟨_, _, _, rfl, .refl decoder.cursor, rfl, rfl, rfl⟩

theorem Alike.leads {start : Cursor} (h : Alike S (Cursor.Ahead start) a b) :
    Cursor.Leads start a.cursor := by
  obtain ⟨_, _, _, -, hahead, -⟩ := h
  exact hahead.2

theorem leads_start (decoder : Decoder) :
    Cursor.Leads decoder.cursor (Result.state decoder.start).cursor :=
  (related_start (Cursor.bisimulation_ahead _) (alike_ahead decoder)).state.leads

theorem leads_readHeaders (decoder : Decoder) :
    Cursor.Leads decoder.cursor (Result.state decoder.readHeaders).cursor :=
  (related_readHeaders (Cursor.bisimulation_ahead _) (·.maxHeaderSize_eq)
    (alike_ahead decoder)).state.leads

theorem leads_readPart (decoder : Decoder) :
    Cursor.Leads decoder.cursor (Result.state decoder.readPart).cursor :=
  (related_readPart (Cursor.bisimulation_ahead _) (alike_ahead decoder)).state.leads

theorem leads_ask (query : Query) (decoder : Decoder) :
    Cursor.Leads decoder.cursor (Result.state (query.ask decoder)).cursor :=
  (related_ask (Cursor.bisimulation_ahead _) (alike_ahead decoder) query).state.leads

theorem leads_advance (decoder : Decoder) :
    Cursor.Leads decoder.cursor (Result.state decoder.advance).cursor :=
  (related_advance (Cursor.bisimulation_ahead _) (alike_ahead decoder)).state.leads

end Decoder

end Multipart
