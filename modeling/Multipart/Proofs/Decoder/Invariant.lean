import Multipart.Proofs.Decoder.Run
import Multipart.Proofs.Header.Lines
import Multipart.Proofs.Scan.Bisimulation

/-! # Invariants of the cursor

A decoder moves its cursor only by scanning and by reading header blocks. What these two keep of a
cursor as long as they succeed, and what they leave when they fail, a whole run of queries keeps and
leaves. -/

namespace Multipart

open Result (Leaves)

/-- Scans for a delimiter and header blocks that are read keep `P` of a cursor as long as they
succeed, and leave `Q` when they fail. -/
structure Cursor.Invariant (delimiter : Delimiter) (P Q : Cursor → Prop) : Prop where
  find_ok : ∀ {cursor}, P cursor → ∀ body outcome,
    (Scan.find delimiter cursor body).outcome = .ok outcome →
    P (Scan.find delimiter cursor body).cursor
  find_error : ∀ {cursor}, P cursor → ∀ body error,
    (Scan.find delimiter cursor body).outcome = .error error →
    Q (Scan.find delimiter cursor body).cursor
  readBlock : ∀ {cursor}, P cursor → ∀ limit, Leaves P Q (Header.readBlock limit cursor)
  weaken : ∀ {cursor}, P cursor → Q cursor

/-- What reading a byte and moving the mark keep, scans and header blocks keep. -/
theorem Cursor.Kept.invariant {P : Cursor → Prop} (hP : Kept P) (delimiter : Delimiter) :
    Cursor.Invariant delimiter P P where
  find_ok := fun h body _ _ => (Scan.alike_find hP.bisimulation ⟨rfl, h⟩ delimiter body).cursor.2
  find_error := fun h body _ _ => (Scan.alike_find hP.bisimulation ⟨rfl, h⟩ delimiter body).cursor.2
  readBlock := by
    intro cursor h limit
    have hblock := Header.related_readBlock hP.bisimulation ⟨rfl, h⟩ limit
    generalize Header.readBlock limit cursor = result at hblock
    cases hblock with
    | ok hafter => exact .ok hafter.2
    | error hafter => exact .error hafter.2
  weaken := id

namespace Decoder

/-- The cursor of a decoder for a delimiter satisfies a condition. -/
structure Meets (delimiter : Delimiter) (P : Cursor → Prop) (decoder : Decoder) : Prop where
  delimiter_eq : decoder.delimiter = delimiter
  cursor : P decoder.cursor

variable {delimiter : Delimiter} {P Q : Cursor → Prop} {decoder : Decoder}

theorem Meets.record (h : decoder.Meets delimiter P) (event : Event) :
    (decoder.record event).Meets delimiter P :=
  ⟨h.delimiter_eq, h.cursor⟩

theorem Meets.withPhase (h : decoder.Meets delimiter P) (phase : Phase) :
    Meets delimiter P { decoder with phase } :=
  ⟨h.delimiter_eq, h.cursor⟩

theorem Meets.keep (h : decoder.Meets delimiter P) (part : Part) (phase : Phase) :
    (decoder.keep part phase).Meets delimiter P := by
  refine ⟨?_, ?_⟩
  · obtain ⟨cursor, log, hfile⟩ := file_readsOn (decoder.record
      (.partExtracted part.offset part.length part.contentType part.contentId?)) part
    rw [Decoder.keep, hfile]
    exact h.delimiter_eq
  · rw [cursor_keep]
    exact h.cursor

/-! ## One part -/

theorem leaves_scan (hP : Cursor.Invariant delimiter P Q) (h : decoder.Meets delimiter P)
    (body : Option Body) :
    Leaves (Meets delimiter P) (Meets delimiter Q) (decoder.scan body) := by
  have hdelimiter := h.delimiter_eq
  subst hdelimiter
  simp only [scan]
  cases houtcome : (Scan.find decoder.delimiter decoder.cursor body).outcome with
  | ok outcome =>
      have hcursor := hP.find_ok h.cursor body outcome houtcome
      cases (Scan.find decoder.delimiter decoder.cursor body).matched <;> exact .ok ⟨rfl, hcursor⟩
  | error error =>
      have hcursor := hP.find_error h.cursor body error houtcome
      cases (Scan.find decoder.delimiter decoder.cursor body).matched <;>
        exact .error ⟨rfl, hcursor⟩

theorem Meets.weaken (hP : Cursor.Invariant delimiter P Q) (h : decoder.Meets delimiter P) :
    decoder.Meets delimiter Q :=
  ⟨h.delimiter_eq, hP.weaken h.cursor⟩

theorem leaves_skipPreamble (hP : Cursor.Invariant delimiter P Q)
    (h : decoder.Meets delimiter P) :
    Leaves (Meets delimiter P) (Meets delimiter Q) decoder.skipPreamble := by
  have hscan := leaves_scan hP h none
  simp only [skipPreamble]
  generalize decoder.scan none = result at hscan
  cases hscan with
  | error hafter => exact .error hafter
  | @ok found after hafter =>
      obtain ⟨outcome, body⟩ := found
      cases outcome with
      | ended place => exact .error (hafter.weaken hP)
      | found kind =>
          cases kind with
          | opening => exact .ok (hafter.record _)
          | closing => exact .error (hafter.weaken hP)

theorem leaves_start (hP : Cursor.Invariant delimiter P Q) (h : decoder.Meets delimiter P) :
    Leaves (Meets delimiter P) (Meets delimiter Q) decoder.start := by
  have hskip := leaves_skipPreamble hP h
  simp only [start]
  cases decoder.phase with
  | fresh =>
      generalize decoder.skipPreamble = result at hskip
      cases hskip with
      | error hafter => exact .error hafter
      | ok hafter => exact .ok (hafter.withPhase .scanning)
  | scanning | closed | exhausted | failed => exact .ok h

theorem leaves_readHeaders (hP : Cursor.Invariant delimiter P Q) (h : decoder.Meets delimiter P) :
    Leaves (Meets delimiter P) (Meets delimiter Q) decoder.readHeaders := by
  have hblock := hP.readBlock h.cursor decoder.settings.maxHeaderSize
  simp only [readHeaders]
  generalize Header.readBlock decoder.settings.maxHeaderSize decoder.cursor = result at hblock
  cases hblock with
  | error hcursor => exact .error ⟨h.delimiter_eq, hcursor⟩
  | ok hcursor => exact .ok ⟨h.delimiter_eq, hcursor⟩

theorem leaves_endWithStream (hP : Cursor.Invariant delimiter P Q)
    (h : decoder.Meets delimiter P) (offset : Nat) (body : Body) :
    Leaves (Meets delimiter P) (Meets delimiter Q) (decoder.endWithStream offset body) := by
  simp only [endWithStream]
  split
  · cases body.checkLimit with
    | error error => exact .error (h.weaken hP)
    | ok _ => exact .ok (h.record _)
  · exact .error (h.weaken hP)

theorem leaves_readBody (hP : Cursor.Invariant delimiter P Q) (h : decoder.Meets delimiter P)
    (offset : Nat) :
    Leaves (Meets delimiter P) (Meets delimiter Q) (decoder.readBody offset) := by
  have hscan := leaves_scan hP h (some (Body.empty decoder.settings.maxPartSize))
  simp only [readBody]
  generalize decoder.scan (some (Body.empty decoder.settings.maxPartSize)) = result at hscan
  cases hscan with
  | error hafter => exact .error hafter
  | @ok found after hafter =>
      obtain ⟨outcome, body⟩ := found
      cases outcome with
      | found kind => cases kind <;> exact .ok hafter
      | ended place =>
          have hend := leaves_endWithStream hP hafter offset
            (body.getD (Body.empty decoder.settings.maxPartSize))
          simp only
          generalize after.endWithStream offset
            (body.getD (Body.empty decoder.settings.maxPartSize)) = result at hend
          cases hend with
          | error hlast => exact .error hlast
          | ok hlast => exact .ok hlast

theorem leaves_readPart (hP : Cursor.Invariant delimiter P Q) (h : decoder.Meets delimiter P) :
    Leaves (Meets delimiter P) (Meets delimiter Q) decoder.readPart := by
  have hheaders := leaves_readHeaders hP h
  simp only [readPart]
  generalize decoder.readHeaders = result at hheaders
  cases hheaders with
  | error hafter => exact .error hafter
  | @ok headers after hafter =>
      have hbody := leaves_readBody hP hafter after.position
      simp only
      generalize after.readBody after.position = result at hbody
      cases hbody with
      | error hlast => exact .error hlast
      | ok hlast => exact .ok hlast

theorem leaves_advance (hP : Cursor.Invariant delimiter P Q) (h : decoder.Meets delimiter P) :
    Leaves (Meets delimiter P) (Meets delimiter Q) decoder.advance := by
  have hstart := leaves_start hP h
  simp only [advance, extract]
  generalize decoder.start = result at hstart
  cases hstart with
  | error hafter => exact .error ((hafter.record _).withPhase .failed)
  | @ok _ after hafter =>
      have hpart := leaves_readPart hP hafter
      simp only
      generalize after.readPart = result at hpart
      cases hpart with
      | error hlast => exact .error ((hlast.record _).withPhase .failed)
      | @ok found last hlast =>
          obtain ⟨part, phase⟩ := found
          exact .ok (hlast.keep part phase)

/-! ## A run -/

theorem Meets.nextPart? (hP : Cursor.Invariant delimiter P Q) (h : decoder.Meets delimiter P)
    {after : Decoder} {part : Part} (hpart : decoder.nextPart? = some (part, after)) :
    after.Meets delimiter P := by
  have hopen := (nextPart?_eq_some_iff.mp hpart).1
  have hadvance := leaves_advance hP h
  rw [(advance_eq_ok_iff hopen).mpr ⟨part, hpart⟩] at hadvance
  cases hadvance with
  | ok hafter => exact hafter

theorem Meets.extractions (hP : Cursor.Invariant delimiter P Q) (h : decoder.Meets delimiter P)
    {n : Nat} {parts : List Part} {after : Decoder}
    (hn : decoder.extractions n = some (parts, after)) : after.Meets delimiter P := by
  induction n generalizing parts after with
  | zero =>
      obtain ⟨-, rfl⟩ := extractions_zero.mp hn
      exact h
  | succ n ih =>
      obtain ⟨before, state, part, hbefore, hpart, -⟩ := extractions_succ.mp hn
      exact (ih hbefore).nextPart? hP hpart

/-- Wherever a run is, its cursor keeps what scans and header blocks keep. -/
theorem Meets.reached (hP : Cursor.Invariant delimiter P Q) (h : decoder.Meets delimiter P)
    {after : Decoder} (hreached : Reached decoder after) : after.Meets delimiter Q := by
  cases hreached with
  | extracted hn => exact (h.extractions hP hn).weaken hP
  | failed hn hopen hfailed =>
      have hadvance := leaves_advance hP (h.extractions hP hn)
      rw [hfailed] at hadvance
      cases hadvance with
      | error hafter => exact hafter

end Decoder

end Multipart
