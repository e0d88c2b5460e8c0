import Multipart.Decoder.Basic

/-!
# Extracting parts

A decoder reads a header block and a body, and files the part as the root or as an attachment. A
failure leaves what was filed before and is final. The main statement says that a part that is read
uses up what is outstanding, unless it is the last.
-/

namespace Multipart

namespace Decoder

/-! ## Reading a part -/

/-- Scans to the next delimiter and reports where it was seen. -/
def scan (decoder : Decoder) (body : Option Body) : Answer (Outcome × Option Body) :=
  let found := Scan.find decoder.delimiter decoder.cursor body
  let after := { decoder with cursor := found.cursor }
  let after := match found.matched with
    | some offset => after.record (.delimiterMatched offset)
    | none => after
  match found.outcome with
  | .ok outcome => .ok (outcome, found.body) after
  | .error error => .error error after

def skipPreamble (decoder : Decoder) : Answer Unit :=
  match decoder.scan none with
  | .error error decoder => .error error decoder
  | .ok (.found .opening, _) decoder =>
      .ok () (decoder.record (.preambleSkipped decoder.position))
  | .ok (.found .closing, _) decoder => .error (.closedBeforeFirstPart decoder.position) decoder
  | .ok (_, _) decoder => .error .noFirstDelimiter decoder

/-- Skips what stands before the first part, unless that is done. -/
def start (decoder : Decoder) : Answer Unit :=
  match decoder.phase with
  | .fresh =>
      match decoder.skipPreamble with
      | .error error decoder => .error error decoder
      | .ok () decoder => .ok () { decoder with phase := .scanning }
  | _ => .ok () decoder

def readHeaders (decoder : Decoder) : Answer (List Header) :=
  match Header.readBlock decoder.settings.maxHeaderSize decoder.cursor with
  | .error error cursor => .error error { decoder with cursor }
  | .ok headers cursor => .ok headers { decoder with cursor }

/-- Ends a part that the stream ends, where that is allowed. -/
def endWithStream (decoder : Decoder) (offset : Nat) (body : Body) : Answer Phase :=
  if decoder.settings.allowUnterminatedFinalPart then
    match body.checkLimit with
    | .error error => .error error decoder
    | .ok () => .ok .exhausted (decoder.record (.unendedPartAccepted offset))
  else .error (.unendedPart decoder.position) decoder

/-- Reads the body of a part that starts at an offset, and the phase that follows it. -/
def readBody (decoder : Decoder) (offset : Nat) : Answer (List UInt8 × Phase) :=
  let empty := Body.empty decoder.settings.maxPartSize
  match decoder.scan (some empty) with
  | .error error decoder => .error error decoder
  | .ok (outcome, body) decoder =>
      let body := body.getD empty
      match outcome with
      | .found .opening => .ok (body.bytes, .scanning) decoder
      | .found .closing => .ok (body.bytes, .closed) decoder
      | .ended _ =>
          match decoder.endWithStream offset body with
          | .error error decoder => .error error decoder
          | .ok phase decoder => .ok (body.bytes, phase) decoder

def readPart (decoder : Decoder) : Answer (Part × Phase) :=
  match decoder.readHeaders with
  | .error error decoder => .error error decoder
  | .ok headers decoder =>
      let offset := decoder.position
      match decoder.readBody offset with
      | .error error decoder => .error error decoder
      | .ok (data, phase) decoder => .ok (⟨headers, data, offset⟩, phase) decoder

/-! ## Filing a part -/

/-- Whether a part is the root: the one that the content type names, or else the first. -/
def isRoot (decoder : Decoder) (part : Part) : Bool :=
  decoder.root.isNone &&
    match decoder.contentType.start? with
    | some start => part.contentId? = some start
    | none => decoder.count = 0

/-- Keeps a part that is not the root under its content id, in place of an earlier one. -/
def attach (decoder : Decoder) (part : Part) : Decoder :=
  match part.contentId? with
  | some id =>
      let decoder := if decoder.attachments.contains id then
          decoder.record (.duplicateContentId id)
        else decoder
      { decoder with attachments := decoder.attachments.insert id part }
  | none => decoder.record (.partUnreachable part.offset)

def file (decoder : Decoder) (part : Part) : Decoder :=
  let filed := if decoder.isRoot part then { decoder with root := some part }
    else decoder.attach part
  { filed with count := decoder.count + 1 }

def extract (decoder : Decoder) : Answer Unit :=
  match decoder.start with
  | .error error decoder => .error error decoder
  | .ok () decoder =>
      match decoder.readPart with
      | .error error decoder => .error error decoder
      | .ok (part, phase) decoder =>
          let decoder := decoder.record
            (.partExtracted part.offset part.length part.contentType part.contentId?)
          .ok () { decoder.file part with phase }

/-- Reads the next part and files it. A failure is reported and final. -/
def advance (decoder : Decoder) : Answer Unit :=
  match decoder.extract with
  | .ok () decoder => .ok () decoder
  | .error error decoder =>
      .error error
        { decoder.record (.extractionFailed error decoder.position) with phase := .failed }

/-! ## A part uses up what is outstanding -/

@[simp] theorem outstanding_record (decoder : Decoder) (event : Event) :
    (decoder.record event).outstanding = decoder.outstanding := rfl

@[simp] theorem outstanding_attach (decoder : Decoder) (part : Part) :
    (decoder.attach part).outstanding = decoder.outstanding := by
  simp only [attach]
  repeat' split
  all_goals rfl

@[simp] theorem outstanding_file (decoder : Decoder) (part : Part) :
    (decoder.file part).outstanding = decoder.outstanding := by
  simp only [file]
  split
  · rfl
  · exact outstanding_attach decoder part

theorem outstanding_scan {decoder after : Decoder} {body left : Option Body} {outcome : Outcome}
    (h : decoder.scan body = .ok (outcome, left) after) :
    after.outstanding ≤ decoder.outstanding ∧
      ∀ kind, outcome = .found kind → after.outstanding < decoder.outstanding := by
  obtain ⟨hle, hfound⟩ := Scan.outstanding_find decoder.delimiter decoder.cursor body
  have hlength : 0 < decoder.delimiter.length := Nat.succ_pos _
  simp only [scan] at h
  split at h
  · rename_i hok
    simp only [EStateM.Result.ok.injEq, Prod.mk.injEq] at h
    obtain ⟨⟨rfl, -⟩, rfl⟩ := h
    split
    all_goals
      refine ⟨hle, fun kind hkind => ?_⟩
      have := hfound kind (hkind ▸ hok)
      simp only [outstanding, record] at this ⊢
      omega
  · contradiction

theorem outstanding_start {decoder after : Decoder} (h : decoder.start = .ok () after) :
    after.outstanding ≤ decoder.outstanding := by
  simp only [start, skipPreamble] at h
  split at h
  · split at h
    · contradiction
    · rename_i hskip
      simp only [EStateM.Result.ok.injEq, true_and] at h
      subst h
      split at hskip
      · contradiction
      · rename_i hscan
        simp only [EStateM.Result.ok.injEq, true_and] at hskip
        subst hskip
        exact (outstanding_scan hscan).1
      · contradiction
      · contradiction
  · simp only [EStateM.Result.ok.injEq, true_and] at h
    exact h ▸ Nat.le_refl _

theorem outstanding_readHeaders {decoder after : Decoder} {headers : List Header}
    (h : decoder.readHeaders = .ok headers after) : after.outstanding ≤ decoder.outstanding := by
  simp only [readHeaders] at h
  split at h
  · contradiction
  · rename_i hread
    simp only [EStateM.Result.ok.injEq] at h
    obtain ⟨-, rfl⟩ := h
    exact Header.outstanding_readBlock hread

theorem outstanding_readBody {decoder after : Decoder} {offset : Nat} {data : List UInt8}
    {phase : Phase} (h : decoder.readBody offset = .ok (data, phase) after) :
    phase.isDone ∨ after.outstanding < decoder.outstanding := by
  simp only [readBody] at h
  split at h
  · contradiction
  · rename_i outcome left scanned hscan
    have hfound := (outstanding_scan hscan).2
    split at h
    · simp only [EStateM.Result.ok.injEq] at h
      exact .inr (h.2 ▸ hfound _ rfl)
    · simp only [EStateM.Result.ok.injEq, Prod.mk.injEq] at h
      exact .inr (h.2 ▸ hfound _ rfl)
    · split at h
      · contradiction
      · rename_i hend
        simp only [EStateM.Result.ok.injEq, Prod.mk.injEq] at h
        simp only [endWithStream] at hend
        obtain ⟨⟨-, rfl⟩, -⟩ := h
        split at hend
        · split at hend
          · contradiction
          · simp only [EStateM.Result.ok.injEq] at hend
            exact .inl (hend.1 ▸ rfl)
        · contradiction

/-- A part that is read was outstanding, unless it is the last. -/
theorem outstanding_advance {decoder after : Decoder} (h : decoder.advance = .ok () after) :
    after.isDone ∨ after.outstanding < decoder.outstanding := by
  simp only [advance, extract] at h
  split at h
  · rename_i hextract
    simp only [EStateM.Result.ok.injEq, true_and] at h
    subst h
    split at hextract
    · contradiction
    · rename_i started hstart
      have hstarted := outstanding_start hstart
      simp only [readPart] at hextract
      split at hextract
      · contradiction
      · rename_i hpart
        simp only [EStateM.Result.ok.injEq, true_and] at hextract
        subst hextract
        split at hpart
        · contradiction
        · rename_i hheaders
          have hheaders := outstanding_readHeaders hheaders
          split at hpart
          · contradiction
          · rename_i hbody
            simp only [EStateM.Result.ok.injEq, Prod.mk.injEq] at hpart
            obtain ⟨⟨-, rfl⟩, rfl⟩ := hpart
            rcases outstanding_readBody hbody with hdone | hlt
            · exact .inl hdone
            · refine .inr ?_
              change ((Decoder.record _ _).file _).outstanding < _
              simp only [outstanding_file, outstanding_record]
              omega
  · contradiction

end Decoder

end Multipart
