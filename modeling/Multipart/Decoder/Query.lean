import Multipart.Decoder.Extract
import Multipart.Text.Quoted

/-!
# Queries

A query reads parts until it can be answered, and none if it can be answered from what is filed.
-/

namespace Multipart

def Phase.name : Phase → String
  | .fresh => "Fresh"
  | .scanning => "Scanning"
  | .closed => "LastBoundarySeen"
  | .exhausted => "EndOfStream"
  | .failed => "Failed"

namespace Decoder

/-- A bound on the parts that are still to be read. -/
def remaining (decoder : Decoder) : Nat :=
  if decoder.isDone then 0 else decoder.outstanding + 1

/-- Reads parts until a condition holds or no part is left. -/
def advanceUntil (condition : Decoder → Bool) (decoder : Decoder) : Answer Unit :=
  if condition decoder then .ok () decoder
  else
    match _hphase : decoder.phase with
    | .closed | .exhausted => .ok () decoder
    | .failed => .error .unusable decoder
    | .fresh | .scanning =>
        match _hadvance : decoder.advance with
        | .error error after => .error error after
        | .ok () after => advanceUntil condition after
termination_by decoder.remaining
decreasing_by
  all_goals
    have hopen : decoder.isDone = false := by simp [isDone, Phase.isDone, _hphase]
    rcases outstanding_advance _hadvance with hdone | hlt
    · simp [remaining, hopen, hdone]
    · simp only [remaining, hopen]
      split <;> simp; omega

def rootPart (decoder : Decoder) : Answer (Option Part) :=
  match decoder.advanceUntil (·.root.isSome) with
  | .error error decoder => .error error decoder
  | .ok () decoder => .ok decoder.root decoder

def attachmentPart (decoder : Decoder) (id : String) : Answer (Option Part) :=
  match decoder.advanceUntil (·.attachments.contains id) with
  | .error error decoder => .error error decoder
  | .ok () decoder => .ok (decoder.attachments.get? id) decoder

/-- All attachments by content id. Reads the stream to the end. -/
def attachmentParts (decoder : Decoder) : Answer (Table Part) :=
  match decoder.advanceUntil (fun _ => false) with
  | .error error decoder => .error error decoder
  | .ok () decoder => .ok decoder.attachments decoder

/-- The state of a decoder on one line, after a label. -/
def summary (decoder : Decoder) (label : String) : String :=
  label ++ " \x7b boundary: " ++ Text.quoted decoder.contentType.boundary ++
    ", state: " ++ decoder.phase.name ++
    ", parts_parsed: " ++ toString decoder.count ++
    ", attachments: " ++ toString decoder.attachments.size ++ " \x7d"

end Decoder

end Multipart
