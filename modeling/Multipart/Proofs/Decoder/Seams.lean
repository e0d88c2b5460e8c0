import Multipart.Proofs.Decoder.Bisimulation

/-! # Read seams

Where the reads of a stream begin and end does not show: neither the portions that a stream hands
out and the interruptions of its reads, nor the sizes of the buffers. -/

namespace Multipart

open Cursor (Bisimulation)
open Result (Related)

namespace Decoder

variable {S : Settings → Settings → Prop} {R : Cursor → Cursor → Prop} {a b : Decoder}

/-! ## What can be seen -/

structure View where
  phase : Phase
  count : Nat
  root : Option Part
  attachments : Table Part
  position : Nat

/-- What can be seen of a decoder, which is all but its buffers and its log. -/
def view (decoder : Decoder) : View :=
  ⟨decoder.phase, decoder.count, decoder.root, decoder.attachments, decoder.position⟩

/-- The answer to each of some queries, and what can be seen after it. -/
def transcript : List Query → Decoder → List (Except Error Reply × View)
  | [], _ => []
  | query :: queries, decoder =>
      (Result.answer (query.ask decoder), (Result.state (query.ask decoder)).view) ::
        transcript queries (Result.state (query.ask decoder))

/-- What some queries show of a stream, unless the content type is refused. -/
def observe (source : Source) (text : String) (settings : Settings) (queries : List Query) :
    Except Error (List (Except Error Reply × View)) :=
  match ofSource source text settings with
  | .error error => .error error
  | .ok decoder => .ok (decoder.transcript queries)

theorem Alike.view_eq (hR : Bisimulation R) (h : Alike S R a b) : a.view = b.view := by
  have hposition := h.position_eq hR
  obtain ⟨_, _, _, rfl, -, -⟩ := h
  simp only [view, hposition]

theorem Alike.transcript_eq (hR : Bisimulation R) (h : Alike Settings.SameLimits R a b)
    (queries : List Query) : a.transcript queries = b.transcript queries := by
  induction queries generalizing a b with
  | nil => rfl
  | cons query queries ih =>
      have hask := related_ask hR h query
      rw [transcript, transcript, hask.answer_eq, hask.state.view_eq hR, ih hask.state]

end Decoder

/-! ## Streams with the same script -/

/-- Two cursors stand at the same place of one script, which they read however they like. -/
structure Cursor.SameScript (a b : Cursor) : Prop where
  upcoming_eq : a.upcoming = b.upcoming
  position_eq : a.position = b.position
  left_generous : a.source.Generous
  right_generous : b.source.Generous

theorem Cursor.SameScript.next {a b : Cursor} (h : SameScript a b) :
    Related SameScript a.next b.next := by
  obtain ⟨hanswer, hupcoming, hgenerous⟩ := next_eq_serve h.left_generous
  obtain ⟨hanswer', hupcoming', hgenerous'⟩ := next_eq_serve h.right_generous
  obtain ⟨passed, hpasses⟩ := passes_next a
  obtain ⟨passed', hpasses'⟩ := passes_next b
  rw [← h.upcoming_eq] at hanswer' hupcoming'
  refine Result.related_iff.mpr ⟨hanswer.trans hanswer'.symm, ?_⟩
  have hsame := hupcoming.trans hupcoming'.symm
  have hadd := hpasses.position_add
  have hadd' := hpasses'.position_add
  rw [h.upcoming_eq, h.position_eq, ← hadd', hsame] at hadd
  exact ⟨hsame, Nat.add_right_cancel hadd, hgenerous, hgenerous'⟩

theorem Cursor.bisimulation_sameScript : Bisimulation Cursor.SameScript where
  position_eq := SameScript.position_eq
  next := SameScript.next
  markBack := fun h _ => ⟨h.upcoming_eq, h.position_eq, h.left_generous, h.right_generous⟩
  clearMark := fun h => ⟨h.upcoming_eq, h.position_eq, h.left_generous, h.right_generous⟩

namespace Decoder

/-- Two decoders of one script are alike from the start. -/
theorem alike_ofSource {source other : Source} {text : String} {first second : Settings}
    {fresh : Decoder} (hscript : source.script = other.script) (hsource : source.Generous)
    (hother : other.Generous) (hlimits : first.SameLimits second)
    (hnew : ofSource source text first = .ok fresh) :
    ∃ twin, ofSource other text second = .ok twin ∧
      Alike Settings.SameLimits Cursor.SameScript fresh twin := by
  simp only [ofSource] at hnew ⊢
  cases hparse : ContentType.parse text with
  | error error => simp [hparse] at hnew
  | ok contentType =>
      rw [hparse] at hnew
      cases hnew
      exact ⟨_, rfl, _, second, _, rfl, ⟨hscript, rfl, hsource, hother⟩, hlimits⟩

/-- What a run shows depends on the script of the stream, the content type and the limits: neither
on the portions and the interruptions of its reads nor on the sizes of the buffers. -/
theorem observe_eq_of_script {source other : Source} {first second : Settings}
    (hscript : source.script = other.script) (hsource : source.Generous)
    (hother : other.Generous) (hlimits : first.SameLimits second) (text : String)
    (queries : List Query) :
    observe source text first queries = observe other text second queries := by
  simp only [observe]
  cases hnew : ofSource source text first with
  | ok fresh =>
      obtain ⟨twin, htwin, halike⟩ := alike_ofSource hscript hsource hother hlimits hnew
      rw [htwin]
      simp only [halike.transcript_eq Cursor.bisimulation_sameScript]
  | error error =>
      simp only [ofSource] at hnew ⊢
      cases hparse : ContentType.parse text with
      | error refusal =>
          rw [hparse] at hnew
          cases hnew
          rfl
      | ok contentType => simp [hparse] at hnew

def stalled : List UInt8 :=
  Text.Utf8.encode
    "--B\n\nr\n--B\nContent-ID: ab\n\nx\n--B\nContent-ID: c\n\nyz\n--B--".toList

/-- A root and two attachments, read two bytes at a time. The stream pauses twice inside the first
content id and fails inside the last body. -/
def stalling : Source :=
  .ofPlan stalled [⟨24, .pause, 2⟩, ⟨49, .failure (.device .timedOut "timed out"), 1⟩] (some 2)

/-- The same stream, interrupted and read as far as each read goes. -/
def interrupted : Source :=
  .ofPlan stalled
    [⟨3, .interruption, 2⟩, ⟨24, .interruption, 1⟩, ⟨24, .pause, 2⟩, ⟨30, .interruption, 1⟩,
      ⟨49, .failure (.device .timedOut "timed out"), 1⟩] none

def stalledRoot : Part :=
  ⟨[], Text.Utf8.encode "r".toList, 5⟩

/-- The second pause ends the headers as a blank line does, and the body starts there. -/
def stalledAttachment : Part :=
  ⟨[⟨"content-id", "a"⟩], Text.Utf8.encode "b\n\nx".toList, 24⟩

theorem observe_stalling :
    stalling.script = interrupted.script ∧ stalling.Generous ∧ interrupted.Generous ∧
      observe stalling "multipart/mixed; boundary=B" {}
          [.root, .attachment "a", .attachments, .root] =
        observe interrupted "multipart/mixed; boundary=B" { readBufferSize := 3 }
          [.root, .attachment "a", .attachments, .root] ∧
      (observe stalling "multipart/mixed; boundary=B" {}
          [.root, .attachment "a", .attachments, .root]).toOption.map (List.map fun shown =>
            (shown.1.isOk, shown.2.root, shown.2.attachments.get? "a", shown.2.position)) =
        some [(true, some stalledRoot, none, 11),
          (true, some stalledRoot, some stalledAttachment, 33),
          (false, some stalledRoot, some stalledAttachment, 49),
          (true, some stalledRoot, some stalledAttachment, 49)] := by
  have hscript : stalling.script = interrupted.script := by
    conv => lhs; rw [stalling, Source.script_ofPlan]
    conv => rhs; rw [interrupted, Source.script_ofPlan]
    rfl
  have hstalling : stalling.Generous := Source.generous_ofPlan _ _ (by simp)
  have hinterrupted : interrupted.Generous := Source.generous_ofPlan _ _ (by simp)
  have hlimits : Settings.SameLimits {} { readBufferSize := 3 } := ⟨rfl, rfl, rfl⟩
  exact ⟨hscript, hstalling, hinterrupted,
    observe_eq_of_script hscript hstalling hinterrupted hlimits _ _, by decide +kernel⟩

end Decoder

end Multipart
