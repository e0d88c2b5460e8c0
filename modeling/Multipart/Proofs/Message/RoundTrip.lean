import Multipart.Proofs.Decoder.Completion
import Multipart.Proofs.Message.Reading

/-! # Messages make the round trip

What is written as a message and read from a stream without faults comes back: the parts one after
another, the first of them as the root, and the others by their content ids. -/

namespace Multipart

open Multipart.Part

/-- A boundary without CR and LF makes a delimiter without them. -/
theorem ContentType.onOneLine {contentType : ContentType}
    (h : ∀ c ∈ contentType.boundary.toList, c ≠ '\r' ∧ c ≠ '\n') :
    contentType.delimiter.OnOneLine := by
  have hchar : ∀ byte ∈ contentType.delimiter.bytes, byte.toNat < 0x80 →
      byte = Octet.dash ∨ Char.ofNat byte.toNat ∈ contentType.boundary.toList := by
    intro byte hbyte hlow
    simp only [Delimiter.bytes, ContentType.delimiter, Delimiter.ofBytes, List.mem_cons] at hbyte
    rcases hbyte with hdash | hdash | hmem
    · exact .inl hdash
    · exact .inl hdash
    · exact .inr (Text.Utf8.mem_of_mem_encode hmem hlow)
  constructor
  · intro hcr
    rcases hchar _ hcr (by decide) with hdash | hmem
    · exact absurd hdash (by decide)
    · exact (h _ hmem).1 rfl
  · intro hlf
    rcases hchar _ hlf (by decide) with hdash | hmem
    · exact absurd hdash (by decide)
    · exact (h _ hmem).2 rfl

namespace Decoder

/-- What a decoder answers whose stream holds a first part, which is the root, and some others. -/
structure Yields (decoder : Decoder) (first : Part) (others : List Part) : Prop where
  root : ∃ after, decoder.rootPart = .ok (some first) after
  attachments : ∃ table after, decoder.attachmentParts = .ok table after ∧
    after.phase = .closed ∧ after.count = others.length + 1 ∧
    ∀ id, table.get? id = lastWith id others

/-- Whatever is asked of a message that is read from a stream without faults, no query fails, and
the answers are the parts of the message, by the content ids that their headers are written with. -/
theorem round_trip {source : Source} {text : String} {settings : Settings} {fresh : Decoder}
    {message : Message} (hnew : ofSource source text settings = .ok fresh)
    (hstart : fresh.contentType.start? = none)
    (hboundary : ∀ c ∈ fresh.contentType.boundary.toList, c ≠ '\r' ∧ c ≠ '\n')
    (hmessage : message.WellFormed fresh.contentType.delimiter)
    (hfits : ∀ entity ∈ message.entities, entity.Fits settings)
    (hgenerous : source.Generous)
    (hscript : source.script = (message.bytes fresh.contentType.delimiter).map .byte)
    (queries : List Query) :
    ∃ first others, message.parts fresh.contentType.delimiter = first :: others ∧
      others.map contentId? = message.entities.tail.map Entity.contentId? ∧
      (∀ answer ∈ fresh.answers queries, answer.isOk) ∧
      (fresh.after queries).Yields first others := by
  have hunread := unread_ofSource hnew
  have hfiled := hunread.filed
  rw [hstart] at hfiled
  have hfaces := hunread.faces hgenerous hscript
  rw [← hunread.delimiter_eq] at hmessage hfaces ⊢
  have hline : fresh.delimiter.OnOneLine :=
    hunread.delimiter_eq ▸ ContentType.onOneLine hboundary
  obtain ⟨done, hdone, hclosed⟩ := extractions_of_faces hunread.phase_eq hline hmessage
    (hunread.settings_eq ▸ hfits) hfaces
  have hend : done.isDone := by
    rw [isDone, hclosed]
    rfl
  obtain ⟨hok, hmidway⟩ := (midway_of_extractions hdone).after hend queries
  obtain ⟨-, hcount, -, htable⟩ := hfiled.extractions hdone
  obtain ⟨after, hroot⟩ := hmidway.rootPart hend hfiled
  obtain ⟨first, others, hparts⟩ := hmessage.parts_eq_cons
  have hids := congrArg List.tail (message.map_contentId?_parts fresh.delimiter)
  rw [hparts] at hroot hcount htable hids
  rw [List.map_cons, List.tail_cons, ← List.map_tail] at hids
  exact ⟨first, others, hparts, hids, hok, ⟨after, hroot⟩, done.attachments, done,
    hmidway.attachmentParts hend, hclosed, hcount, htable⟩

/-- A message whose bodies come close to the delimiter, with a content id that comes twice. -/
def closeCalls : Message where
  preamble := Text.Utf8.encode "--X\r\n".toList
  entities := [
    ⟨[Octet.space, Octet.tab], [], Text.Utf8.encode "\r\n--X\r\n--".toList⟩,
    ⟨[], [⟨"Content-ID", "a"⟩], Text.Utf8.encode "-\r".toList⟩,
    ⟨[], [⟨"Content-Type", "é"⟩, ⟨"content-id", "a"⟩], []⟩]
  epilogue := Text.Utf8.encode "\n--XY".toList

theorem round_trip_close_calls :
    ∃ fresh first others, ofSource (.ofBytes (closeCalls.bytes (.ofBytes [88, 89])))
        "multipart/related; boundary=XY" = .ok fresh ∧
      closeCalls.parts fresh.contentType.delimiter = first :: others ∧
      first = ⟨[], Text.Utf8.encode "\r\n--X\r\n--".toList, 15⟩ ∧
      lastWith "a" others = some ⟨[⟨"content-type", "é"⟩, ⟨"content-id", "a"⟩], [], 94⟩ ∧
      others.map contentId? = closeCalls.entities.tail.map Entity.contentId? ∧
      (∀ answer ∈ fresh.answers [.attachment "a", .attachments, .root], answer.isOk) ∧
      (fresh.after [.attachment "a", .attachments, .root]).Yields first others := by
  obtain ⟨fresh, hnew, hcheck⟩ := exists_of_any (.ofBytes (closeCalls.bytes (.ofBytes [88, 89])))
    "multipart/related; boundary=XY" {}
    (fun fresh => fresh.contentType.start? = none ∧ fresh.contentType.boundary = "XY")
    (by decide +kernel)
  obtain ⟨hstart, hboundary⟩ := of_decide_eq_true hcheck
  have hdelimiter : fresh.contentType.delimiter = .ofBytes [88, 89] := by
    rw [ContentType.delimiter, hboundary]
    rfl
  have hchars : ∀ c ∈ fresh.contentType.boundary.toList, c ≠ '\r' ∧ c ≠ '\n' := by
    have hall : "XY".toList.all fun c => c ≠ '\r' ∧ c ≠ '\n' := by decide
    rw [hboundary]
    simpa only [List.all_eq_true, decide_eq_true_eq] using hall
  have hwellFormed : closeCalls.WellFormed (.ofBytes [88, 89]) :=
    ⟨by decide, by decide +kernel, by decide, .inr (by decide)⟩
  obtain ⟨first, others, hparts, hids, hok, hyields⟩ :=
    round_trip hnew hstart hchars (hdelimiter ▸ hwellFormed) (by decide +kernel)
      (Source.generous_ofBytes _) (by rw [hdelimiter, Source.script_ofBytes])
      [.attachment "a", .attachments, .root]
  have hcalls : (closeCalls.parts (.ofBytes [88, 89])).head? =
        some ⟨[], Text.Utf8.encode "\r\n--X\r\n--".toList, 15⟩ ∧
      lastWith "a" (closeCalls.parts (.ofBytes [88, 89])).tail =
        some ⟨[⟨"content-type", "é"⟩, ⟨"content-id", "a"⟩], [], 94⟩ := by decide +kernel
  rw [← hdelimiter, hparts, List.head?_cons, List.tail_cons, Option.some.injEq] at hcalls
  exact ⟨fresh, first, others, hnew, hparts, hcalls.1, hcalls.2, hids, hok, hyields⟩

end Decoder

end Multipart
