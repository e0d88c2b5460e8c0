import Multipart.Proofs.Decoder.Extraction
import Multipart.Proofs.Message.Basic
import Multipart.Proofs.Scan.Grammar

/-! # Reading what is written

A decoder that has read the delimiter before some parts reads the first of them, and has then read
the delimiter before the rest. -/

namespace Multipart

/-- The delimiter has no byte of a line end. -/
def Delimiter.OnOneLine (delimiter : Delimiter) : Prop :=
  Octet.cr ∉ delimiter.bytes ∧ Octet.lf ∉ delimiter.bytes

namespace Message

variable {delimiter : Delimiter} {message : Message} {entity : Entity} {entities : List Entity}
  {epilogue rest : List UInt8}

/-! ## The first delimiter -/

/-- The delimiter after a preamble is the first one. -/
theorem WellFormed.not_occursAt_preamble (h : message.WellFormed delimiter)
    (hline : delimiter.OnOneLine) :
    ∀ offset < message.preamble.length,
      ¬delimiter.OccursAt (message.preamble ++ rest) offset := by
  rcases h.preamble_end with hnil | hlf
  · intro offset hlt
    rw [hnil] at hlt
    exact absurd hlt offset.not_lt_zero
  · obtain ⟨front, hfront⟩ := List.getLast?_eq_some_iff.mp hlf
    have hfree := h.preamble
    rw [hfront] at hfree ⊢
    exact Delimiter.not_occursAt_append hline.2 hfree

/-- The delimiter after a body is the first one from where the body starts. -/
theorem not_occursAt_data (h : entity.WellFormed delimiter) (hline : delimiter.OnOneLine) :
    ∀ offset < (entity.data ++ [Octet.cr, Octet.lf]).length,
      ¬delimiter.OccursAt (entity.data ++ [Octet.cr, Octet.lf] ++ rest) offset := by
  have hcr := Delimiter.not_occursAt_concat hline.1 h.data
  have hlf := Delimiter.not_occursAt_concat hline.2 hcr
  rw [show entity.data ++ [Octet.cr, Octet.lf] = entity.data ++ [Octet.cr] ++ [Octet.lf] by simp]
  exact Delimiter.not_occursAt_append hline.2 hlf

/-! ## The room for a body -/

/-- There is room for a body and the line end after it. -/
theorem room_of_fits {settings : Settings} (h : entity.Fits settings) :
    ∀ kept, some (Body.empty settings.maxPartSize) = some kept →
      kept.size + (entity.data ++ [Octet.cr, Octet.lf]).length ≤ addCapped kept.limit 2 := by
  intro kept hkept
  have hdata := h.data_le
  have hword := h.data_le_word
  cases hkept
  rw [List.length_append, addCapped]
  show 0 + (entity.data.length + 2) ≤ min (settings.maxPartSize + 2) maxWord
  omega

/-- The line end is taken off, and what is left is within the limit. -/
theorem terminate_data {settings : Settings} (h : entity.Fits settings) (offset : Nat) :
    Scan.terminate (Scan.grow (some (Body.empty settings.maxPartSize))
      (entity.data ++ [Octet.cr, Octet.lf])) offset =
        .ok () (some ((Body.empty settings.maxPartSize).extend entity.data)) := by
  have hsize : ((Body.empty settings.maxPartSize).extend entity.data).size ≤
      settings.maxPartSize := by
    rw [Body.size_extend]
    show 0 + entity.data.length ≤ settings.maxPartSize
    rw [Nat.zero_add]
    exact h.data_le
  have hend := Body.terminate_crlf hsize offset
  simp only [Scan.grow, Option.map_some, Scan.terminate, Body.extend_append, hend]

/-! ## The delimiter before some parts -/

def kindBefore : List Entity → DelimiterKind
  | [] => .closing
  | _ :: _ => .opening

def phaseBefore : List Entity → Phase
  | [] => .closed
  | _ :: _ => .scanning

/-- A cursor is past the line of a delimiter, which ends at `offset`, and before some parts. -/
def Opens (delimiter : Delimiter) (epilogue : List UInt8) (offset : Nat) :
    List Entity → Cursor → Prop
  | [], _ => True
  | entity :: rest, cursor => cursor.Faces (offset + (entity.padding.length + 2))
      (content delimiter entity (following delimiter epilogue rest))

theorem delimiterLine_following {cursor : Cursor} {offset : Nat}
    (h : cursor.Faces offset (following delimiter epilogue entities))
    (hentities : ∀ entity ∈ entities, entity.WellFormed delimiter) :
    ∃ after, Scan.delimiterLine cursor = .ok (kindBefore entities) after ∧
      Opens delimiter epilogue offset entities after.clearMark := by
  cases entities with
  | nil =>
      obtain ⟨after, hafter⟩ := Scan.delimiterLine_closing h
      exact ⟨after, hafter, trivial⟩
  | cons entity entities =>
      have hline := Scan.openingLine_of_padding (hentities entity List.mem_cons_self).padding
      have hrest : cursor.Faces offset (entity.padding ++ [Octet.cr, Octet.lf] ++
          content delimiter entity (following delimiter epilogue entities)) := by
        rw [List.append_assoc]
        exact h
      obtain ⟨after, hafter, hfaces⟩ := Scan.delimiterLine_of_opening hline hrest
      rw [List.length_append] at hfaces
      exact ⟨after, hafter, hfaces.clearMark⟩

end Message

namespace Decoder

open Message

variable {decoder : Decoder} {message : Message} {entity : Entity} {entities : List Entity}
  {epilogue : List UInt8} {offset : Nat}

/-! ## One part -/

/-- A body is read up to the line end before the delimiter. -/
theorem readBody_of_faces (decoder : Decoder) (hline : decoder.delimiter.OnOneLine)
    (hentity : entity.WellFormed decoder.delimiter) (hfits : entity.Fits decoder.settings)
    (hentities : ∀ entity ∈ entities, entity.WellFormed decoder.delimiter)
    (hfaces : decoder.cursor.Faces offset (entity.data ++ Octet.cr :: Octet.lf ::
      (decoder.delimiter.bytes ++ following decoder.delimiter epilogue entities)))
    (start : Nat) :
    ∃ cursor log, decoder.readBody start =
        .ok (entity.data, phaseBefore entities) { decoder with cursor, log } ∧
      Opens decoder.delimiter epilogue
        (offset + (entity.data.length + 2 + decoder.delimiter.length)) entities cursor := by
  have hsplit : entity.data ++ Octet.cr :: Octet.lf ::
      (decoder.delimiter.bytes ++ following decoder.delimiter epilogue entities) =
        entity.data ++ [Octet.cr, Octet.lf] ++
          (decoder.delimiter.bytes ++ following decoder.delimiter epilogue entities) := by simp
  rw [hsplit] at hfaces
  have hlast := terminate_data hfits (offset + (entity.data ++ [Octet.cr, Octet.lf]).length)
  obtain ⟨after, hfind, hopens⟩ := Scan.find_of_faces hfaces (not_occursAt_data hentity hline)
    (room_of_fits hfits) hlast (fun h => delimiterLine_following h hentities)
  obtain ⟨log, hscan⟩ := scan_eq_of_find hfind
  rw [List.length_append] at hopens
  refine ⟨after, log, ?_, hopens⟩
  simp only [readBody, hscan, Option.getD_some, Body.bytes_extend, Body.bytes_empty,
    List.nil_append]
  cases entities with
  | nil => rfl
  | cons entity entities => rfl

/-- A part is read as it is written, with the names of its headers in lower case. -/
theorem readPart_of_faces (hline : decoder.delimiter.OnOneLine)
    (hentity : entity.WellFormed decoder.delimiter) (hfits : entity.Fits decoder.settings)
    (hentities : ∀ entity ∈ entities, entity.WellFormed decoder.delimiter)
    (hfaces : decoder.cursor.Faces offset
      (content decoder.delimiter entity (following decoder.delimiter epilogue entities))) :
    ∃ cursor log, decoder.readPart =
        .ok (⟨entity.headers.map Header.lowered, entity.data,
          offset + ((Header.block entity.headers).length + 2)⟩, phaseBefore entities)
          { decoder with cursor, log } ∧
      Opens decoder.delimiter epilogue (offset + ((Header.block entity.headers).length + 2) +
        (entity.data.length + 2 + decoder.delimiter.length)) entities cursor := by
  obtain ⟨between, hblock, hbetween⟩ := Header.readBlock_block hentity.headers hfits.headers_le
    hfits.headers_le_word hfaces
  have hheaders : decoder.readHeaders =
      .ok (entity.headers.map Header.lowered) { decoder with cursor := between } := by
    simp only [readHeaders, hblock]
  obtain ⟨cursor, log, hbody, hopens⟩ := readBody_of_faces { decoder with cursor := between }
    hline hentity hfits hentities hbetween (offset + ((Header.block entity.headers).length + 2))
  refine ⟨cursor, log, ?_, hopens⟩
  simp only [readPart, hheaders, position, hbetween.position_eq, hbody]

/-! ## All parts -/

/-- A decoder has read a delimiter, which ends at `offset`, and some parts follow. -/
structure Awaits (decoder : Decoder) (epilogue : List UInt8) (offset : Nat)
    (entities : List Entity) : Prop where
  phase : decoder.phase = phaseBefore entities
  opens : Opens decoder.delimiter epilogue offset entities decoder.cursor

theorem Awaits.nextPart? (h : decoder.Awaits epilogue offset (entity :: entities))
    (hline : decoder.delimiter.OnOneLine) (hentity : entity.WellFormed decoder.delimiter)
    (hfits : entity.Fits decoder.settings)
    (hentities : ∀ entity ∈ entities, entity.WellFormed decoder.delimiter) :
    ∃ part after, decoder.nextPart? = some (part, after) ∧
      partsFrom decoder.delimiter offset (entity :: entities) =
        part :: partsFrom decoder.delimiter
          (part.offset + (entity.data.length + 2 + decoder.delimiter.length)) entities ∧
      after.Awaits epilogue
        (part.offset + (entity.data.length + 2 + decoder.delimiter.length)) entities ∧
      after.delimiter = decoder.delimiter ∧ after.settings = decoder.settings := by
  obtain ⟨cursor, log, hread, hopens⟩ :=
    readPart_of_faces hline hentity hfits hentities h.opens
  have hstart : decoder.start = .ok () decoder := by
    simp only [start, h.phase, phaseBefore]
  have hopen : decoder.phase.isOpen := by
    rw [h.phase]
    rfl
  have hnext := nextPart?_eq_some_iff.mpr ⟨hopen, decoder, _, _, hstart, hread, rfl⟩
  obtain ⟨hdelimiter, hsettings, -⟩ := setting_of_nextPart? hnext
  refine ⟨_, _, hnext, rfl, ⟨rfl, ?_⟩, hdelimiter, hsettings⟩
  rw [hdelimiter, cursor_keep]
  exact hopens

theorem Awaits.extractions (h : decoder.Awaits epilogue offset entities)
    (hline : decoder.delimiter.OnOneLine)
    (hentities : ∀ entity ∈ entities, entity.WellFormed decoder.delimiter)
    (hfits : ∀ entity ∈ entities, entity.Fits decoder.settings) :
    ∃ after, decoder.extractions entities.length =
        some (partsFrom decoder.delimiter offset entities, after) ∧
      after.phase = .closed := by
  induction entities generalizing decoder offset with
  | nil => exact ⟨decoder, rfl, h.phase⟩
  | cons entity entities ih =>
      rw [List.forall_mem_cons] at hentities hfits
      obtain ⟨part, next, hnext, hparts, hawaits, hdelimiter, hsettings⟩ :=
        h.nextPart? hline hentities.1 hfits.1 hentities.2
      obtain ⟨after, hlater, hclosed⟩ := ih hawaits (hdelimiter ▸ hline)
        (hdelimiter ▸ hentities.2) (hsettings ▸ hfits.2)
      rw [hdelimiter] at hlater
      exact ⟨after, extractions_succ_front.mpr ⟨part, next, _, hnext, hlater, hparts⟩, hclosed⟩

/-- The preamble is skipped, with the first delimiter. -/
theorem start_of_faces (hphase : decoder.phase = .fresh)
    (hline : decoder.delimiter.OnOneLine) (hmessage : message.WellFormed decoder.delimiter)
    (hfaces : decoder.cursor.Faces 0 (message.bytes decoder.delimiter)) :
    ∃ started, decoder.start = .ok () started ∧
      started.Awaits message.epilogue (message.preamble.length + decoder.delimiter.length)
        message.entities ∧
      started.delimiter = decoder.delimiter ∧ started.settings = decoder.settings := by
  have hnone : Scan.terminate (Scan.grow none message.preamble) (0 + message.preamble.length) =
      .ok () none := rfl
  obtain ⟨after, hfind, hopens⟩ := Scan.find_of_faces hfaces
    (hmessage.not_occursAt_preamble hline) (by simp) hnone
    (fun h => delimiterLine_following h hmessage.entities)
  obtain ⟨log, hscan⟩ := scan_eq_of_find hfind
  rw [Nat.zero_add] at hopens
  cases hentities : message.entities with
  | nil => exact absurd hentities hmessage.entities_ne_nil
  | cons entity entities =>
      rw [hentities] at hopens hscan
      simp only [start, hphase, skipPreamble, hscan, kindBefore]
      exact ⟨_, rfl, ⟨rfl, hopens⟩, rfl, rfl⟩

/-- Skipping the preamble first makes no difference to the parts. -/
theorem nextPart?_of_start {started : Decoder} (hopen : decoder.phase.isOpen)
    (hstart : decoder.start = .ok () started) : decoder.nextPart? = started.nextPart? := by
  have hscanning := (start_readsOn hstart).2 hopen
  have hagain : started.start = .ok () started := by
    simp only [start, hscanning]
  have hopen' : started.phase.isOpen := by
    rw [hscanning]
    rfl
  simp only [nextPart?, hopen, hopen', hstart, hagain]

/-- The parts that are read from a message are the parts of the message. -/
theorem extractions_of_faces (hphase : decoder.phase = .fresh)
    (hline : decoder.delimiter.OnOneLine) (hmessage : message.WellFormed decoder.delimiter)
    (hfits : ∀ entity ∈ message.entities, entity.Fits decoder.settings)
    (hfaces : decoder.cursor.Faces 0 (message.bytes decoder.delimiter)) :
    ∃ after, decoder.extractions message.entities.length =
        some (message.parts decoder.delimiter, after) ∧
      after.phase = .closed := by
  obtain ⟨started, hstart, hawaits, hdelimiter, hsettings⟩ :=
    start_of_faces hphase hline hmessage hfaces
  obtain ⟨after, hparts, hclosed⟩ := hawaits.extractions (hdelimiter ▸ hline)
    (hdelimiter ▸ hmessage.entities) (hsettings ▸ hfits)
  rw [hdelimiter] at hparts
  refine ⟨after, ?_, hclosed⟩
  cases hcount : message.entities.length with
  | zero => exact absurd (List.length_eq_zero_iff.mp hcount) hmessage.entities_ne_nil
  | succ n =>
      rw [hcount, extractions_succ_front] at hparts
      rw [extractions_succ_front, nextPart?_of_start (by rw [hphase]; rfl) hstart]
      exact hparts

end Decoder

end Multipart
