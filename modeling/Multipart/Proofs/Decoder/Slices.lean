import Multipart.Proofs.Decoder.Bisimulation
import Multipart.Proofs.Scan.Search

/-! # Parts are slices of the stream

A part is what stands in the stream from its offset up to the line end before the next delimiter, or
up to the end of the stream where that is allowed. Parts do not overlap. -/

namespace Multipart

open Cursor (Reads Leads)

/-! ## Parts in a text -/

/-- A part stands in a text before a line end and, from the offset `stop` on, the delimiter, which
does not stand earlier. -/
structure Part.Framed (part : Part) (delimiter : Delimiter) (text : List UInt8) (stop : Nat) :
    Prop where
  slice : (text.drop part.offset).take part.length = part.data
  line_end : ∃ lineEnd, Body.LineEnd part.data lineEnd ∧
    stop = part.offset + part.length + lineEnd.length ∧
    lineEnd <+: text.drop (part.offset + part.length)
  delimiter_at : delimiter.OccursAt text stop
  free : ∀ offset, part.offset ≤ offset → offset < stop → ¬delimiter.OccursAt text offset

/-- A part goes on to the end of a text, and the delimiter does not stand in it. -/
structure Part.Unended (part : Part) (delimiter : Delimiter) (text : List UInt8) : Prop where
  slice : text.drop part.offset = part.data
  offset_le : part.offset ≤ text.length
  free : ∀ offset, part.offset ≤ offset → ¬delimiter.OccursAt text offset

namespace Part

variable {part : Part} {delimiter : Delimiter} {text : List UInt8} {stop : Nat}

theorem Framed.lt_length (h : part.Framed delimiter text stop) :
    part.offset + part.length < text.length := by
  obtain ⟨lineEnd, -, hstop, -⟩ := h.line_end
  have hle := h.delimiter_at.add_length_le
  have hpos : 0 < delimiter.length := Nat.succ_pos _
  omega

/-- What comes after the delimiter of a part does not matter to it. -/
theorem Framed.append (h : part.Framed delimiter text stop) (more : List UInt8) :
    part.Framed delimiter (text ++ more) stop := by
  have hlt := h.lt_length
  refine ⟨?_, ?_, h.delimiter_at.append more, ?_⟩
  · rw [List.drop_append_of_le_length (by omega),
      List.take_append_of_le_length (by rw [List.length_drop]; omega)]
    exact h.slice
  · obtain ⟨lineEnd, hend, hstop, hprefix⟩ := h.line_end
    refine ⟨lineEnd, hend, hstop, ?_⟩
    rw [List.drop_append_of_le_length (by omega)]
    exact hprefix.trans (List.prefix_append _ _)
  · intro offset hle hstop hoccurs
    have hlast := h.delimiter_at.add_length_le
    exact h.free offset hle hstop (hoccurs.of_append (by omega))

/-- A part that is read between two texts is framed in the whole. -/
theorem framed_of_split {before lineEnd after : List UInt8} (hoffset : part.offset = before.length)
    (hend : Body.LineEnd part.data lineEnd)
    (hfree : delimiter.FreeBefore (part.data ++ lineEnd).length
      (part.data ++ lineEnd ++ delimiter.bytes)) :
    part.Framed delimiter (before ++ (part.data ++ lineEnd ++ delimiter.bytes) ++ after)
      (part.offset + part.length + lineEnd.length) := by
  suffices h : part.Framed delimiter (before ++ (part.data ++ lineEnd ++ delimiter.bytes))
      (part.offset + part.length + lineEnd.length) from h.append after
  have hdrop : (before ++ (part.data ++ lineEnd ++ delimiter.bytes)).drop part.offset =
      part.data ++ (lineEnd ++ delimiter.bytes) := by
    rw [hoffset, List.drop_left, List.append_assoc]
  refine ⟨?_, ⟨lineEnd, hend, rfl, ?_⟩, ?_, ?_⟩
  · rw [hdrop, length, List.take_left]
  · rw [← List.drop_drop, hdrop, length, List.drop_left]
    exact List.prefix_append _ _
  · have hstop : (before ++ (part.data ++ lineEnd ++ delimiter.bytes)).drop
        (part.offset + part.length + lineEnd.length) = delimiter.bytes := by
      rw [Nat.add_assoc, ← List.drop_drop, hdrop, length, ← List.append_assoc,
        ← List.length_append, List.drop_left]
    simp only [Delimiter.OccursAt, hstop, List.prefix_rfl]
  · intro offset hle hlt hoccurs
    obtain ⟨rest, rfl⟩ := Nat.exists_eq_add_of_le hle
    rw [hoffset, Delimiter.occursAt_append] at hoccurs
    refine hfree rest ?_ [] ((List.append_nil _).symm ▸ hoccurs)
    rw [List.length_append, ← length]
    omega

/-- A part that is read from a place up to the end of a text goes on to the end. -/
theorem unended_of_split {before : List UInt8} (hoffset : part.offset = before.length)
    (hnone : ∀ offset, ¬delimiter.OccursAt part.data offset) :
    part.Unended delimiter (before ++ part.data) := by
  refine ⟨?_, ?_, ?_⟩
  · rw [hoffset, List.drop_left]
  · rw [hoffset, List.length_append]
    exact Nat.le_add_right _ _
  · intro offset hle hoccurs
    obtain ⟨rest, rfl⟩ := Nat.exists_eq_add_of_le hle
    rw [hoffset, Delimiter.occursAt_append] at hoccurs
    exact hnone rest hoccurs

end Part

/-! ## The end of the stream -/

/-- A stream reports its end after so many bytes: nothing follows, or a pause, or it hands out no
byte there. -/
def Source.ReportsEndAt (source : Source) (count : Nat) : Prop :=
  ∃ passed rest, source.script = passed ++ rest ∧ (Moment.bytes passed).length = count ∧
    (rest = [] ∨ rest.head? = some .pause ∨ source.portion (source.pulled + count) = some 0)

theorem Cursor.reportsEndAt_of_next_none {start before after : Cursor} {passed : List Moment}
    (hstart : start.ahead = []) (hpasses : Passes start passed before)
    (h : before.next = .ok none after) :
    start.source.ReportsEndAt (Moment.bytes passed).length := by
  obtain ⟨hahead, -⟩ := passes_of_next_none h
  have hscript := hpasses.upcoming_eq
  rw [upcoming, hstart, List.map_nil, List.nil_append] at hscript
  refine ⟨passed, before.upcoming, hscript, rfl, ?_⟩
  have hnexts := nexts_next before
  rw [h] at hnexts
  cases hnexts with
  | pause hpause _ =>
      refine .inr (.inl ?_)
      rw [hpause.upcoming_eq]
      rfl
  | ended _ _ hend =>
      refine hend.imp_right fun hportion => .inr ?_
      have hpulled := hpasses.pulled_eq
      rw [hstart, hahead, List.length_nil] at hpulled
      rwa [hpasses.portion_eq, show before.source.pulled =
        start.source.pulled + (Moment.bytes passed).length by simpa using hpulled] at hportion

namespace Decoder

/-! ## Reading a part -/

/-- How a part may be read from a cursor, and what follows it. -/
inductive ReadsPart (delimiter : Delimiter) (start : Cursor) (part : Part) :
    Phase → Cursor → Prop
  | framed {lineEnd : List UInt8} {between after : Cursor} {phase : Phase} :
      Reads start (part.data ++ lineEnd ++ delimiter.bytes) between →
      Body.LineEnd part.data lineEnd →
      delimiter.FreeBefore (part.data ++ lineEnd).length
        (part.data ++ lineEnd ++ delimiter.bytes) →
      Leads between after → ReadsPart delimiter start part phase after
  | unended {before after : Cursor} :
      Reads start part.data before → before.next = .ok none after →
      (∀ offset, ¬delimiter.OccursAt part.data offset) →
      ReadsPart delimiter start part .exhausted after.clearMark

theorem scan_ok {decoder after : Decoder} {body left : Option Body} {outcome : Outcome}
    (h : decoder.scan body = .ok (outcome, left) after) :
    (Scan.find decoder.delimiter decoder.cursor body).outcome = .ok outcome ∧
      left = (Scan.find decoder.delimiter decoder.cursor body).body ∧
      after.cursor = (Scan.find decoder.delimiter decoder.cursor body).cursor := by
  simp only [scan] at h
  split at h
  · rename_i found hfound
    cases h
    refine ⟨hfound, rfl, ?_⟩
    cases (Scan.find decoder.delimiter decoder.cursor body).matched <;> rfl
  · cases h

theorem leads_delimiterLine {cursor after : Cursor} {kind : DelimiterKind}
    (h : Scan.delimiterLine cursor = .ok kind after) : Leads cursor after := by
  have hline := (Scan.related_delimiterLine (Cursor.bisimulation_ahead cursor).inStep
    (Cursor.Ahead.refl cursor)).state
  rw [h] at hline
  exact hline.2

theorem endWithStream_cursor {decoder after : Decoder} {offset : Nat} {body : Body}
    {phase : Phase} (h : decoder.endWithStream offset body = .ok phase after) :
    after.cursor = decoder.cursor := by
  simp only [endWithStream] at h
  split at h
  · cases hlimit : body.checkLimit with
    | error error => simp [hlimit] at h
    | ok _ =>
        rw [hlimit] at h
        cases h
        rfl
  · cases h

/-- A body that is read up to a delimiter is framed by it. -/
theorem readsPart_of_found {delimiter : Delimiter} {start : Cursor} {limit : Nat}
    {kind : DelimiterKind} {part : Part} (phase : Phase)
    (h : (Scan.find delimiter start (some (Body.empty limit))).outcome = .ok (.found kind))
    (hdata : part.data = ((Scan.find delimiter start (some (Body.empty limit))).body.getD
      (Body.empty limit)).bytes) :
    ReadsPart delimiter start part phase
      (Scan.find delimiter start (some (Body.empty limit))).cursor := by
  obtain ⟨front, between, after, hreads, hfree, hlast, hline, hcursor⟩ := Scan.find_found h
  simp only [Scan.terminate, Scan.grow, Option.map_some] at hlast
  split at hlast
  · cases hlast
  · rename_i body hbody
    simp only [EStateM.Result.ok.injEq, true_and] at hlast
    rw [← hlast, Option.getD_some] at hdata
    obtain ⟨-, -, lineEnd, hend, hfront⟩ := Body.terminate_eq_ok hbody
    rw [Body.bytes_extend, Body.bytes_empty, List.nil_append, ← hdata] at hfront
    rw [hfront] at hreads hfree
    rw [hcursor]
    exact .framed hreads (hdata ▸ hend) hfree
      ((leads_delimiterLine hline).trans ⟨[], Cursor.passes_clearMark after⟩)

theorem readsPart_of_ended {delimiter : Delimiter} {start : Cursor} {limit : Nat}
    {place : StreamEnd} {part : Part}
    (h : (Scan.find delimiter start (some (Body.empty limit))).outcome = .ok (.ended place))
    (hdata : part.data = ((Scan.find delimiter start (some (Body.empty limit))).body.getD
      (Body.empty limit)).bytes) :
    ReadsPart delimiter start part .exhausted
      (Scan.find delimiter start (some (Body.empty limit))).cursor := by
  obtain ⟨read, before, after, hreads, hend, hnone, hbody, hcursor⟩ := Scan.find_ended h
  rw [hbody, Scan.grow, Option.map_some, Option.getD_some, Body.bytes_extend, Body.bytes_empty,
    List.nil_append] at hdata
  rw [hcursor]
  exact .unended (hdata ▸ hreads) hend (hdata ▸ hnone)

theorem readPart_ok {decoder after : Decoder} {part : Part} {phase : Phase}
    (h : decoder.readPart = .ok (part, phase) after) :
    ∃ start, Leads decoder.cursor start ∧ part.offset = start.position ∧
      ReadsPart decoder.delimiter start part phase after.cursor := by
  have hleads := leads_readHeaders decoder
  have hsame := readHeaders_readsOn decoder
  simp only [readPart] at h
  cases hheaders : decoder.readHeaders with
  | error error failed => simp [hheaders] at h
  | ok headers started =>
      rw [hheaders] at hleads hsame
      obtain ⟨cursor, log, rfl⟩ := hsame
      refine ⟨cursor, hleads, ?_⟩
      simp only [hheaders] at h
      split at h
      · cases h
      · rename_i data next read hbody
        cases h
        refine ⟨rfl, ?_⟩
        simp only [readBody] at hbody
        split at hbody
        · cases hbody
        · rename_i outcome left scanned hscan
          obtain ⟨hfind, rfl, hcursor⟩ := scan_ok hscan
          split at hbody
          · cases hbody
            rw [hcursor]
            exact readsPart_of_found _ hfind rfl
          · cases hbody
            rw [hcursor]
            exact readsPart_of_found _ hfind rfl
          · split at hbody
            · cases hbody
            · rename_i hend
              cases hbody
              obtain ⟨rfl, -⟩ := endWithStream_phase hend
              rw [endWithStream_cursor hend, hcursor]
              exact readsPart_of_ended hfind rfl

/-! ## Parts in a row -/

/-- What extractions in a row from a fresh decoder make of the moments that they pass. -/
structure Tiled (fresh decoder : Decoder) (parts : List Part) (passed : List Moment) : Prop where
  passes : Cursor.Passes fresh.cursor passed decoder.cursor
  delimiter_eq : decoder.delimiter = fresh.delimiter
  settings_eq : decoder.settings = fresh.settings
  placed : ∀ part ∈ parts,
    (∃ stop, part.Framed fresh.delimiter (Moment.bytes passed) stop) ∨
      decoder.phase = .exhausted ∧ fresh.settings.allowUnterminatedFinalPart ∧
        parts.getLast? = some part ∧ part.Unended fresh.delimiter (Moment.bytes passed) ∧
        fresh.cursor.source.ReportsEndAt (Moment.bytes passed).length ∧ decoder.cursor.ahead = []
  ordered : parts.Pairwise fun first second => first.offset + first.length < second.offset

theorem Tiled.framed {fresh decoder : Decoder} {parts : List Part} {passed : List Moment}
    (h : Tiled fresh decoder parts passed) (hopen : decoder.phase.isOpen) :
    ∀ part ∈ parts, ∃ stop, part.Framed fresh.delimiter (Moment.bytes passed) stop := by
  intro part hpart
  rcases h.placed part hpart with hframed | ⟨hphase, -⟩
  · exact hframed
  · simp [hphase, Phase.isOpen] at hopen

/-- The parts before stay where they are, whatever comes after them. -/
theorem Tiled.framed_append {fresh decoder : Decoder} {parts : List Part} {passed : List Moment}
    (h : Tiled fresh decoder parts passed) (hopen : decoder.phase.isOpen) (skipped : List Moment)
    (more : List UInt8) : ∀ part ∈ parts, ∃ stop,
      part.Framed fresh.delimiter (Moment.bytes (passed ++ skipped) ++ more) stop := by
  intro part hpart
  obtain ⟨stop, hstop⟩ := h.framed hopen part hpart
  rw [Moment.bytes_append, List.append_assoc]
  exact ⟨stop, hstop.append _⟩

/-- A part that starts after all that is passed comes after the parts before. -/
theorem Tiled.ordered_concat {fresh decoder : Decoder} {parts : List Part}
    {passed skipped : List Moment} {part : Part} (h : Tiled fresh decoder parts passed)
    (hopen : decoder.phase.isOpen)
    (hoffset : part.offset = (Moment.bytes (passed ++ skipped)).length) :
    (parts ++ [part]).Pairwise fun first second => first.offset + first.length < second.offset := by
  refine List.pairwise_append.mpr ⟨h.ordered, List.pairwise_singleton _ _, ?_⟩
  intro earlier hearlier last hlast
  obtain ⟨stop, hstop⟩ := h.framed hopen earlier hearlier
  have hlt := hstop.lt_length
  rw [List.mem_singleton.mp hlast, hoffset, Moment.bytes_append, List.length_append]
  omega

/-- The part that is next is read from where the decoder has come to or further on. -/
theorem reads_of_nextPart? {decoder after : Decoder} {part : Part}
    (h : decoder.nextPart? = some (part, after)) :
    (after.phase = .exhausted → decoder.settings.allowUnterminatedFinalPart) ∧
      ∃ start, Leads decoder.cursor start ∧ part.offset = start.position ∧
        ReadsPart decoder.delimiter start part after.phase after.cursor := by
  obtain ⟨-, started, phase, read, hstart, hread, hafter⟩ := nextPart?_eq_some_iff.mp h
  have hleads := leads_start decoder
  rw [hstart] at hleads
  obtain ⟨start, hbetween, hoffset, hreads⟩ := readPart_ok hread
  have hphase := readPart_phase hread
  obtain ⟨_, _, hstarted⟩ := (start_readsOn hstart).1
  have hcursor : after.cursor = read.cursor := by rw [hafter, cursor_keep]
  have hlast : after.phase = phase := by rw [hafter, keep]
  have hdelimiter : started.delimiter = decoder.delimiter := by rw [hstarted]
  have hsettings : started.settings = decoder.settings := by rw [hstarted]
  rw [hdelimiter] at hreads
  rw [hsettings] at hphase
  refine ⟨?_, start, hleads.trans hbetween, hoffset, ?_⟩
  · rw [hlast]
    rintro rfl
    simpa using hphase
  · rw [hcursor, hlast]
    exact hreads

/-- One more part stands after those before it. -/
theorem Tiled.nextPart? {fresh decoder after : Decoder} {parts : List Part}
    {passed : List Moment} {part : Part} (hposition : fresh.cursor.position = 0)
    (hahead : fresh.cursor.ahead = []) (h : Tiled fresh decoder parts passed)
    (hpart : decoder.nextPart? = some (part, after)) :
    ∃ passed, Tiled fresh after (parts ++ [part]) passed := by
  have hopen := (nextPart?_eq_some_iff.mp hpart).1
  obtain ⟨hdelimiter, hsettings, -⟩ := setting_of_nextPart? hpart
  obtain ⟨hallowed, start, ⟨skipped, hskipped⟩, hoffset, hreads⟩ := reads_of_nextPart? hpart
  rw [h.delimiter_eq] at hdelimiter hreads
  rw [h.settings_eq] at hsettings hallowed
  have hstart := h.passes.trans hskipped
  have hbefore : part.offset = (Moment.bytes (passed ++ skipped)).length := by
    rw [hoffset, hstart.position_eq, hposition, Nat.zero_add]
  have hordered := h.ordered_concat hopen hbefore
  generalize hphase : after.phase = phase at hreads hallowed
  generalize hcursor : after.cursor = cursor at hreads
  cases hreads with
  | @framed lineEnd between _ _ hbody hend hfree hafter =>
      obtain ⟨rest, hrest⟩ := hafter
      have hall := (hstart.trans hbody).trans hrest
      refine ⟨_, hcursor ▸ hall, hdelimiter, hsettings, ?_, hordered⟩
      rw [Moment.bytes_append, Moment.bytes_append, Moment.bytes_map_byte]
      intro one hone
      rcases List.mem_append.mp hone with hone | hone
      · rw [List.append_assoc]
        exact .inl (h.framed_append hopen skipped _ one hone)
      · rw [List.mem_singleton.mp hone]
        exact .inl ⟨_, Part.framed_of_split hbefore hend hfree⟩
  | @unended before last hbody hlast hnone =>
      obtain ⟨-, hafter, idle, hidle, hrest⟩ := Cursor.passes_of_next_none hlast
      have hread := hstart.trans hbody
      have hall := (hread.trans hrest).trans (Cursor.passes_clearMark last)
      have hreport := Cursor.reportsEndAt_of_next_none hahead hread hlast
      refine ⟨_, hcursor ▸ hall, hdelimiter, hsettings, ?_, hordered⟩
      rw [Moment.bytes_append, Moment.bytes_append, hidle, Moment.bytes_nil, List.append_nil,
        List.append_nil]
      rw [Moment.bytes_append, Moment.bytes_map_byte] at hreport ⊢
      intro one hone
      rcases List.mem_append.mp hone with hone | hone
      · exact .inl (h.framed_append hopen skipped _ one hone)
      · rw [List.mem_singleton.mp hone]
        exact .inr ⟨hphase, hallowed rfl, List.getLast?_concat,
          Part.unended_of_split hbefore hnone, hreport, hcursor ▸ hafter⟩

theorem tiled_extractions {fresh decoder : Decoder} {n : Nat} {parts : List Part}
    (hposition : fresh.cursor.position = 0) (hahead : fresh.cursor.ahead = [])
    (h : fresh.extractions n = some (parts, decoder)) :
    ∃ passed, Tiled fresh decoder parts passed := by
  induction n generalizing parts decoder with
  | zero =>
      obtain ⟨rfl, rfl⟩ := extractions_zero.mp h
      exact ⟨[], .refl _, rfl, rfl, by simp, .nil⟩
  | succ n ih =>
      obtain ⟨before, last, state, hbefore, hlast, rfl⟩ := extractions_succ.mp h
      obtain ⟨passed, hpassed⟩ := ih hbefore
      exact hpassed.nextPart? hposition hahead hlast

/-! ## What is held -/

/-- A part is held as the root or as an attachment. -/
def Holds (decoder : Decoder) (part : Part) : Prop :=
  decoder.root = some part ∨ ∃ id, decoder.attachments.get? id = some part

theorem holds_withPart {decoder : Decoder} {part held : Part}
    (h : (decoder.withPart part).Holds held) : held = part ∨ decoder.Holds held := by
  simp only [Holds, withPart, attachmentsWith] at h
  rcases h with hroot | ⟨id, hid⟩
  · split at hroot
    · exact .inl (Option.some.inj hroot).symm
    · exact .inr (.inl hroot)
  · split at hid
    · exact .inr (.inr ⟨id, hid⟩)
    · split at hid
      · rename_i key hkey
        rw [Table.get?_insert] at hid
        split at hid
        · exact .inl (Option.some.inj hid).symm
        · exact .inr (.inr ⟨id, hid⟩)
      · exact .inr (.inr ⟨id, hid⟩)

/-- What is held has been read. -/
theorem mem_of_holds {fresh decoder : Decoder} {n : Nat} {parts : List Part}
    (hnone : ∀ part, ¬fresh.Holds part) (h : fresh.extractions n = some (parts, decoder))
    {part : Part} (hheld : decoder.Holds part) : part ∈ parts := by
  induction n generalizing parts decoder with
  | zero =>
      obtain ⟨rfl, rfl⟩ := extractions_zero.mp h
      exact absurd hheld (hnone part)
  | succ n ih =>
      obtain ⟨before, last, state, hbefore, hlast, rfl⟩ := extractions_succ.mp h
      obtain ⟨_, _, hsame⟩ := (nextPart?_files hlast).1
      rw [hsame] at hheld
      rcases holds_withPart hheld with rfl | hstate
      · simp
      · exact List.mem_append_left _ (ih hbefore hstate)

/-! ## Any point of a run -/

/-- The bytes that a stream has delivered to a decoder. -/
def delivered (source : Source) (decoder : Decoder) : List UInt8 :=
  (Moment.bytes source.script).take (decoder.cursor.source.pulled - source.pulled)

theorem delivered_eq {source : Source} {cursor : Cursor} {decoder : Decoder}
    {passed : List Moment} (hsource : cursor.source = source) (hahead : cursor.ahead = [])
    (h : Cursor.Passes cursor passed decoder.cursor) :
    delivered source decoder = Moment.bytes passed ++ decoder.cursor.ahead := by
  have hscript := h.upcoming_eq
  have hpulled := h.pulled_eq
  rw [Cursor.upcoming, hahead, List.map_nil, List.nil_append, hsource, Cursor.upcoming] at hscript
  rw [hahead, hsource, List.length_nil, Nat.add_zero, Nat.add_assoc] at hpulled
  rw [delivered, hscript, hpulled, Nat.add_sub_cancel_left, Moment.bytes_append,
    Moment.bytes_append, Moment.bytes_map_byte, ← List.append_assoc, ← List.length_append,
    List.take_left]

/-- The parts that a run has read, at any point of it, and how they stand in the bytes that the
stream has delivered until then. -/
structure Sliced (source : Source) (fresh decoder : Decoder) (parts : List Part) : Prop where
  /-- They are the parts of so many extractions as are counted, in their order. -/
  extracted : ∃ state, fresh.extractions decoder.count = some (parts, state)
  held : ∀ part, decoder.Holds part → part ∈ parts
  /-- A part is framed, or is the last one and goes on to where the stream reports its end. -/
  placed : ∀ part ∈ parts,
    (∃ stop, part.Framed fresh.delimiter (delivered source decoder) stop) ∨
      fresh.settings.allowUnterminatedFinalPart ∧ parts.getLast? = some part ∧
        part.Unended fresh.delimiter (delivered source decoder) ∧
        source.ReportsEndAt (delivered source decoder).length
  ordered : parts.Pairwise fun first second => first.offset + first.length < second.offset

theorem Tiled.sliced {source : Source} {fresh decoder : Decoder} {parts : List Part}
    {passed : List Moment} (hsource : fresh.cursor.source = source)
    (hahead : fresh.cursor.ahead = []) (hnone : ∀ part, ¬fresh.Holds part)
    (hextracted : fresh.extractions decoder.count = some (parts, decoder))
    (h : Tiled fresh decoder parts passed) : Sliced source fresh decoder parts := by
  have hdelivered := delivered_eq hsource hahead h.passes
  refine ⟨⟨decoder, hextracted⟩, fun part => mem_of_holds hnone hextracted, ?_, h.ordered⟩
  intro part hpart
  rcases h.placed part hpart with ⟨stop, hstop⟩ | ⟨-, hallowed, hlast, hunended, hend, hempty⟩
  · exact .inl ⟨stop, hdelivered ▸ hstop.append _⟩
  · rw [hempty, List.append_nil] at hdelivered
    exact .inr ⟨hallowed, hlast, hdelivered ▸ hunended, hdelivered ▸ hsource ▸ hend⟩

/-- A failure keeps the parts that were read before it, which stand as they stood. -/
theorem Tiled.sliced_of_failed {source : Source} {fresh decoder failed : Decoder}
    {parts : List Part} {passed : List Moment} {error : Error}
    (hsource : fresh.cursor.source = source) (hahead : fresh.cursor.ahead = [])
    (hnone : ∀ part, ¬fresh.Holds part)
    (hextracted : fresh.extractions decoder.count = some (parts, decoder))
    (hopen : decoder.phase.isOpen) (hfailed : decoder.advance = .error error failed)
    (h : Tiled fresh decoder parts passed) : Sliced source fresh failed parts := by
  have hleads := leads_advance decoder
  rw [hfailed] at hleads
  obtain ⟨more, hmore⟩ := hleads
  have hdelivered := delivered_eq hsource hahead (h.passes.trans hmore)
  rw [Moment.bytes_append, List.append_assoc] at hdelivered
  obtain ⟨_, _, hsame⟩ := advance_error_readsOn hfailed
  have hcount : failed.count = decoder.count := by rw [hsame]
  refine ⟨⟨decoder, hcount ▸ hextracted⟩, ?_, ?_, h.ordered⟩
  · intro part hheld
    rw [hsame] at hheld
    exact mem_of_holds hnone hextracted hheld
  · intro part hpart
    obtain ⟨stop, hstop⟩ := h.framed hopen part hpart
    exact .inl ⟨stop, hdelivered ▸ hstop.append _⟩

theorem Unread.not_holds {source : Source} {settings : Settings} {fresh : Decoder}
    (h : Unread source settings fresh) (part : Part) : ¬fresh.Holds part := by
  rintro (hroot | ⟨id, hid⟩)
  · rw [h.root_eq] at hroot
    cases hroot
  · rw [h.attachments_eq] at hid
    cases hid

/-- Wherever a run has come to, the parts that it holds are slices of the stream, each between its
offset and the next delimiter, and they stand there in the order in which they were read. -/
theorem held_parts_are_slices {source : Source} {text : String} {settings : Settings}
    {fresh : Decoder} (hnew : ofSource source text settings = .ok fresh) (queries : List Query) :
    ∃ parts, Sliced source fresh (fresh.after queries) parts := by
  have hunread := unread_ofSource hnew
  have hsource := hunread.source_eq
  have hahead := hunread.ahead_eq
  have hnone := hunread.not_holds
  have hcounted : ∀ {n parts decoder}, fresh.extractions n = some (parts, decoder) →
      decoder.count = n := by
    intro n parts decoder hn
    rw [(length_extractions hn).2, hunread.count_eq, Nat.zero_add]
  cases reached_after fresh queries with
  | @extracted n parts _ hn =>
      obtain ⟨passed, hpassed⟩ := tiled_extractions hunread.position_eq hahead hn
      exact ⟨parts, hpassed.sliced hsource hahead hnone ((hcounted hn).symm ▸ hn)⟩
  | @failed n parts decoder _ error hn hopen hfailed =>
      obtain ⟨passed, hpassed⟩ := tiled_extractions hunread.position_eq hahead hn
      exact ⟨parts, hpassed.sliced_of_failed hsource hahead hnone ((hcounted hn).symm ▸ hn) hopen
        hfailed⟩

def openEnded : Source :=
  .ofBytes (Text.Utf8.encode "--B\n\nroot\r\n--B\nContent-Id: a\n\n-\r\n--".toList)

theorem held_parts_are_slices_open_ended :
    ∃ fresh, ofSource openEnded "multipart/mixed; boundary=B"
        { allowUnterminatedFinalPart := true } = .ok fresh ∧
      (fresh.after [.root, .attachments]).count = 2 ∧
      ∃ parts, Sliced openEnded fresh (fresh.after [.root, .attachments]) parts := by
  obtain ⟨fresh, hnew, hcount⟩ := exists_of_any openEnded "multipart/mixed; boundary=B"
    { allowUnterminatedFinalPart := true }
    (fun fresh => (fresh.after [.root, .attachments]).count = 2) (by decide +kernel)
  exact ⟨fresh, hnew, by simpa using hcount, held_parts_are_slices hnew _⟩

end Decoder

end Multipart
