import Multipart.Proofs.Decoder.Progress
import Multipart.Proofs.Scan.Grammar
import Multipart.Proofs.Scan.Naive
import Multipart.Proofs.Scan.Pieces

/-! # The size limit of a part

Whether a part is refused for its size depends on the bytes before its delimiter and on the limit,
and on nothing else: not on how they arrive, nor on how the window cuts them. -/

namespace Multipart

/-- A cursor that is led on without faults still faces what it has not passed. -/
theorem Cursor.Faces.of_leads {cursor after : Cursor} {text : List UInt8} (h : cursor.Faces 0 text)
    (hleads : Leads cursor after) : after.Faces after.position (text.drop after.position) := by
  obtain ⟨moments, hpasses⟩ := hleads
  obtain ⟨bytes, rest, -, rfl, hafter⟩ := h.passes hpasses
  have hposition := hafter.position_eq
  rw [Nat.zero_add] at hposition hafter
  rwa [hposition, List.drop_left]

def Error.isOfDelimiterLine : Error → Bool
  | unendedDelimiterLine _ | loneHyphen _ => true
  | _ => false

/-- What becomes of a body that starts at an offset, before a text: the bytes that are kept, or why
it is refused. -/
def Settings.verdict (settings : Settings) (delimiter : Delimiter) (offset : Nat)
    (text : List UInt8) : Except Error (List UInt8) :=
  let body := delimiter.textBefore text
  if Body.capacity settings.maxPartSize < body.length then
    .error (.bodyTooLong settings.maxPartSize)
  else
    match delimiter.firstIn text with
    | some index =>
        if Body.EndsLine body then
          if settings.maxPartSize < (Body.withoutLineEnd body).length then
            .error (.bodyTooLong settings.maxPartSize)
          else .ok (Body.withoutLineEnd body)
        else .error (.delimiterInsideLine (offset + index))
    | none =>
        if settings.allowUnterminatedFinalPart then
          if settings.maxPartSize < body.length then .error (.bodyTooLong settings.maxPartSize)
          else .ok body
        else .error (.unendedPart (offset + text.length))

namespace Settings

variable {settings : Settings} {delimiter : Delimiter} {offset index : Nat} {text : List UInt8}

theorem verdict_of_long
    (h : Body.capacity settings.maxPartSize < (delimiter.textBefore text).length) :
    settings.verdict delimiter offset text = .error (.bodyTooLong settings.maxPartSize) := by
  rw [verdict, if_pos h]

theorem verdict_of_some
    (h : (delimiter.textBefore text).length ≤ Body.capacity settings.maxPartSize)
    (hindex : delimiter.firstIn text = some index) :
    settings.verdict delimiter offset text =
      if Body.EndsLine (delimiter.textBefore text) then
        if settings.maxPartSize < (Body.withoutLineEnd (delimiter.textBefore text)).length then
          .error (.bodyTooLong settings.maxPartSize)
        else .ok (Body.withoutLineEnd (delimiter.textBefore text))
      else .error (.delimiterInsideLine (offset + index)) := by
  rw [verdict, if_neg (Nat.not_lt_of_le h), hindex]

theorem verdict_of_none
    (h : (delimiter.textBefore text).length ≤ Body.capacity settings.maxPartSize)
    (hnone : delimiter.firstIn text = none) :
    settings.verdict delimiter offset text =
      if settings.allowUnterminatedFinalPart then
        if settings.maxPartSize < text.length then .error (.bodyTooLong settings.maxPartSize)
        else .ok text
      else .error (.unendedPart (offset + text.length)) := by
  rw [verdict, if_neg (Nat.not_lt_of_le h), hnone, Delimiter.textBefore_of_none hnone]

/-- A body within the limit is kept, if with its line end it can be counted. -/
theorem verdict_of_lineEnd {data lineEnd : List UInt8}
    (hindex : delimiter.firstIn text = some index) (hsplit : text.take index = data ++ lineEnd)
    (hend : Body.LineEnd data lineEnd) (hlimit : data.length ≤ settings.maxPartSize)
    (hword : index ≤ maxWord) :
    settings.verdict delimiter offset text = .ok (Body.withoutLineEnd (data ++ lineEnd)) := by
  have hbefore := Delimiter.textBefore_of_some hindex
  have hlength := delimiter.length_textBefore_of_some hindex
  have hless := hend.length_withoutLineEnd_le
  have htwo := hend.length_le
  rw [hsplit] at hbefore
  have hfits : (delimiter.textBefore text).length ≤ Body.capacity settings.maxPartSize := by
    have hsum := congrArg List.length hbefore
    rw [List.length_append] at hsum
    rw [Body.capacity, addCapped]
    omega
  rw [verdict_of_some hfits hindex, hbefore, if_pos hend.endsLine, if_neg (by omega)]

/-- Three bytes and an LF have room where two bytes are allowed, but are too many. -/
example : verdict { maxPartSize := 2 } (.ofBytes [66]) 5
    [97, 98, 99, Octet.lf, Octet.dash, Octet.dash, 66] = .error (.bodyTooLong 2) := rfl

end Settings

namespace Decoder

variable {decoder : Decoder} {offset index : Nat} {text data : List UInt8} {error : Error}
  {after : Cursor}

/-! ## Reading a body -/

/-- An answer to the reading of a body does what a verdict on it says. Where bytes are to be kept
and a delimiter follows, the line of the delimiter may yet be malformed. -/
inductive Obeys (first : Option Nat) :
    Except Error (List UInt8) → Answer (List UInt8 × Phase) → Prop
  | refused {error : Error} {failed : Decoder} : Obeys first (.error error) (.error error failed)
  | kept {data : List UInt8} {phase : Phase} {after : Decoder} :
      Obeys first (.ok data) (.ok (data, phase) after)
  | brokenLine {data : List UInt8} {error : Error} {failed : Decoder} : first.isSome →
      error.isOfDelimiterLine → Obeys first (.ok data) (.error error failed)

theorem readBody_of_failed {last : Option Body} (start : Nat)
    (hseek : Scan.seek decoder.delimiter decoder.cursor
      (some (.empty decoder.settings.maxPartSize)) = ⟨.failed error, after, last⟩) :
    ∃ failed, decoder.readBody start = .error error failed := by
  simp only [readBody, scan, Scan.find, hseek]
  exact ⟨_, rfl⟩

theorem isOfDelimiterLine_of_faces {failed : Cursor} (h : after.Faces offset text)
    (hline : Scan.delimiterLine after = .error error failed) : error.isOfDelimiterLine := by
  have hread := Scan.lineRead_delimiterLine h
  rw [hline] at hread
  cases hread with
  | loneHyphen => rfl
  | unended => rfl

/-- Once the delimiter is found, all depends on its line. -/
theorem obeys_of_matched {place limit : Nat} (index start : Nat) (h : after.Faces offset text)
    (hseek : Scan.seek decoder.delimiter decoder.cursor
      (some (.empty decoder.settings.maxPartSize)) =
        ⟨.matched place, after, some ((Body.empty limit).extend data)⟩) :
    Obeys (some index) (.ok data) (decoder.readBody start) := by
  have hbytes : ((Body.empty limit).extend data).bytes = data := by simp
  cases hline : Scan.delimiterLine after with
  | error error failed =>
      simp only [readBody, scan, Scan.find, hseek, hline]
      exact .brokenLine rfl (isOfDelimiterLine_of_faces h hline)
  | ok kind rest =>
      have hfind : Scan.find decoder.delimiter decoder.cursor
          (some (.empty decoder.settings.maxPartSize)) = ⟨.ok (.found kind), rest.clearMark,
            some ((Body.empty limit).extend data), some place⟩ := by
        simp only [Scan.find, hseek, hline]
      obtain ⟨log, hscan⟩ := scan_eq_of_find hfind
      simp only [readBody, hscan, Option.getD_some, hbytes]
      cases kind with
      | opening => exact .kept
      | closing => exact .kept

/-- At the end of the stream, all depends on whether the last part may end there. -/
theorem obeys_of_ended {place : StreamEnd} (start : Nat) (h : after.Faces offset [])
    (hseek : Scan.seek decoder.delimiter decoder.cursor
      (some (.empty decoder.settings.maxPartSize)) =
        ⟨.ended place, after, some ((Body.empty decoder.settings.maxPartSize).extend data)⟩) :
    Obeys none
      (if decoder.settings.allowUnterminatedFinalPart then
        if decoder.settings.maxPartSize < data.length then
          .error (.bodyTooLong decoder.settings.maxPartSize)
        else .ok data
      else .error (.unendedPart offset)) (decoder.readBody start) := by
  have hbytes : ((Body.empty decoder.settings.maxPartSize).extend data).bytes = data := by simp
  have hsize : ((Body.empty decoder.settings.maxPartSize).extend data).size = data.length := by simp
  have hfind : Scan.find decoder.delimiter decoder.cursor
      (some (.empty decoder.settings.maxPartSize)) = ⟨.ok (.ended place), after.clearMark,
        some ((Body.empty decoder.settings.maxPartSize).extend data), none⟩ := by
    simp only [Scan.find, hseek]
  have hposition : after.clearMark.position = offset := h.clearMark.position_eq
  obtain ⟨log, hscan⟩ := scan_eq_of_find hfind
  simp only [readBody, hscan, Option.getD_some, endWithStream, position, Body.checkLimit, hsize,
    Body.limit_extend, Body.limit_empty, hbytes]
  by_cases hallow : decoder.settings.allowUnterminatedFinalPart
  · rw [if_pos hallow, if_pos hallow]
    by_cases hlong : decoder.settings.maxPartSize < data.length
    · rw [if_pos hlong, if_pos hlong]
      exact .refused
    · rw [if_neg hlong, if_neg hlong]
      exact .kept
  · rw [if_neg hallow, if_neg hallow, hposition]
    exact .refused

/-- A body before a delimiter is kept without its line end, if there is one and the rest fits. -/
theorem obeys_of_found (start : Nat) (h : decoder.cursor.Faces offset text)
    (hfits : (decoder.delimiter.textBefore text).length ≤
      Body.capacity decoder.settings.maxPartSize)
    (hindex : decoder.delimiter.firstIn text = some index) :
    Obeys (some index) (decoder.settings.verdict decoder.delimiter offset text)
      (decoder.readBody start) := by
  obtain ⟨between, hbetween, hseek⟩ := Scan.seek_of_found h hfits hindex
  rw [Settings.verdict_of_some hfits hindex]
  by_cases hends : Body.EndsLine (decoder.delimiter.textBefore text)
  · rw [if_pos hends] at hseek ⊢
    by_cases hlong : decoder.settings.maxPartSize <
        (Body.withoutLineEnd (decoder.delimiter.textBefore text)).length
    · rw [if_pos hlong] at hseek ⊢
      obtain ⟨failed, hfailed⟩ := readBody_of_failed start hseek
      rw [hfailed]
      exact .refused
    · rw [if_neg hlong] at hseek ⊢
      exact obeys_of_matched index start hbetween hseek
  · rw [if_neg hends] at hseek ⊢
    obtain ⟨failed, hfailed⟩ := readBody_of_failed start hseek
    rw [hfailed]
    exact .refused

/-- What is read as a body is what the text before the first delimiter makes it. -/
theorem obeys_readBody (start : Nat) (h : decoder.cursor.Faces offset text) :
    Obeys (decoder.delimiter.firstIn text)
      (decoder.settings.verdict decoder.delimiter offset text) (decoder.readBody start) := by
  by_cases hlong : Body.capacity decoder.settings.maxPartSize <
      (decoder.delimiter.textBefore text).length
  · obtain ⟨after, last, hseek⟩ := Scan.seek_of_long h hlong
    obtain ⟨failed, hfailed⟩ := readBody_of_failed start hseek
    rw [Settings.verdict_of_long hlong, hfailed]
    exact .refused
  · have hfits := Nat.le_of_not_lt hlong
    cases hindex : decoder.delimiter.firstIn text with
    | some index => exact obeys_of_found start h hfits hindex
    | none =>
        obtain ⟨place, after, hafter, hseek⟩ := Scan.seek_of_ended h hfits hindex
        rw [Settings.verdict_of_none hfits hindex]
        exact obeys_of_ended start hafter hseek

/-! ## Reading a part -/

/-- The decoder where the body of the next part starts, if reading comes so far. -/
def bodyStart? (decoder : Decoder) : Option Decoder :=
  if decoder.phase.isOpen then
    match decoder.start with
    | .error _ _ => none
    | .ok () started =>
        match started.readHeaders with
        | .error _ _ => none
        | .ok _ ready => some ready
  else none

variable {ready : Decoder}

theorem bodyStart?_eq_some_iff :
    decoder.bodyStart? = some ready ↔ decoder.phase.isOpen ∧ ∃ started headers,
      decoder.start = .ok () started ∧ started.readHeaders = .ok headers ready := by
  rw [bodyStart?]
  by_cases hopen : decoder.phase.isOpen
  · simp only [hopen, ite_true, true_and]
    cases decoder.start with
    | error error failed => simp
    | ok _ started =>
        cases hheaders : started.readHeaders with
        | error error failed => simp [hheaders]
        | ok headers last => simp [hheaders]
  · simp [hopen]

theorem leads_of_bodyStart? (h : decoder.bodyStart? = some ready) :
    Cursor.Leads decoder.cursor ready.cursor := by
  obtain ⟨-, started, headers, hstart, hheaders⟩ := bodyStart?_eq_some_iff.mp h
  have hfirst := leads_start decoder
  have hsecond := leads_readHeaders started
  rw [hstart] at hfirst
  rw [hheaders] at hsecond
  exact hfirst.trans hsecond

theorem setting_of_bodyStart? (h : decoder.bodyStart? = some ready) :
    ready.delimiter = decoder.delimiter ∧ ready.settings = decoder.settings := by
  obtain ⟨-, started, headers, hstart, hheaders⟩ := bodyStart?_eq_some_iff.mp h
  obtain ⟨_, _, hfirst⟩ := (start_readsOn hstart).1
  have hsecond := readHeaders_readsOn started
  rw [hheaders] at hsecond
  obtain ⟨_, _, rfl⟩ := hsecond
  rw [hfirst]
  exact ⟨rfl, rfl⟩

theorem advance_eq_error_of_bodyStart? {failed : Decoder} (h : decoder.bodyStart? = some ready)
    (hbody : ready.readBody ready.position = .error error failed) :
    ∃ last, decoder.advance = .error error last := by
  obtain ⟨-, started, headers, hstart, hheaders⟩ := bodyStart?_eq_some_iff.mp h
  simp only [advance, extract, hstart, readPart, hheaders, hbody]
  exact ⟨_, rfl⟩

theorem nextPart?_of_bodyStart? {phase : Phase} {read : Decoder}
    (h : decoder.bodyStart? = some ready)
    (hbody : ready.readBody ready.position = .ok (data, phase) read) :
    ∃ part last, decoder.nextPart? = some (part, last) ∧ part.offset = ready.position ∧
      part.data = data := by
  obtain ⟨hopen, started, headers, hstart, hheaders⟩ := bodyStart?_eq_some_iff.mp h
  have hpart : started.readPart = .ok (⟨headers, data, ready.position⟩, phase) read :=
    readPart_ok_iff.mpr ⟨headers, ready, hheaders, rfl, hbody⟩
  have hnext := nextPart?_eq_some_iff.mpr ⟨hopen, started, phase, read, hstart, hpart, rfl⟩
  exact ⟨_, _, hnext, rfl, rfl⟩

/-! ## No part is too long -/

theorem size_le_of_terminate {body : Body} {front : List UInt8} {last : Option Body}
    (h : Scan.terminate (Scan.grow (some body) front) offset = .ok () last) :
    ∃ kept, last = some kept ∧ kept.size ≤ body.limit := by
  simp only [Scan.grow, Option.map_some, Scan.terminate] at h
  cases hend : (body.extend front).terminate offset with
  | error error rest => simp [hend] at h
  | ok _ kept =>
      rw [hend] at h
      cases h
      obtain ⟨hlimit, hle, -⟩ := Body.terminate_eq_ok hend
      exact ⟨kept, rfl, hlimit ▸ hle⟩

theorem size_le_of_endWithStream {body : Body} {phase : Phase} {last : Decoder}
    (h : decoder.endWithStream offset body = .ok phase last) : body.size ≤ body.limit := by
  apply Nat.le_of_not_lt
  intro hlong
  simp only [endWithStream, Body.checkLimit, if_pos hlong] at h
  split at h
  · cases h
  · cases h

theorem length_le_of_readBody {start : Nat} {phase : Phase} {last : Decoder}
    (h : decoder.readBody start = .ok (data, phase) last) :
    data.length ≤ decoder.settings.maxPartSize := by
  have hfound : ∀ {kind : DelimiterKind} {left : Option Body} {scanned : Decoder},
      decoder.scan (some (.empty decoder.settings.maxPartSize)) =
        .ok (.found kind, left) scanned →
      (left.getD (.empty decoder.settings.maxPartSize)).bytes.length ≤
        decoder.settings.maxPartSize := by
    intro kind left scanned hscan
    obtain ⟨hfind, rfl, -⟩ := scan_ok hscan
    obtain ⟨front, between, after, -, -, hlast, -, -⟩ := Scan.find_found hfind
    obtain ⟨kept, hkept, hle⟩ := size_le_of_terminate hlast
    rw [hkept, Option.getD_some, ← kept.size_eq_length]
    exact hle
  simp only [readBody] at h
  split at h
  · cases h
  · rename_i outcome left scanned hscan
    split at h
    · cases h
      exact hfound hscan
    · cases h
      exact hfound hscan
    · split at h
      · cases h
      · rename_i hend
        cases h
        obtain ⟨hfind, rfl, -⟩ := scan_ok hscan
        obtain ⟨read, before, after, -, -, -, hbody, -⟩ := Scan.find_ended hfind
        have hle := size_le_of_endWithStream hend
        rw [hbody, Scan.grow, Option.map_some, Option.getD_some] at hle ⊢
        rwa [← Body.size_eq_length]

theorem length_le_of_nextPart? {part : Part} {last : Decoder}
    (h : decoder.nextPart? = some (part, last)) : part.length ≤ decoder.settings.maxPartSize := by
  obtain ⟨hopen, started, phase, read, hstart, hread, -⟩ := nextPart?_eq_some_iff.mp h
  obtain ⟨headers, ready, hheaders, -, hbody⟩ := readPart_ok_iff.mp hread
  have hready : decoder.bodyStart? = some ready :=
    bodyStart?_eq_some_iff.mpr ⟨hopen, started, headers, hstart, hheaders⟩
  rw [← (setting_of_bodyStart? hready).2]
  exact length_le_of_readBody hbody

theorem length_le_of_extractions {fresh : Decoder} {n : Nat} {parts : List Part}
    (h : fresh.extractions n = some (parts, decoder)) :
    decoder.settings = fresh.settings ∧
      ∀ part ∈ parts, part.length ≤ fresh.settings.maxPartSize := by
  induction n generalizing parts decoder with
  | zero =>
      obtain ⟨rfl, rfl⟩ := extractions_zero.mp h
      exact ⟨rfl, by simp⟩
  | succ n ih =>
      obtain ⟨before, last, state, hbefore, hlast, rfl⟩ := extractions_succ.mp h
      obtain ⟨hsettings, hall⟩ := ih hbefore
      have hlength := length_le_of_nextPart? hlast
      rw [hsettings] at hlength
      refine ⟨(setting_of_nextPart? hlast).2.1.trans hsettings, ?_⟩
      intro part hpart
      rcases List.mem_append.mp hpart with hpart | hpart
      · exact hall part hpart
      · rwa [List.mem_singleton.mp hpart]

/-- Whatever the stream does, no part is held that is longer than the limit. -/
theorem length_le_of_holds {source : Source} {settings : Settings} {fresh : Decoder}
    (h : Unread source settings fresh) (queries : List Query) {part : Part}
    (hheld : (fresh.after queries).Holds part) : part.length ≤ settings.maxPartSize := by
  rw [← h.settings_eq]
  cases reached_after fresh queries with
  | extracted hn => exact (length_le_of_extractions hn).2 part (mem_of_holds h.not_holds hn hheld)
  | failed hn hopen hfailed =>
      obtain ⟨_, _, hsame⟩ := advance_error_readsOn hfailed
      rw [hsame] at hheld
      exact (length_le_of_extractions hn).2 part (mem_of_holds h.not_holds hn hheld)

/-! ## The limit is exact -/

/-- The next part is read, and has these bytes from where `ready` stands, unless the line of the
delimiter after it is malformed. -/
def Keeps (decoder ready : Decoder) (first : Option Nat) (data : List UInt8) : Prop :=
  (∃ part after, decoder.nextPart? = some (part, after) ∧ part.offset = ready.position ∧
      part.data = data) ∨
    first.isSome ∧ ∃ error failed, decoder.advance = .error error failed ∧ error.isOfDelimiterLine

/-- What a decoder makes of its next part, whose body starts where `ready` stands, before a text. -/
structure Judges (decoder ready : Decoder) (settings : Settings) (delimiter : Delimiter)
    (text : List UInt8) : Prop where
  /-- Unless the line of the delimiter is malformed, it fails just where and as the verdict says. -/
  refused : ∀ error, ¬error.isOfDelimiterLine →
    ((∃ failed, decoder.advance = .error error failed) ↔
      settings.verdict delimiter ready.position text = .error error)
  kept : ∀ data, settings.verdict delimiter ready.position text = .ok data →
    decoder.Keeps ready (delimiter.firstIn text) data
  /-- A body within the limit is not refused for its size, whatever line end it has, unless with it
  there are more bytes than can be counted. -/
  within : ∀ index, delimiter.firstIn text = some index →
    ∀ data lineEnd, text.take index = data ++ lineEnd → Body.LineEnd data lineEnd →
      data.length ≤ settings.maxPartSize →
      ((∃ bound failed, decoder.advance = .error (.bodyTooLong bound) failed) ↔ maxWord < index)
  /-- The body is read by adding its pieces one after another. -/
  pieces : Scan.Adds (Scan.seek delimiter ready.cursor none)
    (Scan.pieces delimiter ready.cursor [] []) (.empty settings.maxPartSize)
    (Scan.seek delimiter ready.cursor (some (.empty settings.maxPartSize)))
  /-- In the meantime there are never more than two bytes beyond the limit. -/
  room : ∀ moment ∈ Scan.moments delimiter ready.cursor (.empty settings.maxPartSize),
    moment.size ≤ Body.capacity settings.maxPartSize

variable {settings : Settings} {delimiter : Delimiter} {first : Option Nat}

theorem Keeps.advance_ne_error {failed : Decoder} (h : decoder.Keeps ready first data)
    (herror : ¬error.isOfDelimiterLine) : decoder.advance ≠ .error error failed := by
  intro hadvance
  rcases h with ⟨part, after, hpart, -⟩ | ⟨-, other, last, hother, hline⟩
  · have hopen := (nextPart?_eq_some_iff.mp hpart).1
    rw [(advance_eq_ok_iff hopen).mpr ⟨part, hpart⟩] at hadvance
    cases hadvance
  · rw [hother] at hadvance
    cases hadvance
    exact herror hline

theorem refused_of_obeys (h : decoder.bodyStart? = some ready)
    (hobeys : Obeys first (.error error) (ready.readBody ready.position)) :
    ∃ failed, decoder.advance = .error error failed := by
  generalize hbody : ready.readBody ready.position = answer at hobeys
  cases hobeys with
  | refused => exact advance_eq_error_of_bodyStart? h hbody

theorem keeps_of_obeys (h : decoder.bodyStart? = some ready)
    (hobeys : Obeys first (.ok data) (ready.readBody ready.position)) :
    decoder.Keeps ready first data := by
  generalize hbody : ready.readBody ready.position = answer at hobeys
  cases hobeys with
  | kept => exact .inl (nextPart?_of_bodyStart? h hbody)
  | brokenLine hfirst hline =>
      obtain ⟨last, hadvance⟩ := advance_eq_error_of_bodyStart? h hbody
      exact .inr ⟨hfirst, _, last, hadvance, hline⟩

theorem refused_iff_of_obeys (h : decoder.bodyStart? = some ready)
    (hobeys : Obeys first (settings.verdict delimiter offset text)
      (ready.readBody ready.position)) (herror : ¬error.isOfDelimiterLine) :
    (∃ failed, decoder.advance = .error error failed) ↔
      settings.verdict delimiter offset text = .error error := by
  cases hverdict : settings.verdict delimiter offset text with
  | ok data =>
      rw [hverdict] at hobeys
      refine iff_of_false ?_ (by simp)
      rintro ⟨failed, hadvance⟩
      exact (keeps_of_obeys h hobeys).advance_ne_error herror hadvance
  | error other =>
      rw [hverdict] at hobeys
      obtain ⟨last, hlast⟩ := refused_of_obeys h hobeys
      constructor
      · rintro ⟨failed, hadvance⟩
        rw [hlast] at hadvance
        cases hadvance
        rfl
      · rintro ⟨⟩
        exact ⟨last, hlast⟩

theorem judges_of_obeys (h : decoder.bodyStart? = some ready)
    (hobeys : Obeys (delimiter.firstIn text) (settings.verdict delimiter ready.position text)
      (ready.readBody ready.position)) :
    decoder.Judges ready settings delimiter text := by
  refine ⟨fun error => refused_iff_of_obeys h hobeys,
    fun data hverdict => keeps_of_obeys h (hverdict ▸ hobeys), ?_,
    Scan.adds_slide _ _ _ [] [], Scan.size_le_of_mem_moments (Body.size_empty_le _)⟩
  intro index hindex data lineEnd hsplit hend hlimit
  have htooLong : ∀ bound, ¬(Error.bodyTooLong bound).isOfDelimiterLine := by
    simp [Error.isOfDelimiterLine]
  constructor
  · rintro ⟨bound, failed, hadvance⟩
    apply Nat.lt_of_not_le
    intro hword
    have hverdict := (refused_iff_of_obeys h hobeys (htooLong bound)).mp ⟨failed, hadvance⟩
    rw [Settings.verdict_of_lineEnd hindex hsplit hend hlimit hword] at hverdict
    cases hverdict
  · intro hword
    refine ⟨settings.maxPartSize, ?_⟩
    rw [refused_iff_of_obeys h hobeys (htooLong _)]
    apply Settings.verdict_of_long
    rw [Delimiter.length_textBefore_of_some hindex]
    exact Nat.lt_of_le_of_lt (Nat.min_le_right _ _) hword

/-- On a stream without faults the size limit of a part is exact: wherever a body starts, the bytes
before the next delimiter decide what becomes of it. No part that is held is longer. -/
theorem part_size_exact {source : Source} {contentType : String} {settings : Settings}
    {fresh : Decoder} {bytes : List UInt8} (hnew : ofSource source contentType settings = .ok fresh)
    (hgenerous : source.Generous) (hscript : source.script = bytes.map .byte) :
    (∀ queries part, (fresh.after queries).Holds part → part.length ≤ settings.maxPartSize) ∧
      ∀ n parts decoder ready, fresh.extractions n = some (parts, decoder) →
        decoder.bodyStart? = some ready →
        decoder.Judges ready settings fresh.delimiter (bytes.drop ready.position) := by
  have hunread := unread_ofSource hnew
  refine ⟨fun queries _ => length_le_of_holds hunread queries, ?_⟩
  intro n parts decoder ready hn hready
  obtain ⟨passed, htiled⟩ := tiled_extractions hunread.position_eq hunread.ahead_eq hn
  have hleads : Cursor.Leads fresh.cursor ready.cursor :=
    Cursor.Leads.trans ⟨passed, htiled.passes⟩ (leads_of_bodyStart? hready)
  have hfaces := (hunread.faces hgenerous hscript).of_leads hleads
  have hsettings : ready.settings = settings := by
    rw [(setting_of_bodyStart? hready).2, htiled.settings_eq, hunread.settings_eq]
  have hdelimiter : ready.delimiter = fresh.delimiter := by
    rw [(setting_of_bodyStart? hready).1, htiled.delimiter_eq]
  have hobeys := obeys_readBody ready.position hfaces
  rw [hsettings, hdelimiter] at hobeys
  exact judges_of_obeys hready hobeys

def brimful : List UInt8 :=
  Text.Utf8.encode "--B\n\nab\r\n--B--".toList

theorem part_size_exact_brimful :
    ∃ fresh, ofSource (.ofBytes brimful) "multipart/mixed; boundary=B" { maxPartSize := 2 } =
        .ok fresh ∧
      ∃ ready, fresh.bodyStart? = some ready ∧
        (Settings.verdict { maxPartSize := 2 } fresh.delimiter ready.position
          (brimful.drop ready.position)).toOption = some [97, 98] ∧
        fresh.Judges ready { maxPartSize := 2 } fresh.delimiter (brimful.drop ready.position) := by
  obtain ⟨fresh, hnew, hcheck⟩ := exists_of_any (.ofBytes brimful) "multipart/mixed; boundary=B"
    { maxPartSize := 2 }
    (fun fresh => fresh.bodyStart?.any fun ready =>
      (Settings.verdict { maxPartSize := 2 } fresh.delimiter ready.position
        (brimful.drop ready.position)).toOption = some [97, 98])
    (by decide +kernel)
  obtain ⟨ready, hready, hverdict⟩ := (Option.any_eq_true _ _).mp hcheck
  have hexact := part_size_exact hnew (Source.generous_ofBytes brimful)
    (Source.script_ofBytes brimful)
  exact ⟨fresh, hnew, ready, hready, of_decide_eq_true hverdict,
    hexact.2 0 [] fresh ready rfl hready⟩

end Decoder

end Multipart
