import Multipart.Proofs.Decoder.Bisimulation
import Multipart.Proofs.Decoder.Invariant
import Multipart.Proofs.Scan.Memory

/-! # How much a run holds

Bodies, preambles and header blocks of any length are read in a bounded buffer. Only the padding of
a delimiter line is held as a whole, so the longest one bounds what a run holds. -/

namespace Multipart

open Cursor (Rests Leads)

/-! ## Header blocks -/

theorem Header.rests_readLines {chunk extent : Nat} {cursor : Cursor} (limit : Nat)
    (taken : List (List UInt8)) (size : Nat) (h : cursor.Rests chunk extent) :
    (Result.state (readLines limit taken size cursor)).Rests chunk extent := by
  have hline : ∀ {size cursor}, Rests chunk extent cursor →
      (nextLine limit size cursor).cursor.Rests chunk extent := by
    intro size cursor h
    exact h.gatherFrom _ _ []
  induction taken, size, cursor using readLines_induction limit with
  | failure taken size cursor error herror =>
      rw [readLines_of_failure herror]
      exact hline h
  | last taken size cursor hnone hend =>
      rw [readLines_of_end hnone hend]
      exact hline h
  | tooLong taken size cursor hnone hend hlong =>
      rw [readLines_of_tooLong hnone hend hlong]
      exact hline h
  | line taken size cursor hnone hend hfits ih =>
      rw [readLines_of_line hnone hend hfits]
      exact ih (hline h)

theorem Header.rests_readBlock {chunk extent : Nat} {cursor : Cursor} (limit : Nat)
    (h : cursor.Rests chunk extent) :
    (Result.state (readBlock limit cursor)).Rests chunk extent := by
  have hlines := rests_readLines limit [] 0 h
  simp only [readBlock]
  generalize readLines limit [] 0 cursor = result at hlines
  cases result <;> exact hlines

theorem Header.leads_readBlock (limit : Nat) (cursor : Cursor) :
    Leads cursor (Result.state (readBlock limit cursor)) :=
  (related_readBlock (Cursor.bisimulation_ahead cursor) (.refl cursor) limit).state.2

theorem Scan.leads_find (delimiter : Delimiter) (cursor : Cursor) (body : Option Body) :
    Leads cursor (find delimiter cursor body).cursor :=
  (alike_find (Cursor.bisimulation_ahead cursor) (.refl cursor) delimiter body).cursor.2

/-! ## The delimiter lines ahead -/

/-- A cursor at rest holds at most a chunk and `extent` bytes, and so do the delimiter lines that
are ahead of it. -/
structure Cursor.Spacious (delimiter : Delimiter) (chunk extent : Nat) (cursor : Cursor) :
    Prop where
  rests : cursor.Rests chunk extent
  line_le : delimiter.length + delimiter.longestPadding (Moment.bytes cursor.upcoming) + 3 ≤ extent

variable {delimiter : Delimiter} {chunk extent : Nat} {cursor after : Cursor}

/-- No new delimiter line comes up on the way. -/
theorem Cursor.Spacious.of_leads (h : cursor.Spacious delimiter chunk extent)
    (hleads : Leads cursor after) (hrests : after.Rests chunk extent) :
    after.Spacious delimiter chunk extent := by
  refine ⟨hrests, ?_⟩
  have hline := h.line_le
  obtain ⟨passed, hpasses⟩ := hleads
  have hle := delimiter.longestPadding_le_append (Moment.bytes passed)
    (Moment.bytes after.upcoming)
  rw [hpasses.upcoming_eq, Moment.bytes_append] at hline
  omega

theorem Cursor.invariant_spacious (delimiter : Delimiter) (chunk extent : Nat) :
    Cursor.Invariant delimiter (Spacious delimiter chunk extent)
      (fun cursor => cursor.held.length ≤ chunk + extent) where
  find_ok := by
    intro cursor h body outcome houtcome
    have hfind := Scan.holds_find body (h.rests.holds 0) h.line_le
    exact h.of_leads (Scan.leads_find delimiter cursor body) (hfind.2 outcome houtcome)
  find_error := by
    intro cursor h body error _
    exact (Scan.holds_find body (h.rests.holds 0) h.line_le).1
  readBlock := by
    intro cursor h limit
    have hrests := Header.rests_readBlock limit h.rests
    have hleads := Header.leads_readBlock limit cursor
    generalize Header.readBlock limit cursor = result at hrests hleads
    cases result with
    | ok headers after => exact .ok (h.of_leads hleads hrests)
    | error error after => exact .error hrests.held_le
  weaken := fun h => h.rests.held_le

/-! ## A run -/

namespace Decoder

/-- The chunk that a buffer is filled with is as long as the settings ask, and no shorter than the
delimiter. -/
theorem rests_of_ofSource {source : Source} {text : String} {settings : Settings}
    {fresh : Decoder} (h : ofSource source text settings = .ok fresh) (extent : Nat) :
    fresh.cursor.Rests (max settings.readBufferSize fresh.delimiter.length) extent := by
  simp only [ofSource] at h
  split at h
  · cases h
  · rename_i contentType _
    cases h
    have hlength : 1 ≤ (Delimiter.ofBytes
        (Text.Utf8.encode contentType.boundary.toList)).length := Nat.succ_pos _
    have hrests := Cursor.rests_ofSource source (max settings.readBufferSize
      (Delimiter.ofBytes (Text.Utf8.encode contentType.boundary.toList)).length) extent
    rwa [Nat.max_eq_left (Nat.le_trans hlength (Nat.le_max_right _ _))] at hrests

/-- Whatever the stream sends and whatever is asked, what is held is no longer than the delimiter, a
chunk and the longest rest of a delimiter line: two hyphens, its padding and a byte of its end. -/
theorem held_bounded {source : Source} {text : String} {settings : Settings} {fresh : Decoder}
    (hnew : ofSource source text settings = .ok fresh) (queries : List Query) :
    (fresh.after queries).cursor.held.length ≤
      fresh.delimiter.length + max settings.readBufferSize fresh.delimiter.length +
        (fresh.delimiter.longestPadding (Moment.bytes source.script) + 3) := by
  have hunread := unread_ofSource hnew
  have hupcoming : fresh.cursor.upcoming = source.script := by
    rw [Cursor.upcoming, hunread.ahead_eq, hunread.source_eq]
    rfl
  have hspacious : fresh.cursor.Spacious fresh.delimiter
      (max settings.readBufferSize fresh.delimiter.length)
      (fresh.delimiter.length + fresh.delimiter.longestPadding (Moment.bytes source.script) + 3) :=
    ⟨rests_of_ofSource hnew _, Nat.le_of_eq (by rw [hupcoming])⟩
  have hmeets : fresh.Meets fresh.delimiter _ := ⟨rfl, hspacious⟩
  have hheld : (fresh.after queries).cursor.held.length ≤ _ + _ :=
    (hmeets.reached (Cursor.invariant_spacious _ _ _) (reached_after fresh queries)).cursor
  omega

def padded : Source :=
  .ofBytes (Text.Utf8.encode ("--B" ++ "                    ").toList)

theorem held_bounded_padded :
    ∃ fresh, ofSource padded "multipart/mixed; boundary=B" { readBufferSize := 4 } = .ok fresh ∧
      fresh.delimiter.longestPadding (Moment.bytes padded.script) = 20 ∧
      (fresh.after [.root]).cursor.held.length ≤
        fresh.delimiter.length + max 4 fresh.delimiter.length + (20 + 3) := by
  obtain ⟨fresh, hnew, hpadding⟩ := exists_of_any padded "multipart/mixed; boundary=B"
    { readBufferSize := 4 }
    (fun fresh => fresh.delimiter.longestPadding (Moment.bytes padded.script) = 20)
    (by decide +kernel)
  have hpadding := of_decide_eq_true hpadding
  have hheld := held_bounded hnew [.root]
  rw [hpadding] at hheld
  exact ⟨fresh, hnew, hpadding, hheld⟩

/-- The delimiter and a chunk do not bound what is held. -/
theorem not_held_le_delimiter_add_chunk :
    ¬∀ (source : Source) (text : String) (settings : Settings) (fresh : Decoder)
      (queries : List Query), ofSource source text settings = .ok fresh →
      (fresh.after queries).cursor.held.length ≤
        fresh.delimiter.length + max settings.readBufferSize fresh.delimiter.length := by
  obtain ⟨fresh, hnew, hheld⟩ := exists_of_any padded "multipart/mixed; boundary=B"
    { readBufferSize := 4 }
    (fun fresh => fresh.delimiter.length + max 4 fresh.delimiter.length <
      (fresh.after [.root]).cursor.held.length) (by decide +kernel)
  intro hall
  have hle := hall padded "multipart/mixed; boundary=B" { readBufferSize := 4 } fresh [.root] hnew
  exact Nat.not_lt_of_le hle (of_decide_eq_true hheld)

/-! ## Padding without end -/

/-- Where the scan for the first delimiter fails, a query for the root reads no further. -/
theorem cursor_after_of_find_error {decoder : Decoder} {error : Error}
    (hphase : decoder.phase = .fresh) (hroot : decoder.root = none)
    (hfind : (Scan.find decoder.delimiter decoder.cursor none).outcome = .error error) :
    (decoder.after [.root]).cursor = (Scan.find decoder.delimiter decoder.cursor none).cursor := by
  have hscan : ∃ failed, decoder.scan none = .error error failed ∧
      failed.cursor = (Scan.find decoder.delimiter decoder.cursor none).cursor := by
    simp only [scan, hfind]
    cases (Scan.find decoder.delimiter decoder.cursor none).matched <;> exact ⟨_, rfl, rfl⟩
  obtain ⟨failed, hfailed, hcursor⟩ := hscan
  have hopen : decoder.phase.isOpen := by rw [hphase]; rfl
  have hunsettled : Query.root.isSettled decoder = false := by simp [Query.isSettled, hroot]
  rw [after, after, state_ask, advanceUntil_of_isOpen hunsettled hopen]
  simp only [advance, extract, start, hphase, skipPreamble, hfailed]
  exact hcursor

/-- Whatever the settings, all the padding of a delimiter line that does not end is held. -/
theorem padding_held {text : String} {contentType : ContentType}
    (hparse : ContentType.parse text = .ok contentType) (settings : Settings)
    {padding : List UInt8} (hblank : ∀ byte ∈ padding, Octet.isBlank byte) :
    ∃ fresh, ofSource (.ofBytes (contentType.delimiter.bytes ++ padding)) text settings =
        .ok fresh ∧
      padding.length ≤ (fresh.after [.root]).cursor.held.length := by
  have hnew : ∃ fresh, ofSource (.ofBytes (contentType.delimiter.bytes ++ padding)) text settings =
      .ok fresh ∧ fresh.delimiter = contentType.delimiter := by
    simp only [ofSource, hparse]
    exact ⟨_, rfl, rfl⟩
  obtain ⟨fresh, hnew, hdelimiter⟩ := hnew
  have hunread := unread_ofSource hnew
  have hfaces := hunread.faces (Source.generous_ofBytes _) (Source.script_ofBytes _)
  rw [← hdelimiter] at hfaces
  obtain ⟨error, hfind, hheld⟩ := Scan.find_of_padding hfaces hblank
  refine ⟨fresh, hnew, ?_⟩
  rw [cursor_after_of_find_error hunread.phase_eq hunread.root_eq hfind]
  exact hheld

end Decoder

end Multipart
