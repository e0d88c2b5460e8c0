import Multipart.Proofs.Cursor.Memory
import Multipart.Proofs.Scan.Faultless

/-! # How much a scan holds

The mark stands at the start of the window, which slides on with it. It stays there while the rest
of a delimiter line is read: the line is held as a whole, with all its padding. -/

namespace Multipart

/-! ## Padding -/

def Octet.blanks (text : List UInt8) : Nat :=
  (text.takeWhile isBlank).length

@[simp] theorem Octet.blanks_cons_of_blank {value : UInt8} (h : isBlank value)
    (text : List UInt8) : blanks (value :: text) = blanks text + 1 := by
  simp [blanks, h]

namespace Delimiter

/-- The number of spaces and tabs that follow a delimiter, of which this is what comes after: first
there may be two hyphens. -/
def paddingAfter (text : List UInt8) : Nat :=
  if [Octet.dash, Octet.dash] <+: text then Octet.blanks (text.drop 2) else Octet.blanks text

/-- The most spaces and tabs that follow the delimiter in a text. -/
def longestPadding (delimiter : Delimiter) : List UInt8 → Nat
  | [] => 0
  | value :: rest =>
      if delimiter.OccursAt (value :: rest) 0 then
        max (paddingAfter ((value :: rest).drop delimiter.length)) (longestPadding delimiter rest)
      else longestPadding delimiter rest

example :
    (ofBytes [66]).longestPadding [45, 45, 66, 32, 10, 45, 45, 66, 45, 45, 32, 9, 10] = 2 := by
  decide

theorem blanks_le_paddingAfter (text : List UInt8) : Octet.blanks text ≤ paddingAfter text := by
  rw [paddingAfter]
  split
  · rename_i h
    obtain ⟨rest, rfl⟩ := h
    exact Nat.zero_le _
  · exact Nat.le_refl _

@[simp] theorem paddingAfter_closing (text : List UInt8) :
    paddingAfter (Octet.dash :: Octet.dash :: text) = Octet.blanks text :=
  if_pos (List.prefix_append [Octet.dash, Octet.dash] text)

variable (delimiter : Delimiter)

theorem longestPadding_le_append (front rest : List UInt8) :
    delimiter.longestPadding rest ≤ delimiter.longestPadding (front ++ rest) := by
  induction front with
  | nil => exact Nat.le_refl _
  | cons value front ih =>
      rw [List.cons_append, longestPadding]
      split
      · exact Nat.le_trans ih (Nat.le_max_right _ _)
      · exact ih

/-- No delimiter has more padding than the longest. -/
theorem paddingAfter_le_longestPadding (front rest : List UInt8) :
    paddingAfter rest ≤ delimiter.longestPadding (front ++ (delimiter.bytes ++ rest)) := by
  have hoccurs : delimiter.OccursAt (delimiter.bytes ++ rest) 0 := List.prefix_append _ _
  have hdrop : (delimiter.bytes ++ rest).drop delimiter.length = rest := List.drop_left
  refine Nat.le_trans ?_ (delimiter.longestPadding_le_append front _)
  rw [bytes, List.cons_append] at hoccurs hdrop ⊢
  rw [longestPadding, if_pos hoccurs, hdrop]
  exact Nat.le_max_left _ _

end Delimiter

namespace Scan

open Cursor (Holds Rests)
open Octet (blanks)

variable {chunk extent behind : Nat} {cursor : Cursor}

/-! ## A delimiter line -/

theorem holds_next (h : cursor.Holds chunk extent behind) (hextent : behind ≤ extent) :
    (Result.state (next cursor)).Holds chunk extent (behind + 1) := by
  have hnext := h.next hextent
  cases hread : cursor.next with
  | ok value after =>
      rw [next_eq_ok_of_cursor hread]
      rwa [hread] at hnext
  | error error after =>
      rw [next_eq_error_of_cursor hread]
      rwa [hread] at hnext

/-- Every byte of padding is read and stays behind the mark. -/
theorem holds_skipPadding (value : Option UInt8) (h : cursor.Holds chunk extent behind)
    (hextent : behind + blanks (value.toList ++ Moment.bytes cursor.upcoming) ≤ extent) :
    (Result.state (skipPadding value cursor)).Holds chunk extent
      (behind + blanks (value.toList ++ Moment.bytes cursor.upcoming)) := by
  fun_induction skipPadding value cursor generalizing behind with
  | case1 cursor => exact h.mono (Nat.le_add_right _ _)
  | case2 cursor byte hblank error after hread =>
      have hnext := h.next (by omega)
      rw [hread] at hnext
      apply hnext.mono
      simp only [Option.toList_some, List.singleton_append, Octet.blanks_cons_of_blank hblank]
      omega
  | case3 cursor byte hblank after hread =>
      have hnext := h.next (by omega)
      rw [hread] at hnext
      apply hnext.mono
      simp only [Option.toList_some, List.singleton_append, Octet.blanks_cons_of_blank hblank]
      omega
  | case4 cursor byte hblank value after hread ih =>
      have hnext := h.next (by omega)
      rw [hread, Result.state_ok] at hnext
      have hupcoming := Cursor.bytes_upcoming_of_next hread
      simp only [Option.toList_some, List.singleton_append, Octet.blanks_cons_of_blank hblank,
        hupcoming] at hextent ih ⊢
      have hrest := ih hnext (by omega)
      rwa [Nat.add_right_comm, Nat.add_assoc] at hrest
  | case5 cursor byte hblank => exact h.mono (Nat.le_add_right _ _)

theorem holds_endLineEarly (kind : DelimiterKind) (h : cursor.Holds chunk extent behind) :
    (Result.state (endLineEarly kind cursor)).Holds chunk extent behind := by
  cases kind <;> exact h

theorem holds_endLine (kind : DelimiterKind) (value : Option UInt8)
    (h : cursor.Holds chunk extent behind)
    (hextent : behind + blanks (value.toList ++ Moment.bytes cursor.upcoming) ≤ extent) :
    (Result.state (endLine kind value cursor)).Holds chunk extent (extent + 1) := by
  have hpadding := (holds_skipPadding value h hextent).mono hextent
  rw [endLine]
  split
  · rename_i hskip
    rw [hskip] at hpadding
    exact hpadding.mono (Nat.le_succ extent)
  · rename_i after hskip
    rw [hskip, Result.state_ok] at hpadding
    have hnext := holds_next hpadding (Nat.le_refl extent)
    split
    · exact hpadding.mono (Nat.le_succ extent)
    · split
      · split
        · rename_i hread
          rwa [hread] at hnext
        · rename_i hread
          rw [hread] at hnext
          split
          · exact hnext
          · exact holds_endLineEarly kind hnext
      · exact holds_endLineEarly kind (hpadding.mono (Nat.le_succ extent))

theorem bytes_upcoming_of_next {after : Cursor} {value : Option UInt8}
    (h : next cursor = .ok value after) :
    Moment.bytes cursor.upcoming = value.toList ++ Moment.bytes after.upcoming := by
  rw [next] at h
  split at h
  · rename_i hread
    cases h
    exact Cursor.bytes_upcoming_of_next hread
  · contradiction

/-- Of a delimiter line at most two hyphens, the padding and a line end are held. -/
theorem holds_delimiterLine (h : cursor.Holds chunk extent behind)
    (hextent : behind + Delimiter.paddingAfter (Moment.bytes cursor.upcoming) + 3 ≤ extent) :
    (Result.state (delimiterLine cursor)).Holds chunk extent (extent + 1) := by
  have hfirst := holds_next h (by omega)
  rw [delimiterLine]
  cases hread : next cursor with
  | error error failed =>
      rw [hread] at hfirst
      exact hfirst.mono (by omega)
  | ok value first =>
      have hupcoming := bytes_upcoming_of_next hread
      rw [hread, Result.state_ok] at hfirst
      simp only
      split
      · rename_i hdash
        subst hdash
        have hsecond := holds_next hfirst (by omega)
        cases hread : next first with
        | error error failed =>
            rw [hread] at hsecond
            exact hsecond.mono (by omega)
        | ok value second =>
            rw [bytes_upcoming_of_next hread] at hupcoming
            rw [hread, Result.state_ok] at hsecond
            simp only
            split
            · rename_i hdash
              subst hdash
              have hthird := holds_next hsecond (by omega)
              cases hread : next second with
              | error error failed =>
                  rw [hread] at hthird
                  exact hthird.mono (by omega)
              | ok value third =>
                  rw [bytes_upcoming_of_next hread] at hupcoming
                  rw [hread, Result.state_ok] at hthird
                  rw [hupcoming, Option.toList_some, List.singleton_append, List.singleton_append,
                    Delimiter.paddingAfter_closing] at hextent
                  exact holds_endLine .closing value hthird (by omega)
            · exact hsecond.mono (by omega)
      · have hpadding := Delimiter.blanks_le_paddingAfter (Moment.bytes cursor.upcoming)
        apply holds_endLine .opening value hfirst
        rw [← hupcoming]
        omega

/-! ## The window -/

variable {delimiter : Delimiter} {body : Option Body} {pending kept : List UInt8}

theorem holds_look (hkept : kept.length < delimiter.length) (hextent : delimiter.length ≤ extent)
    (h : cursor.Holds chunk extent behind) :
    (look delimiter cursor kept).cursor.Holds chunk extent delimiter.length := by
  have hcount : kept.length + (delimiter.length - kept.length) = delimiter.length := by omega
  have hread := (h.markBack kept.length).gatherFrom (fun _ => false) (hcount ▸ hextent) []
  rwa [hcount] at hread

/-- The mark is never further back than the window is long. -/
theorem holds_slide (hkept : kept.length < delimiter.length) (hextent : delimiter.length ≤ extent)
    (h : cursor.Holds chunk extent behind) :
    (slide delimiter cursor body pending kept).cursor.Holds chunk extent delimiter.length := by
  induction cursor, body, pending, kept using slide_induction delimiter generalizing behind with
  | failure cursor body pending kept error herror =>
      rw [slide_of_failure herror]
      exact holds_look hkept hextent h
  | short cursor body pending kept hnone hshort =>
      rw [slide_of_short hnone hshort, cursor_haltAtEnd]
      exact holds_look hkept hextent h
  | found cursor body pending kept hnone hfull hmatch =>
      rw [slide_of_match hnone hfull hmatch, cursor_haltAtMatch]
      exact holds_look hkept hextent h
  | refused cursor body pending kept index error hnone hfull hindex hbody =>
      rw [slide_of_refused hnone hfull hindex hbody]
      exact holds_look hkept hextent h
  | slid cursor body pending kept index next hnone hfull hindex hbody ih =>
      -- the next look sets the mark anew, so nothing adds up from slide to slide
      have hpos := delimiter.shift_pos index ((window delimiter cursor kept).getD index 0)
      have hlength := (reads_look hnone hfull hkept).2
      rw [slide_of_mismatch hnone hfull hindex hbody]
      refine ih ?_ (holds_look hkept hextent h)
      rw [List.length_drop]
      omega

/-- Whether a scan succeeds or fails, it holds at most the longest delimiter line ahead of it. -/
theorem holds_find (body : Option Body) (h : cursor.Holds chunk extent behind)
    (hextent : delimiter.length + delimiter.longestPadding (Moment.bytes cursor.upcoming) + 3 ≤
      extent) :
    (find delimiter cursor body).cursor.held.length ≤ chunk + extent ∧
      ∀ outcome, (find delimiter cursor body).outcome = .ok outcome →
        (find delimiter cursor body).cursor.Rests chunk extent := by
  have hseek : (seek delimiter cursor body).cursor.Holds chunk extent delimiter.length :=
    holds_slide (Nat.succ_pos _) (by omega) h
  have hslides := slides_seek delimiter cursor body
  simp only [find]
  generalize seek delimiter cursor body = halt at hseek hslides
  -- only at a delimiter is anything read beyond the window
  cases hslides with
  | @matched front read after last hreads hsplit hfree hlast =>
      have hpadding := delimiter.paddingAfter_le_longestPadding front (Moment.bytes after.upcoming)
      rw [List.nil_append] at hsplit
      rw [hreads.upcoming_eq, Moment.bytes_append, Moment.bytes_map_byte, hsplit,
        List.append_assoc] at hextent
      have hline := holds_delimiterLine hseek (by simp only; omega)
      simp only at hline ⊢
      cases hread : delimiterLine after with
      | error error failed =>
          rw [hread] at hline
          exact ⟨hline.held_le, by simp⟩
      | ok kind rest =>
          rw [hread] at hline
          exact ⟨hline.clearMark.held_le, fun _ _ => hline.clearMark⟩
  | ended _ _ _ => exact ⟨hseek.clearMark.held_le, fun _ _ => hseek.clearMark⟩
  | refused _ _ _ _ => exact ⟨hseek.held_le, by simp⟩
  | overflow _ _ _ _ => exact ⟨hseek.held_le, by simp⟩
  | overflowAtEnd _ _ _ _ => exact ⟨hseek.held_le, by simp⟩
  | failure _ _ => exact ⟨hseek.held_le, by simp⟩

/-! ## Padding without end -/

variable {offset : Nat} {padding : List UInt8}

/-- The window that stops the scan is marked. -/
theorem trails_slide (delimiter : Delimiter) (cursor : Cursor) (body : Option Body)
    (pending kept : List UInt8) :
    (slide delimiter cursor body pending kept).cursor.Trails 0 := by
  have hlook : ∀ cursor kept, (look delimiter cursor kept).cursor.Trails 0 := by
    intro cursor kept
    exact (cursor.trails_markBack kept.length).gatherFrom _ _ []
  induction cursor, body, pending, kept using slide_induction delimiter with
  | failure cursor body pending kept error herror =>
      rw [slide_of_failure herror]
      exact hlook cursor kept
  | short cursor body pending kept hnone hshort =>
      rw [slide_of_short hnone hshort, cursor_haltAtEnd]
      exact hlook cursor kept
  | found cursor body pending kept hnone hfull hmatch =>
      rw [slide_of_match hnone hfull hmatch, cursor_haltAtMatch]
      exact hlook cursor kept
  | refused cursor body pending kept index error hnone hfull hindex hbody =>
      rw [slide_of_refused hnone hfull hindex hbody]
      exact hlook cursor kept
  | slid cursor body pending kept index next hnone hfull hindex hbody ih =>
      rw [slide_of_mismatch hnone hfull hindex hbody]
      exact ih

/-- Padding that the stream ends with is read to the end and held. -/
theorem trails_skipPadding {count : Nat} {value : UInt8} (h : cursor.Trails count)
    (hfaces : cursor.Faces offset padding)
    (hblank : ∀ byte ∈ value :: padding, Octet.isBlank byte) :
    ∃ after, skipPadding (some value) cursor = .ok none after ∧
      after.Trails (count + padding.length) := by
  induction padding generalizing cursor count offset value with
  | nil =>
      obtain ⟨after, hnext, hafter⟩ := hfaces.next_nil
      refine ⟨after, ?_, h.next hnext⟩
      rw [skipPadding_of_blank (hblank value List.mem_cons_self), next_eq_ok_of_cursor hnext]
      exact skipPadding_none after
  | cons byte padding ih =>
      obtain ⟨between, hnext, hbetween⟩ := hfaces.next_cons
      rw [List.forall_mem_cons] at hblank
      obtain ⟨after, hskip, hafter⟩ := ih (h.next hnext) hbetween hblank.2
      refine ⟨after, ?_, ?_⟩
      · rw [skipPadding_of_blank hblank.1, next_eq_ok_of_cursor hnext]
        exact hskip
      · simp only [Option.toList_some, List.length_cons, List.length_nil] at hafter ⊢
        rwa [Nat.add_assoc, Nat.zero_add, Nat.add_comm 1] at hafter

theorem trails_delimiterLine (h : cursor.Trails 0) (hfaces : cursor.Faces offset padding)
    (hblank : ∀ byte ∈ padding, Octet.isBlank byte) :
    ∃ error after, delimiterLine cursor = .error error after ∧ after.Trails padding.length := by
  cases padding with
  | nil =>
      obtain ⟨after, hnext, hafter⟩ := hfaces.next_nil
      refine ⟨.unendedDelimiterLine after.position, after, ?_, h.next hnext⟩
      simp [delimiterLine, next_eq_ok_of_cursor hnext, endLine, skipPadding_none, endLineEarly]
  | cons byte padding =>
      obtain ⟨between, hnext, hbetween⟩ := hfaces.next_cons
      obtain ⟨after, hskip, hafter⟩ := trails_skipPadding (h.next hnext) hbetween hblank
      have hdash : byte ≠ Octet.dash := by
        rintro rfl
        exact absurd (hblank _ List.mem_cons_self) (by decide)
      refine ⟨.unendedDelimiterLine after.position, after, ?_, ?_⟩
      · simp [delimiterLine, next_eq_ok_of_cursor hnext, hdash, endLine, hskip, endLineEarly]
      · simp only [Option.toList_some, List.length_cons, List.length_nil] at hafter ⊢
        rwa [Nat.zero_add, Nat.zero_add, Nat.add_comm 1] at hafter

/-- A scan that finds a delimiter with padding up to the end of the stream fails, and leaves all of
it in the buffer. -/
theorem find_of_padding (hfaces : cursor.Faces offset (delimiter.bytes ++ padding))
    (hblank : ∀ byte ∈ padding, Octet.isBlank byte) :
    ∃ error, (find delimiter cursor none).outcome = .error error ∧
      padding.length ≤ (find delimiter cursor none).cursor.held.length := by
  have hnone : terminate (grow none []) (offset + ([] : List UInt8).length) = .ok () none := rfl
  have hmark : (seek delimiter cursor none).cursor.Trails 0 :=
    trails_slide delimiter cursor none [] []
  obtain ⟨between, hbetween, hseek⟩ := @seek_of_first _ _ _ _ [] none hfaces (by simp) (by simp)
  rw [hnone] at hseek
  rw [hseek] at hmark
  obtain ⟨error, after, hline, hafter⟩ := trails_delimiterLine hmark hbetween hblank
  simp only [find, hseek, hline]
  exact ⟨error, rfl, hafter.le_held⟩

end Scan

end Multipart
