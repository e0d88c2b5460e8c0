import Multipart.Body
import Multipart.Cursor
import Multipart.Delimiter

/-!
# Scanning for a delimiter

A scan slides a window of the delimiter's length over the stream until the window is the delimiter
or the stream ends. The bytes that leave the window are the body; they are added one slide late, so
that what stands before a failed read is not yet added. While the window slides the mark stays at
its start. After the delimiter the rest of its line is read. The main statements say that a scan
uses up what is outstanding.
-/

namespace Multipart

inductive DelimiterKind
  /-- Another part follows. -/
  | opening
  /-- No part follows. -/
  | closing
  deriving DecidableEq, Repr

/-- Where the stream ends while a window slides over it. -/
inductive StreamEnd
  /-- The last window holds too few bytes. -/
  | withinWindow
  /-- The last window would hold no byte. -/
  | atEdge
  deriving DecidableEq, Repr

inductive Outcome
  /-- A delimiter was found and its line read. -/
  | found (kind : DelimiterKind)
  /-- The stream ended before a delimiter. -/
  | ended (place : StreamEnd)
  deriving DecidableEq, Repr

namespace Scan

/-! ## The rest of a delimiter line -/

def next (cursor : Cursor) : EStateM.Result Error Cursor (Option UInt8) :=
  match cursor.next with
  | .ok value cursor => .ok value cursor
  | .error error cursor => .error (.stream error) cursor

/-- The first of some byte already read and the bytes after it that is neither space nor tab. -/
def skipPadding (value : Option UInt8) (cursor : Cursor) :
    EStateM.Result Error Cursor (Option UInt8) :=
  match value with
  | none => .ok none cursor
  | some byte =>
      if Octet.isBlank byte then
        match _h : cursor.next with
        | .error error cursor => .error (.stream error) cursor
        | .ok none cursor => .ok none cursor
        | .ok (some byte) cursor => skipPadding (some byte) cursor
      else .ok (some byte) cursor
termination_by cursor.outstanding
decreasing_by exact Cursor.outstanding_next_some _h

/-- Ends a delimiter line that does not end as it should: a closing line may end in any way. -/
def endLineEarly (kind : DelimiterKind) (cursor : Cursor) :
    EStateM.Result Error Cursor DelimiterKind :=
  match kind with
  | .closing => .ok .closing cursor
  | .opening => .error (.unendedDelimiterLine cursor.position) cursor

/-- Reads padding and a line end, the first byte of which is already read. -/
def endLine (kind : DelimiterKind) (value : Option UInt8) (cursor : Cursor) :
    EStateM.Result Error Cursor DelimiterKind :=
  match skipPadding value cursor with
  | .error error cursor => .error error cursor
  | .ok value cursor =>
      if value = some Octet.lf then .ok kind cursor
      else if value = some Octet.cr then
        match next cursor with
        | .error error cursor => .error error cursor
        | .ok value cursor =>
            if value = some Octet.lf then .ok kind cursor else endLineEarly kind cursor
      else endLineEarly kind cursor

/-- Reads the rest of a delimiter line: two hyphens if it is a closing one, padding, a line end. -/
def delimiterLine (cursor : Cursor) : EStateM.Result Error Cursor DelimiterKind :=
  match next cursor with
  | .error error cursor => .error error cursor
  | .ok value cursor =>
      if value = some Octet.dash then
        match next cursor with
        | .error error cursor => .error error cursor
        | .ok value cursor =>
            if value = some Octet.dash then
              match next cursor with
              | .error error cursor => .error error cursor
              | .ok value cursor => endLine .closing value cursor
            else .error (.loneHyphen cursor.position) cursor
      else endLine .opening value cursor

/-! ## The window -/

inductive Stop
  /-- The window is the delimiter, which starts at this offset. -/
  | matched (offset : Nat)
  /-- The stream ended. -/
  | ended (place : StreamEnd)
  /-- Reading failed, or the body is refused. -/
  | failed (error : Error)
  deriving DecidableEq, Repr

/-- Where the window stops, and the body before it. -/
structure Halt where
  stop : Stop
  cursor : Cursor
  body : Option Body

def emit (body : Option Body) (piece : List UInt8) : Except Error (Option Body) :=
  match body with
  | none => .ok none
  | some body =>
      match body.append piece with
      | .error error => .error error
      | .ok body => .ok (some body)

/-- Ends the window at the end of the stream: what it holds belongs to the body. -/
def haltAtEnd (cursor : Cursor) (body : Option Body) (pending window : List UInt8) : Halt :=
  match emit body pending with
  | .error error => ⟨.failed error, cursor, body⟩
  | .ok body =>
      if window.isEmpty then ⟨.ended .atEdge, cursor, body⟩
      else
        match emit body window with
        | .error error => ⟨.failed error, cursor, body⟩
        | .ok body => ⟨.ended .withinWindow, cursor, body⟩

/-- Ends the window at a delimiter: the body must end in a line end, unless it is empty. -/
def haltAtMatch (cursor : Cursor) (body : Option Body) (pending : List UInt8) (offset : Nat) :
    Halt :=
  match body with
  | none => ⟨.matched offset, cursor, none⟩
  | some body =>
      match body.append pending with
      | .error error => ⟨.failed error, cursor, some body⟩
      | .ok body =>
          match body.terminate offset with
          | .error error body => ⟨.failed error, cursor, some body⟩
          | .ok () body => ⟨.matched offset, cursor, some body⟩

/-- Slides the window on. The cursor stands after the bytes `kept` from the last window, before
which `pending` has left the window and is not yet added to the body. -/
def slide (delimiter : Delimiter) (cursor : Cursor) (body : Option Body)
    (pending kept : List UInt8) : Halt :=
  let gathered := (cursor.markBack kept.length).take (delimiter.length - kept.length)
  let window := kept ++ gathered.bytes
  match gathered.failure with
  | some error => ⟨.failed (.stream error), gathered.cursor, body⟩
  | none =>
      if window.length < delimiter.length then
        haltAtEnd gathered.cursor body pending window
      else
        match delimiter.mismatch window with
        | none => haltAtMatch gathered.cursor body pending (cursor.position - kept.length)
        | some index =>
            match emit body pending with
            | .error error => ⟨.failed error, gathered.cursor, body⟩
            | .ok body =>
                let shift := delimiter.shift index (window.getD index 0)
                slide delimiter gathered.cursor body (window.take shift) (window.drop shift)
termination_by cursor.outstanding + kept.length
decreasing_by
  rename_i hfull
  have hread := Cursor.outstanding_gather (cursor.markBack kept.length) (fun _ => false)
    (delimiter.length - kept.length)
  have hshift : 0 < shift := delimiter.shift_pos index _
  have hlength : 0 < delimiter.length := Nat.succ_pos _
  have hwindow : window.length = kept.length + gathered.bytes.length := List.length_append
  have hdrop : (window.drop shift).length = window.length - shift := List.length_drop
  have hread : gathered.bytes.length + gathered.cursor.outstanding ≤ cursor.outstanding := hread
  change gathered.cursor.outstanding + (window.drop shift).length <
    cursor.outstanding + kept.length
  omega

def seek (delimiter : Delimiter) (cursor : Cursor) (body : Option Body) : Halt :=
  slide delimiter cursor body [] []

end Scan

/-- What a scan for a delimiter leaves behind, also when it fails. -/
structure Scan where
  outcome : Except Error Outcome
  cursor : Cursor
  /-- The body, if one is kept. -/
  body : Option Body
  /-- Where a delimiter was seen. -/
  matched : Option Nat

/-- Scans to the next delimiter and through its line. The mark is removed unless the scan fails.
With a body the bytes before the delimiter are added to it, and the delimiter must start a line. -/
def Scan.find (delimiter : Delimiter) (cursor : Cursor) (body : Option Body) : Scan :=
  let halt := Scan.seek delimiter cursor body
  match halt.stop with
  | .failed error => ⟨.error error, halt.cursor, halt.body, none⟩
  | .ended place => ⟨.ok (.ended place), halt.cursor.clearMark, halt.body, none⟩
  | .matched offset =>
      match Scan.delimiterLine halt.cursor with
      | .error error cursor => ⟨.error error, cursor, halt.body, some offset⟩
      | .ok kind cursor => ⟨.ok (.found kind), cursor.clearMark, halt.body, some offset⟩

namespace Scan

/-! ## A scan uses up what is outstanding -/

def rest {ε α : Type} : EStateM.Result ε Cursor α → Cursor
  | .ok _ cursor => cursor
  | .error _ cursor => cursor

theorem outstanding_next (cursor : Cursor) :
    (rest (next cursor)).outstanding ≤ cursor.outstanding := by
  simp only [next]
  cases h : cursor.next with
  | error error after => exact Cursor.outstanding_next_error h
  | ok value after =>
      cases value with
      | none => exact Cursor.outstanding_next_none h
      | some value => exact Nat.le_of_lt (Cursor.outstanding_next_some h)

theorem outstanding_skipPadding (value : Option UInt8) (cursor : Cursor) :
    (rest (skipPadding value cursor)).outstanding ≤ cursor.outstanding := by
  fun_induction skipPadding value cursor with
  | case1 => exact Nat.le_refl _
  | case2 cursor byte hblank error after h => exact Cursor.outstanding_next_error h
  | case3 cursor byte hblank after h => exact Cursor.outstanding_next_none h
  | case4 cursor byte hblank next after h ih =>
      exact Nat.le_trans ih (Nat.le_of_lt (Cursor.outstanding_next_some h))
  | case5 => exact Nat.le_refl _

@[simp] theorem rest_endLineEarly (kind : DelimiterKind) (cursor : Cursor) :
    rest (endLineEarly kind cursor) = cursor := by
  cases kind <;> rfl

theorem outstanding_endLine (kind : DelimiterKind) (value : Option UInt8) (cursor : Cursor) :
    (rest (endLine kind value cursor)).outstanding ≤ cursor.outstanding := by
  have hpadding := outstanding_skipPadding value cursor
  simp only [endLine]
  split
  · rename_i h
    simpa [rest, h] using hpadding
  · rename_i after h
    have hpadding : after.outstanding ≤ cursor.outstanding := by simpa [rest, h] using hpadding
    have hnext := outstanding_next after
    split
    · exact hpadding
    · split
      · split <;> rename_i hread <;> simp only [hread, rest] at hnext
        · exact Nat.le_trans hnext hpadding
        · split
          · exact Nat.le_trans hnext hpadding
          · simpa using Nat.le_trans hnext hpadding
      · simpa using hpadding

theorem outstanding_delimiterLine (cursor : Cursor) :
    (rest (delimiterLine cursor)).outstanding ≤ cursor.outstanding := by
  have hfirst := outstanding_next cursor
  simp only [delimiterLine]
  split <;> rename_i first hfirstEq <;> simp only [hfirstEq, rest] at hfirst
  · exact hfirst
  · have hsecond := outstanding_next first
    split
    · split <;> rename_i second hsecondEq <;> simp only [hsecondEq, rest] at hsecond
      · exact Nat.le_trans hsecond hfirst
      · have hthird := outstanding_next second
        split
        · split <;> rename_i third hthirdEq <;> simp only [hthirdEq, rest] at hthird
          · exact Nat.le_trans hthird (Nat.le_trans hsecond hfirst)
          · exact Nat.le_trans (outstanding_endLine _ _ _)
              (Nat.le_trans hthird (Nat.le_trans hsecond hfirst))
        · exact Nat.le_trans hsecond hfirst
    · exact Nat.le_trans (outstanding_endLine _ _ _) hfirst

@[simp] theorem cursor_haltAtEnd (cursor : Cursor) (body : Option Body)
    (pending window : List UInt8) : (haltAtEnd cursor body pending window).cursor = cursor := by
  simp only [haltAtEnd]
  repeat' split
  all_goals rfl

@[simp] theorem cursor_haltAtMatch (cursor : Cursor) (body : Option Body) (pending : List UInt8)
    (offset : Nat) : (haltAtMatch cursor body pending offset).cursor = cursor := by
  simp only [haltAtMatch]
  repeat' split
  all_goals rfl

theorem stop_haltAtEnd_ne (cursor : Cursor) (body : Option Body)
    (pending window : List UInt8) (offset : Nat) :
    (haltAtEnd cursor body pending window).stop ≠ .matched offset := by
  simp only [haltAtEnd]
  repeat' split
  all_goals simp

/-- The bytes read for a window were outstanding. -/
theorem outstanding_window (delimiter : Delimiter) (cursor : Cursor) (kept : List UInt8) :
    let gathered := (cursor.markBack kept.length).take (delimiter.length - kept.length)
    gathered.bytes.length + gathered.cursor.outstanding ≤ cursor.outstanding :=
  Cursor.outstanding_gather (cursor.markBack kept.length) (fun _ => false)
    (delimiter.length - kept.length)

theorem outstanding_slide (delimiter : Delimiter) (cursor : Cursor) (body : Option Body)
    (pending kept : List UInt8) :
    (slide delimiter cursor body pending kept).cursor.outstanding ≤ cursor.outstanding := by
  fun_induction slide delimiter cursor body pending kept with
  | case1 cursor body pending kept gathered =>
      exact Nat.le_of_add_left_le (outstanding_window delimiter cursor kept)
  | case2 cursor body pending kept gathered =>
      rw [cursor_haltAtEnd]
      exact Nat.le_of_add_left_le (outstanding_window delimiter cursor kept)
  | case3 cursor body pending kept gathered =>
      rw [cursor_haltAtMatch]
      exact Nat.le_of_add_left_le (outstanding_window delimiter cursor kept)
  | case4 cursor body pending kept gathered =>
      exact Nat.le_of_add_left_le (outstanding_window delimiter cursor kept)
  | case5 cursor body pending kept gathered window _ _ index _ next _ shift ih =>
      exact Nat.le_trans ih
        (Nat.le_of_add_left_le (outstanding_window delimiter cursor kept))

/-- A delimiter that is found was outstanding, but for the bytes kept from the last window. -/
theorem outstanding_slide_matched (delimiter : Delimiter) (cursor : Cursor) (body : Option Body)
    (pending kept : List UInt8) {offset : Nat}
    (h : (slide delimiter cursor body pending kept).stop = .matched offset) :
    (slide delimiter cursor body pending kept).cursor.outstanding + delimiter.length ≤
      cursor.outstanding + kept.length := by
  fun_induction slide delimiter cursor body pending kept with
  | case1 => contradiction
  | case2 => exact absurd h (stop_haltAtEnd_ne _ _ _ _ _)
  | case3 cursor body pending kept gathered window _ hfull =>
      have hread := outstanding_window delimiter cursor kept
      have hwindow : window.length = kept.length + gathered.bytes.length := List.length_append
      have hread : gathered.bytes.length + gathered.cursor.outstanding ≤ cursor.outstanding :=
        hread
      rw [cursor_haltAtMatch]
      omega
  | case4 => contradiction
  | case5 cursor body pending kept gathered window _ _ index _ next _ shift ih =>
      have hread : gathered.bytes.length + gathered.cursor.outstanding ≤ cursor.outstanding :=
        outstanding_window delimiter cursor kept
      have hwindow : window.length = kept.length + gathered.bytes.length := List.length_append
      have hdrop : (window.drop shift).length ≤ window.length := by simp
      have hrest := ih h
      omega

theorem outstanding_seek (delimiter : Delimiter) (cursor : Cursor) (body : Option Body) :
    (seek delimiter cursor body).cursor.outstanding ≤ cursor.outstanding :=
  outstanding_slide delimiter cursor body [] []

/-- A scan that finds a delimiter reads at least the delimiter. -/
theorem outstanding_find (delimiter : Delimiter) (cursor : Cursor) (body : Option Body) :
    (find delimiter cursor body).cursor.outstanding ≤ cursor.outstanding ∧
      ∀ kind, (find delimiter cursor body).outcome = .ok (.found kind) →
        (find delimiter cursor body).cursor.outstanding + delimiter.length ≤
          cursor.outstanding := by
  have hseek := outstanding_seek delimiter cursor body
  simp only [find]
  split
  · exact ⟨hseek, by simp⟩
  · exact ⟨hseek, by simp⟩
  · rename_i hstop
    have hmatched := outstanding_slide_matched delimiter cursor body [] [] hstop
    have hline := outstanding_delimiterLine (seek delimiter cursor body).cursor
    have hmatched : (seek delimiter cursor body).cursor.outstanding + delimiter.length ≤
      cursor.outstanding := hmatched
    split <;> rename_i after hrest <;> simp only [hrest, rest] at hline
    · exact ⟨Nat.le_trans hline hseek, by simp⟩
    · simp only [Cursor.outstanding_clearMark]
      exact ⟨by omega, fun _ _ => by omega⟩

end Scan

end Multipart
