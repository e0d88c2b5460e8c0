import Multipart.Proofs.Cursor.Replay
import Multipart.Proofs.Scan.Bisimulation
import Multipart.Proofs.Scan.Pieces
import Multipart.Proofs.Scan.Windows

/-! # Scans that fail

A scan may fail at any byte: while it reads a window, when it adds to the body, or on the line of a
delimiter that it has found. Its mark is then at the start of the last window, and nothing that is
read since has been added to the body. So nothing is lost: one can go back to the mark and read on
from there. -/

namespace Multipart

namespace Scan

open Cursor (MarkedAfter)

variable {delimiter : Delimiter} {start cursor : Cursor} {body next : Option Body}
  {before again pending kept : List UInt8}

/-- Reading the rest of a delimiter line leaves the mark where it is. -/
theorem markedAfter_delimiterLine (h : MarkedAfter start before again cursor) :
    ∃ again, MarkedAfter start before again (Result.state (delimiterLine cursor)) := by
  have hkeeps : ∀ cursor, (∃ again, MarkedAfter start before again cursor) →
      ∃ again, MarkedAfter start before again (Result.state cursor.next) := by
    rintro cursor ⟨again, hcursor⟩
    obtain ⟨more, hmore⟩ := hcursor.next
    exact ⟨again ++ more, hmore⟩
  exact (related_delimiterLine (Cursor.inStep_of_keeps hkeeps) ⟨rfl, again, h⟩).state.2

/-! ## Where the window stops -/

/-- A body, if one is kept, has no other bytes than these first ones. -/
def Within (body : Option Body) (bytes : List UInt8) : Prop :=
  ∀ kept, body = some kept → kept.bytes <+: bytes

theorem within_some {body : Body} {bytes : List UInt8} (h : body.bytes <+: bytes) :
    Within (some body) bytes := by
  rintro kept ⟨rfl⟩
  exact h

/-- A body, if one is kept, has these bytes but for those that have just left the window. -/
def Lacks (body : Option Body) (pending bytes : List UInt8) : Prop :=
  ∀ kept, body = some kept → kept.bytes ++ pending = bytes

theorem Lacks.within (h : Lacks body pending before) : Within body before := by
  intro kept hkept
  exact ⟨pending, h kept hkept⟩

theorem Lacks.emit {piece : List UInt8} (h : Lacks body pending before)
    (hnext : emit body pending = .ok next) : Lacks next piece (before ++ piece) := by
  rintro kept rfl
  have hgrown := emit_eq_ok hnext
  cases body with
  | none => cases hgrown
  | some last =>
      cases hgrown
      rw [Body.bytes_extend, h last rfl]

theorem ended_or_within_haltAtEnd (h : Lacks body pending before) (cursor : Cursor)
    (window : List UInt8) :
    (∃ place, (haltAtEnd cursor body pending window).stop = .ended place) ∨
      Within (haltAtEnd cursor body pending window).body before := by
  simp only [haltAtEnd]
  cases hpending : emit body pending with
  | error error => exact .inr h.within
  | ok next =>
      have hnext : Lacks next [] (before ++ []) := h.emit hpending
      rw [List.append_nil] at hnext
      simp only
      split
      · exact .inl ⟨_, rfl⟩
      · cases emit next window with
        | error error => exact .inr hnext.within
        | ok last => exact .inl ⟨_, rfl⟩

theorem within_haltAtMatch (h : Lacks body pending before) (cursor : Cursor) (offset : Nat) :
    Within (haltAtMatch cursor body pending offset).body before := by
  cases body with
  | none => nofun
  | some body =>
      simp only [haltAtMatch]
      cases happend : body.append pending with
      | error error => exact h.within
      | ok grown =>
          have hgrown : grown.bytes = before := by
            rw [Body.append_eq_ok happend, Body.bytes_extend, h body rfl]
          have hless := grown.state_terminate_prefix offset
          rw [hgrown] at hless
          cases hlast : grown.terminate offset with
          | error error last =>
              rw [hlast] at hless
              simp only [hlast]
              exact within_some hless
          | ok _ last =>
              rw [hlast] at hless
              simp only [hlast]
              exact within_some hless

/-- A window that stops has its mark at its start. Unless the stream has ended, nothing that is read
since is added to the body. -/
structure Stays (start : Cursor) (before again : List UInt8) (halt : Halt) : Prop where
  marked : MarkedAfter start before again halt.cursor
  within : (∃ place, halt.stop = .ended place) ∨ Within halt.body before

theorem stays_slide (delimiter : Delimiter) (cursor : Cursor) (body : Option Body)
    (pending kept : List UInt8)
    (hmarked : MarkedAfter start before kept (cursor.markBack kept.length))
    (hbody : Lacks body pending before) :
    ∃ before again, Stays start before again (slide delimiter cursor body pending kept) := by
  have hlook : ∀ {cursor : Cursor} {before kept : List UInt8},
      MarkedAfter start before kept (cursor.markBack kept.length) →
      MarkedAfter start before (window delimiter cursor kept) (look delimiter cursor kept).cursor :=
    fun hmarked => hmarked.take _
  induction cursor, body, pending, kept using slide_induction delimiter generalizing before with
  | failure cursor body pending kept error herror =>
      rw [slide_of_failure herror]
      exact ⟨before, _, hlook hmarked, .inr hbody.within⟩
  | short cursor body pending kept hnone hshort =>
      rw [slide_of_short hnone hshort]
      refine ⟨before, window delimiter cursor kept, ?_, ended_or_within_haltAtEnd hbody _ _⟩
      rw [cursor_haltAtEnd]
      exact hlook hmarked
  | found cursor body pending kept hnone hfull hmatch =>
      rw [slide_of_match hnone hfull hmatch]
      refine ⟨before, window delimiter cursor kept, ?_, .inr (within_haltAtMatch hbody _ _)⟩
      rw [cursor_haltAtMatch]
      exact hlook hmarked
  | refused cursor body pending kept index error hnone hfull hindex hrefused =>
      rw [slide_of_refused hnone hfull hindex hrefused]
      exact ⟨before, _, hlook hmarked, .inr hbody.within⟩
  | slid cursor body pending kept index next hnone hfull hindex hemitted ih =>
      rw [slide_of_mismatch hnone hfull hindex hemitted]
      have hwindow := hlook hmarked
      rw [← List.take_append_drop (delimiter.shift index
        ((window delimiter cursor kept).getD index 0)) (window delimiter cursor kept)] at hwindow
      exact ih hwindow.markBack (hbody.emit hemitted)

theorem stays_seek (delimiter : Delimiter) (cursor : Cursor) {body : Option Body}
    (hbody : Lacks body [] []) :
    ∃ before again, Stays cursor before again (seek delimiter cursor body) :=
  stays_slide delimiter cursor body [] [] (Cursor.markedAfter_mark cursor) hbody

/-! ## The scan -/

@[simp] theorem body_find (delimiter : Delimiter) (cursor : Cursor) (body : Option Body) :
    (find delimiter cursor body).body = (seek delimiter cursor body).body := by
  simp only [find]
  repeat' split
  all_goals rfl

/-- A scan that succeeds leaves no mark. -/
theorem marked?_find_ok {outcome : Outcome}
    (h : (find delimiter cursor body).outcome = .ok outcome) :
    (find delimiter cursor body).cursor.marked? = none := by
  simp only [find] at h ⊢
  split at h
  · cases h
  · rfl
  · split at h
    · cases h
    · rfl

/-- A scan that fails leaves the mark where it last was, and has added nothing to the body that is
read since. -/
theorem markedAfter_find {error : Error} (hbody : Lacks body [] [])
    (h : (find delimiter cursor body).outcome = .error error) :
    ∃ before again, MarkedAfter cursor before again (find delimiter cursor body).cursor ∧
      Within (find delimiter cursor body).body before := by
  obtain ⟨before, again, hmarked, hwithin⟩ := stays_seek delimiter cursor hbody
  rw [body_find]
  simp only [find] at h ⊢
  cases hstop : (seek delimiter cursor body).stop with
  | failed failure =>
      simp only [hstop, reduceCtorEq, exists_false, false_or] at hwithin ⊢
      exact ⟨before, again, hmarked, hwithin⟩
  | ended place => simp [hstop] at h
  | matched offset =>
      simp only [hstop, reduceCtorEq, exists_false, false_or] at hwithin h ⊢
      obtain ⟨since, hline⟩ := markedAfter_delimiterLine hmarked
      cases hread : delimiterLine (seek delimiter cursor body).cursor with
      | ok kind after => simp [hread] at h
      | error failure after =>
          rw [hread] at hline
          exact ⟨before, since, hline, hwithin⟩

theorem exists_body_seek (delimiter : Delimiter) (cursor : Cursor) (body : Body) :
    ∃ last, (seek delimiter cursor (some body)).body = some last := by
  have hadds := adds_slide delimiter cursor body [] []
  rw [seek]
  generalize slide delimiter cursor (some body) [] [] = halt at hadds
  cases hadds with
  | @refused error last after hrefused => exact ⟨last, rfl⟩
  | @added last hadded =>
      obtain ⟨closed, hclosed, -⟩ := exists_body_close (slide delimiter cursor none [] []) last
      exact ⟨closed, hclosed⟩

/-- A body that starts empty is kept, whatever happens, and never exceeds its limit by more than the
room for a line end. -/
theorem exists_body_find (delimiter : Delimiter) (cursor : Cursor) (limit : Nat) :
    ∃ last, (find delimiter cursor (some (.empty limit))).body = some last ∧
      last.bytes.length ≤ limit + 2 := by
  obtain ⟨last, hlast⟩ := exists_body_seek delimiter cursor (.empty limit)
  have hmem : last ∈ moments delimiter cursor (.empty limit) := by
    rw [moments, hlast]
    exact List.mem_append_right _ (List.mem_singleton_self last)
  have hsize := size_le_of_mem_moments (Body.size_empty_le limit) last hmem
  rw [Body.size_eq_length] at hsize
  exact ⟨last, by rw [body_find, hlast], Nat.le_trans hsize (Nat.min_le_left _ _)⟩

end Scan

/-- What a failed scan leaves behind. The cursor can go back to its mark and read on from there what
the stream has after it; where the scan failed it is the same cursor again. The body has only bytes
from before the mark. -/
structure Recoverable (cursor : Cursor) (limit? : Option Nat) (scan : Scan) (mark : Nat) :
    Prop where
  marked : scan.cursor.marked? = some mark
  position_le : cursor.position ≤ mark
  le_position : mark ≤ scan.cursor.position
  rewinds : ∃ back, scan.cursor.rewind = .ok () back ∧ back.position = mark ∧
    back.HandsOut (cursor.unread.drop (mark - cursor.position)) ∧
    back.take (scan.cursor.position - mark) =
      ⟨(cursor.unread.drop (mark - cursor.position)).take (scan.cursor.position - mark), none,
        scan.cursor⟩
  body : ∀ limit, limit? = some limit → ∃ body, scan.body = some body ∧
    body.bytes <+: cursor.unread.take (mark - cursor.position) ∧ body.bytes.length ≤ limit + 2

theorem recoverable_of_markedAfter {cursor : Cursor} {limit? : Option Nat} {scan : Scan}
    {before again : List UInt8} (hmarked : Cursor.MarkedAfter cursor before again scan.cursor)
    (hwithin : Scan.Within scan.body before)
    (hbody : ∀ limit, limit? = some limit →
      ∃ body, scan.body = some body ∧ body.bytes.length ≤ limit + 2) :
    Recoverable cursor limit? scan (cursor.position + before.length) := by
  have hposition := hmarked.position_eq
  have hunread := hmarked.unread_eq
  obtain ⟨back, hrewind, hback, htake, hafter⟩ := hmarked.rewind
  have hsince : scan.cursor.position - (cursor.position + before.length) = again.length := by omega
  constructor
  · exact hmarked.marked?
  · exact Nat.le_add_right _ _
  · omega
  · refine ⟨back, hrewind, hback, ?_, ?_⟩
    · rw [Nat.add_sub_cancel_left, hunread, List.drop_left, ← hafter]
      exact back.handsOut_unread
    · rw [Nat.add_sub_cancel_left, hunread, List.drop_left, hsince, List.take_left, htake]
  · intro limit hlimit
    obtain ⟨body, hkept, hlength⟩ := hbody limit hlimit
    refine ⟨body, hkept, ?_, hlength⟩
    rw [Nat.add_sub_cancel_left, hunread, List.take_left]
    exact hwithin body hkept

/-- A scan that fails loses nothing, whatever the stream does, and one that succeeds leaves no mark.
The next scan with the same two windows does what one with new windows does. -/
theorem windows_find_recovers {delimiter : Delimiter} (windows : Windows delimiter)
    (cursor : Cursor) (limit? : Option Nat) {scan : Scan} {left : Windows delimiter}
    (h : windows.find cursor (limit?.map Body.empty) = (scan, left)) :
    (∀ error, scan.outcome = .error error → ∃ mark, Recoverable cursor limit? scan mark) ∧
      (∀ outcome, scan.outcome = .ok outcome → scan.cursor.marked? = none) ∧
      ∀ later body, (left.find later body).1 = ((Windows.blank delimiter).find later body).1 := by
  have hscan : scan = Scan.find delimiter cursor (limit?.map Body.empty) := by
    rw [← windows.find_eq, h]
  subst hscan
  refine ⟨fun error herror => ?_, fun outcome => Scan.marked?_find_ok, fun later body => ?_⟩
  · have hempty : Scan.Lacks (limit?.map Body.empty) [] [] := by
      intro kept hkept
      obtain ⟨limit, -, rfl⟩ := Option.map_eq_some_iff.mp hkept
      rfl
    obtain ⟨before, again, hmarked, hwithin⟩ := Scan.markedAfter_find hempty herror
    refine ⟨cursor.position + before.length, recoverable_of_markedAfter hmarked hwithin ?_⟩
    rintro limit rfl
    exact Scan.exists_body_find delimiter cursor limit
  · rw [left.find_eq, Windows.find_eq]

def boundaryA : Delimiter := .ofBytes [65]

def paddedOpening : List UInt8 :=
  [120, Octet.cr, Octet.lf] ++ boundaryA.bytes ++ [Octet.space, Octet.lf]

/-- A stream that is interrupted before the delimiter and fails within the padding. -/
def cutOff : Cursor :=
  .ofSource (.ofPlan paddedOpening
    [⟨3, .interruption, 2⟩, ⟨7, .failure (.device .timedOut "late"), 1⟩] (some 4)) 5

def cutShort : Scan × Windows boundaryA :=
  (Windows.blank boundaryA).find cutOff (some (.empty 8))

theorem windows_find_recovers_cut_off :
    cutOff.unread = paddedOpening ∧
      ∃ error, cutShort.1.outcome = .error error ∧ Recoverable cutOff (some 8) cutShort.1 3 := by
  have hscan : cutShort.1 = Scan.find boundaryA cutOff (some (.empty 8)) := Windows.find_eq _ _ _
  have hfails : cutShort.1.outcome.isOk = false := by
    rw [hscan]
    decide +kernel
  have hmarked : cutShort.1.cursor.marked? = some 3 := by
    rw [hscan]
    decide +kernel
  refine ⟨Cursor.unread_ofPlan _ _ _ _, ?_⟩
  cases houtcome : cutShort.1.outcome with
  | ok outcome => simp [houtcome, Except.isOk, Except.toBool] at hfails
  | error error =>
      obtain ⟨mark, hmark⟩ :=
        (windows_find_recovers (Windows.blank boundaryA) cutOff (some 8) rfl).1 error houtcome
      have hsame : mark = 3 := Option.some.inj (hmark.marked.symm.trans hmarked)
      subst hsame
      exact ⟨error, rfl, hmark⟩

end Multipart
