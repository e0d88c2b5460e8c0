import Multipart.Proofs.Cursor.Rewind
import Multipart.Proofs.Scan.Search

/-! # Scanning with two windows

A scanner has two windows of the delimiter's length that it swaps. It reads a whole window, and
after a mismatch it goes back to the mark and skips as many bytes as the window slides by; these are
added to the body from the other window, one slide late. The windows are not cleared between scans.
It does just what a single window that slides does, whatever earlier scans have left in the two. -/

namespace Multipart

structure Windows (delimiter : Delimiter) where
  current : List UInt8
  previous : List UInt8
  length_current : current.length = delimiter.length
  length_previous : previous.length = delimiter.length

/-- Ends a scan whose window has stopped: the line of a delimiter that it has found is read, and the
mark is removed unless the scan fails. -/
def Scan.Halt.finish (halt : Scan.Halt) : Scan :=
  match halt.stop with
  | .failed error => ⟨.error error, halt.cursor, halt.body, none⟩
  | .ended place => ⟨.ok (.ended place), halt.cursor.clearMark, halt.body, none⟩
  | .matched offset =>
      match Scan.delimiterLine halt.cursor with
      | .error error cursor => ⟨.error error, cursor, halt.body, some offset⟩
      | .ok kind cursor => ⟨.ok (.found kind), cursor.clearMark, halt.body, some offset⟩

theorem Scan.find_eq_finish (delimiter : Delimiter) (cursor : Cursor) (body : Option Body) :
    Scan.find delimiter cursor body = (Scan.seek delimiter cursor body).finish := rfl

namespace Windows

variable {delimiter : Delimiter}

def blank (delimiter : Delimiter) : Windows delimiter :=
  ⟨List.replicate delimiter.length 0, List.replicate delimiter.length 0, List.length_replicate,
    List.length_replicate⟩

def swap (windows : Windows delimiter) : Windows delimiter :=
  ⟨windows.previous, windows.current, windows.length_previous, windows.length_current⟩

/-- Reads bytes into the front of the current window. What stands behind them there stays. -/
def read (windows : Windows delimiter) (bytes : List UInt8) : Windows delimiter :=
  { windows with
    current := (bytes ++ windows.current.drop bytes.length).take delimiter.length
    length_current := by
      have hlength := windows.length_current
      rw [List.length_take, List.length_append, List.length_drop]
      omega }

@[simp] theorem previous_read (windows : Windows delimiter) (bytes : List UInt8) :
    (windows.read bytes).previous = windows.previous := rfl

@[simp] theorem previous_swap (windows : Windows delimiter) :
    windows.swap.previous = windows.current := rfl

theorem take_current_read (windows : Windows delimiter) {bytes : List UInt8}
    (h : bytes.length ≤ delimiter.length) :
    (windows.read bytes).current.take bytes.length = bytes := by
  rw [read, List.take_take, Nat.min_eq_left h, List.take_left]

theorem current_read (windows : Windows delimiter) {bytes : List UInt8}
    (h : bytes.length = delimiter.length) : (windows.read bytes).current = bytes := by
  have htake := windows.take_current_read (Nat.le_of_eq h)
  rwa [h, List.take_of_length_le (Nat.le_of_eq (windows.read bytes).length_current)] at htake

/-! ## The scan -/

theorem length_of_full {cursor : Cursor} {count : Nat} (hnone : (cursor.take count).failure = none)
    (hfull : ¬(cursor.take count).bytes.length < count) :
    (cursor.take count).bytes.length = count := by
  have hgathers := Cursor.gathers_take cursor count
  generalize cursor.take count = gathered at *
  cases hgathers with
  | full hreads hlength => exact hlength
  | ended hreads hend hlength => exact absurd hlength hfull
  | failure hreads hend => cases hnone

/-- A cursor that has read a whole window after its mark goes back there, and skips what the window
slides by. It then stands behind by the rest of the window, and less is outstanding than before. -/
theorem exists_behind {cursor : Cursor} {index : Nat} (value : UInt8)
    (hnone : (cursor.mark.take delimiter.length).failure = none)
    (hfull : ¬(cursor.mark.take delimiter.length).bytes.length < delimiter.length)
    (hindex : delimiter.mismatch (cursor.mark.take delimiter.length).bytes = some index) :
    ∃ rewound, (cursor.mark.take delimiter.length).cursor.rewind = .ok () rewound ∧
      ∃ back, rewound.take (delimiter.shift index value) =
          ⟨(cursor.mark.take delimiter.length).bytes.take (delimiter.shift index value), none,
            back⟩ ∧
        Cursor.Behind back (cursor.mark.take delimiter.length).cursor
          ((cursor.mark.take delimiter.length).bytes.drop (delimiter.shift index value)) ∧
        back.outstanding < cursor.outstanding := by
  have hgathers := Cursor.gathers_take cursor.mark delimiter.length
  have hsince := Cursor.since_take cursor.mark delimiter.length
  have houtstanding := Cursor.outstanding_gather cursor.mark (fun _ => false) delimiter.length
  have hshift := Delimiter.shift_le_length hindex value
  have hpos := delimiter.shift_pos index value
  change (cursor.mark.take delimiter.length).bytes.length +
    (cursor.mark.take delimiter.length).cursor.outstanding ≤ cursor.outstanding at houtstanding
  generalize cursor.mark.take delimiter.length = gathered at *
  generalize delimiter.shift index value = shift at *
  cases hgathers with
  | ended hreads hend hlength => exact absurd hlength hfull
  | failure hreads hend => cases hnone
  | @full bytes after hreads hlength =>
      have hposition := hreads.position_eq
      have hmark : cursor.mark.since = some [] := rfl
      simp only [hmark, Option.map_some, List.append_nil] at hsince houtstanding
      have hsplit : bytes.take shift ++ bytes.drop shift = bytes :=
        List.take_append_drop shift bytes
      have htake : (bytes.take shift).length = shift := by
        rw [List.length_take]
        omega
      have hread : after.since = some (bytes.take shift ++ bytes.drop shift).reverse := by
        rw [hsplit, hsince]
      have hpassed : (bytes.take shift ++ bytes.drop shift).length ≤ after.position := by
        rw [hsplit]
        omega
      obtain ⟨rewound, hrewind, back, hback, hbehind, hleft⟩ :=
        Cursor.behind_of_rewind hread hpassed
      rw [htake] at hback
      refine ⟨rewound, hrewind, back, hback, hbehind, ?_⟩
      rw [hleft, List.length_drop]
      omega

/-- Reads a window from the cursor and slides on. So many of the first bytes of the other window
have been passed and are not yet added to the body. -/
def slide (windows : Windows delimiter) (passed : Nat) (cursor : Cursor) (body : Option Body) :
    Scan.Halt × Windows delimiter :=
  let gathered := cursor.mark.take delimiter.length
  let filled := windows.read gathered.bytes
  let pending := filled.previous.take passed
  match _hfailure : gathered.failure with
  | some error => (⟨.failed (.stream error), gathered.cursor, body⟩, filled)
  | none =>
      if _hshort : gathered.bytes.length < delimiter.length then
        (Scan.haltAtEnd gathered.cursor body pending (filled.current.take gathered.bytes.length),
          filled)
      else
        match _hindex : delimiter.mismatch filled.current with
        | none => (Scan.haltAtMatch gathered.cursor body pending cursor.position, filled)
        | some index =>
            match Scan.emit body pending with
            | .error error => (⟨.failed error, gathered.cursor, body⟩, filled)
            | .ok body =>
                let shift := delimiter.shift index (filled.current.getD index 0)
                match _hrewind : gathered.cursor.rewind with
                | .error error cursor => (⟨.failed (.stream error), cursor, body⟩, filled)
                | .ok () rewound =>
                    let skipped := rewound.take shift
                    match skipped.failure with
                    | some error => (⟨.failed (.stream error), skipped.cursor, body⟩, filled)
                    | none => slide filled.swap shift skipped.cursor body
termination_by cursor.outstanding
decreasing_by
  rw [windows.current_read (length_of_full _hfailure _hshort)] at _hindex
  obtain ⟨other, hother, back, hback, -, hless⟩ :=
    exists_behind (filled.current.getD index 0) _hfailure _hshort _hindex
  rw [hother] at _hrewind
  cases _hrewind
  rw [hback]
  exact hless

/-- Scans to the next delimiter and through its line, with two windows. -/
def find (windows : Windows delimiter) (cursor : Cursor) (body : Option Body) :
    Scan × Windows delimiter :=
  let (halt, windows) := windows.slide 0 cursor body
  (halt.finish, windows)

/-! ## One step of the scan -/

section Step

variable {windows : Windows delimiter} {passed index : Nat} {cursor after : Cursor}
  {body next : Option Body} {bytes : List UInt8}

theorem length_of_read (hread : cursor.mark.take delimiter.length = ⟨bytes, none, after⟩)
    (hfull : ¬bytes.length < delimiter.length) : bytes.length = delimiter.length := by
  have hlength := @length_of_full cursor.mark delimiter.length
  rw [hread] at hlength
  exact hlength rfl hfull

theorem slide_of_failure {error : StreamError}
    (hread : cursor.mark.take delimiter.length = ⟨bytes, some error, after⟩) :
    (windows.slide passed cursor body).1 = ⟨.failed (.stream error), after, body⟩ := by
  rw [slide]
  split
  · simp_all
  · simp_all

theorem slide_of_short (hread : cursor.mark.take delimiter.length = ⟨bytes, none, after⟩)
    (hshort : bytes.length < delimiter.length) :
    (windows.slide passed cursor body).1 =
      Scan.haltAtEnd after body (windows.previous.take passed) bytes := by
  have htake := windows.take_current_read (Nat.le_of_lt hshort)
  rw [slide]
  split
  · simp_all
  · rw [dif_pos (by rw [hread]; exact hshort)]
    simp only [hread, htake, previous_read]

theorem slide_of_match (hread : cursor.mark.take delimiter.length = ⟨bytes, none, after⟩)
    (hfull : ¬bytes.length < delimiter.length) (hmatch : delimiter.mismatch bytes = none) :
    (windows.slide passed cursor body).1 =
      Scan.haltAtMatch after body (windows.previous.take passed) cursor.position := by
  have hwindow := windows.current_read (length_of_read hread hfull)
  rw [slide]
  split
  · simp_all
  · rw [dif_neg (by rw [hread]; exact hfull)]
    split
    · simp only [hread, previous_read]
    · simp_all

theorem slide_of_refused {error : Error}
    (hread : cursor.mark.take delimiter.length = ⟨bytes, none, after⟩)
    (hfull : ¬bytes.length < delimiter.length) (hindex : delimiter.mismatch bytes = some index)
    (hbody : Scan.emit body (windows.previous.take passed) = .error error) :
    (windows.slide passed cursor body).1 = ⟨.failed error, after, body⟩ := by
  have hwindow := windows.current_read (length_of_read hread hfull)
  rw [slide]
  split
  · simp_all
  · rw [dif_neg (by rw [hread]; exact hfull)]
    split
    · simp_all
    · simp only [previous_read, hbody, hread]

/-- After a mismatch the cursor goes back behind the window and the two windows change places. -/
theorem slide_of_mismatch (hread : cursor.mark.take delimiter.length = ⟨bytes, none, after⟩)
    (hfull : ¬bytes.length < delimiter.length) (hindex : delimiter.mismatch bytes = some index)
    (hbody : Scan.emit body (windows.previous.take passed) = .ok next) :
    ∃ back, Cursor.Behind back after (bytes.drop (delimiter.shift index (bytes.getD index 0))) ∧
      windows.slide passed cursor body =
        (windows.read bytes).swap.slide (delimiter.shift index (bytes.getD index 0)) back next := by
  have hwindow := windows.current_read (length_of_read hread hfull)
  obtain ⟨rewound, hrewind, back, hback, hbehind, -⟩ := exists_behind (bytes.getD index 0)
    (by rw [hread]) (by rw [hread]; exact hfull) (by rw [hread]; exact hindex)
  simp only [hread] at hrewind hback hbehind
  refine ⟨back, hbehind, ?_⟩
  rw [slide]
  split
  · simp_all
  · rw [dif_neg (by rw [hread]; exact hfull)]
    split
    · simp_all
    · rename_i other hother
      have hsame : other = index := by
        rw [hread, hwindow, hindex] at hother
        exact (Option.some.inj hother).symm
      subst hsame
      simp only [previous_read, hbody]
      split
      · simp_all
      · rename_i again hagain
        have hrewound : again = rewound := by
          rw [hread, hrewind] at hagain
          cases hagain
          rfl
        subst hrewound
        simp only [hread, hwindow, hback]

end Step

/-! ## One window that slides -/

variable {cursor back : Cursor} {kept pending : List UInt8}

theorem take_mark_eq (h : Cursor.Behind back cursor kept)
    (hkept : kept.length ≤ delimiter.length) :
    back.mark.take delimiter.length =
      ⟨Scan.window delimiter cursor kept, (Scan.look delimiter cursor kept).failure,
        (Scan.look delimiter cursor kept).cursor⟩ := by
  have htake := h.take_mark (delimiter.length - kept.length)
  rwa [Nat.add_sub_cancel' hkept] at htake

/-- From behind the window that slides, two windows do what it does. -/
theorem slide_eq (h : Cursor.Behind back cursor kept) (hkept : kept.length ≤ delimiter.length)
    (windows : Windows delimiter) {passed : Nat} (hpending : windows.previous.take passed = pending)
    (body : Option Body) :
    (windows.slide passed back body).1 = Scan.slide delimiter cursor body pending kept := by
  induction cursor, body, pending, kept using Scan.slide_induction delimiter
    generalizing back windows passed with
  | failure cursor body pending kept error herror =>
      have hread := take_mark_eq h hkept
      rw [herror] at hread
      rw [Scan.slide_of_failure herror, slide_of_failure hread]
  | short cursor body pending kept hnone hshort =>
      have hread := take_mark_eq h hkept
      rw [hnone] at hread
      rw [Scan.slide_of_short hnone hshort, slide_of_short hread hshort, hpending]
  | found cursor body pending kept hnone hfull hmatch =>
      have hread := take_mark_eq h hkept
      rw [hnone] at hread
      rw [Scan.slide_of_match hnone hfull hmatch, slide_of_match hread hfull hmatch, hpending,
        ← h.position_eq, Nat.add_sub_cancel]
  | refused cursor body pending kept index error hnone hfull hindex hbody =>
      have hread := take_mark_eq h hkept
      rw [hnone] at hread
      rw [Scan.slide_of_refused hnone hfull hindex hbody,
        slide_of_refused hread hfull hindex (hpending ▸ hbody)]
  | slid cursor body pending kept index next hnone hfull hindex hbody ih =>
      have hread := take_mark_eq h hkept
      rw [hnone] at hread
      obtain ⟨later, hbehind, hslide⟩ :=
        slide_of_mismatch hread hfull hindex (hpending ▸ hbody)
      have hlength := length_of_read hread hfull
      rw [Scan.slide_of_mismatch hnone hfull hindex hbody, hslide]
      apply ih hbehind
      · rw [List.length_drop]
        omega
      · rw [previous_swap, windows.current_read hlength]

/-- Whatever the two windows hold, they find what one window finds that slides. -/
theorem find_eq (windows : Windows delimiter) (cursor : Cursor) (body : Option Body) :
    (windows.find cursor body).1 = Scan.find delimiter cursor body := by
  have hslide := slide_eq (Cursor.behind_refl cursor) (Nat.zero_le _) windows
    (List.take_zero (l := windows.previous)) body
  rw [Scan.find_eq_finish, Scan.seek, ← hslide]
  rfl

end Windows

end Multipart
