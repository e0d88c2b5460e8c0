import Multipart.Header
import Multipart.Proofs.Cursor.Bisimulation

/-! # Header blocks line by line

What reading one line of a header block leads to, and what two related cursors make of a block. -/

namespace Multipart.Header

open Cursor (Bisimulation)
open Result (Related)

/-- The line that is read after some bytes of a block. -/
def nextLine (limit size : Nat) (cursor : Cursor) : Cursor.Gathered :=
  cursor.gather (· = Octet.lf) (addCapped (limit - size) 2)

/-- Whether a line ends the block: it is blank, or the stream has ended. -/
def endsBlock (line : List UInt8) : Bool :=
  line.isEmpty || isBlankLine line

variable {limit size : Nat} {taken : List (List UInt8)} {cursor : Cursor}

theorem readLines_of_failure {error : StreamError}
    (h : (nextLine limit size cursor).failure = some error) :
    readLines limit taken size cursor =
      .error (.stream error) (nextLine limit size cursor).cursor := by
  rw [readLines]
  split <;> simp_all [nextLine]

theorem readLines_of_end (h : (nextLine limit size cursor).failure = none)
    (hend : endsBlock (nextLine limit size cursor).bytes) :
    readLines limit taken size cursor =
      .ok taken.reverse (nextLine limit size cursor).cursor := by
  rw [readLines]
  split
  · simp_all [nextLine]
  · exact if_pos hend

theorem readLines_of_tooLong (h : (nextLine limit size cursor).failure = none)
    (hend : ¬endsBlock (nextLine limit size cursor).bytes)
    (hlong : limit < size + (nextLine limit size cursor).bytes.length) :
    readLines limit taken size cursor =
      .error (.headerTooLong limit) (nextLine limit size cursor).cursor := by
  rw [readLines]
  split
  · simp_all [nextLine]
  · exact (if_neg hend).trans (if_pos hlong)

theorem readLines_of_line (h : (nextLine limit size cursor).failure = none)
    (hend : ¬endsBlock (nextLine limit size cursor).bytes)
    (hfits : ¬limit < size + (nextLine limit size cursor).bytes.length) :
    readLines limit taken size cursor =
      readLines limit ((nextLine limit size cursor).bytes :: taken)
        (size + (nextLine limit size cursor).bytes.length)
        (nextLine limit size cursor).cursor := by
  rw [readLines]
  split
  · simp_all [nextLine]
  · exact (if_neg hend).trans (if_neg hfits)

/-- A line stops the reading of a block by failing, ending it or being too long, or joins it. -/
@[elab_as_elim]
theorem readLines_induction (limit : Nat) {motive : List (List UInt8) → Nat → Cursor → Prop}
    (failure : ∀ taken size cursor error, (nextLine limit size cursor).failure = some error →
      motive taken size cursor)
    (last : ∀ taken size cursor, (nextLine limit size cursor).failure = none →
      endsBlock (nextLine limit size cursor).bytes → motive taken size cursor)
    (tooLong : ∀ taken size cursor, (nextLine limit size cursor).failure = none →
      ¬endsBlock (nextLine limit size cursor).bytes →
      limit < size + (nextLine limit size cursor).bytes.length → motive taken size cursor)
    (line : ∀ taken size cursor, (nextLine limit size cursor).failure = none →
      ¬endsBlock (nextLine limit size cursor).bytes →
      ¬limit < size + (nextLine limit size cursor).bytes.length →
      motive ((nextLine limit size cursor).bytes :: taken)
        (size + (nextLine limit size cursor).bytes.length) (nextLine limit size cursor).cursor →
      motive taken size cursor)
    (taken : List (List UInt8)) (size : Nat) (cursor : Cursor) : motive taken size cursor :=
  readLines.induct limit motive failure last tooLong line taken size cursor

/-! ## Related cursors -/

variable {R : Cursor → Cursor → Prop} {a b : Cursor}

theorem alike_nextLine (hR : Bisimulation R) (hab : R a b) (limit size : Nat) :
    Cursor.Gathered.Alike R (nextLine limit size a) (nextLine limit size b) :=
  hR.gather hab (· = Octet.lf) (addCapped (limit - size) 2)

theorem related_readLines (hR : Bisimulation R) (hab : R a b) (limit : Nat)
    (taken : List (List UInt8)) (size : Nat) :
    Related R (readLines limit taken size a) (readLines limit taken size b) := by
  induction taken, size, a using readLines_induction limit generalizing b with
  | failure taken size a error herror =>
      have hline := alike_nextLine hR hab limit size
      rw [readLines_of_failure herror, readLines_of_failure (hline.failure_eq ▸ herror)]
      exact .error hline.cursor
  | last taken size a hnone hend =>
      have hline := alike_nextLine hR hab limit size
      rw [readLines_of_end hnone hend,
        readLines_of_end (hline.failure_eq ▸ hnone) (hline.bytes_eq ▸ hend)]
      exact .ok hline.cursor
  | tooLong taken size a hnone hend hlong =>
      have hline := alike_nextLine hR hab limit size
      rw [readLines_of_tooLong hnone hend hlong,
        readLines_of_tooLong (hline.failure_eq ▸ hnone) (hline.bytes_eq ▸ hend)
          (hline.bytes_eq ▸ hlong)]
      exact .error hline.cursor
  | line taken size a hnone hend hfits ih =>
      have hline := alike_nextLine hR hab limit size
      have hother : readLines limit taken size b = _ :=
        readLines_of_line (hline.failure_eq ▸ hnone) (hline.bytes_eq ▸ hend)
          (hline.bytes_eq ▸ hfits)
      rw [readLines_of_line hnone hend hfits, hother, ← hline.bytes_eq]
      exact ih hline.cursor

theorem related_readBlock (hR : Bisimulation R) (hab : R a b) (limit : Nat) :
    Related R (readBlock limit a) (readBlock limit b) := by
  have hlines := related_readLines hR hab limit [] 0
  simp only [readBlock]
  generalize readLines limit [] 0 a = first at hlines
  generalize readLines limit [] 0 b = second at hlines
  cases hlines with
  | ok hafter => exact .ok hafter
  | error hafter => exact .error hafter

theorem kept_readLines {P : Cursor → Prop} (hP : Cursor.Kept P) (h : P a) (limit : Nat)
    (taken : List (List UInt8)) (size : Nat) : P (Result.state (readLines limit taken size a)) :=
  (related_readLines hP.bisimulation ⟨rfl, h⟩ limit taken size).state.2

/-- A block that is read before the cursor is lost is read alike from a tracked cursor. -/
theorem tracks_readLines {Lost : Cursor → Prop} (hR : Cursor.Tracks Lost R) (hab : R a b)
    (limit : Nat) (taken : List (List UInt8)) (size : Nat) {lines : List (List UInt8)}
    {after : Cursor} (h : readLines limit taken size a = .ok lines after) (hlost : ¬Lost after) :
    ∃ other, readLines limit taken size b = .ok lines other ∧ R after other := by
  have hgather : ∀ {a b : Cursor} {size : Nat}, R a b → ¬Lost (nextLine limit size a).cursor →
      Cursor.Gathered.Alike R (nextLine limit size a) (nextLine limit size b) :=
    fun hab hline => hR.gatherFrom hab (· = Octet.lf) _ [] hline
  induction taken, size, a using readLines_induction limit generalizing b with
  | failure taken size a error herror =>
      rw [readLines_of_failure herror] at h
      cases h
  | last taken size a hnone hend =>
      rw [readLines_of_end hnone hend] at h
      cases h
      have hline := hgather hab hlost
      exact ⟨_, readLines_of_end (hline.failure_eq ▸ hnone) (hline.bytes_eq ▸ hend), hline.cursor⟩
  | tooLong taken size a hnone hend hlong =>
      rw [readLines_of_tooLong hnone hend hlong] at h
      cases h
  | line taken size a hnone hend hfits ih =>
      rw [readLines_of_line hnone hend hfits] at h
      have hkept : ¬Lost (nextLine limit size a).cursor := by
        intro hline
        have hafter := kept_readLines hR.lost hline limit
          ((nextLine limit size a).bytes :: taken) (size + (nextLine limit size a).bytes.length)
        rw [h] at hafter
        exact hlost hafter
      have hline := hgather hab hkept
      have hother : readLines limit taken size b = _ :=
        readLines_of_line (hline.failure_eq ▸ hnone) (hline.bytes_eq ▸ hend)
          (hline.bytes_eq ▸ hfits)
      rw [hother, ← hline.bytes_eq]
      exact ih hline.cursor h

theorem tracks_readBlock {Lost : Cursor → Prop} (hR : Cursor.Tracks Lost R) (hab : R a b)
    {limit : Nat} {headers : List Header} {after : Cursor}
    (h : readBlock limit a = .ok headers after) (hlost : ¬Lost after) :
    ∃ other, readBlock limit b = .ok headers other ∧ R after other := by
  simp only [readBlock] at h ⊢
  cases hlines : readLines limit [] 0 a with
  | error error failed => simp [hlines] at h
  | ok lines last =>
      rw [hlines] at h
      cases h
      obtain ⟨other, hother, hafter⟩ := tracks_readLines hR hab limit [] 0 hlines hlost
      exact ⟨other, by rw [hother], hafter⟩

end Multipart.Header
