import Multipart.Proofs.Cursor.Memory
import Multipart.Proofs.Cursor.Plain

/-! # Cursors in machine words

A machine keeps a cursor as one buffer with the places of the cursor and of the mark in it, and the
offset in the stream at which the buffer starts. This module does the operations of a cursor on such
registers. Sums and differences of words, slices of buffers and allocations are all checked, and a
check that fails ends the run. -/

namespace Multipart

/-- The largest number of bytes that a buffer may have room for. -/
def maxAllocation : Nat := (1 <<< 63) - 1

/-- What machine words and memory do not allow. -/
inductive Breakdown where
  /-- A sum does not fit a word. -/
  | overflow
  /-- A difference is negative. -/
  | underflow
  /-- A slice reaches beyond a buffer. -/
  | outOfRange
  /-- A buffer of this size cannot be had. -/
  | outOfMemory
  deriving DecidableEq, Repr

/-! ## Checks -/

namespace Breakdown

def check {α : Type} (holds : Prop) [Decidable holds] (breakdown : Breakdown) (value : α) :
    Except Breakdown α :=
  if holds then .ok value else .error breakdown

def add (a b : Nat) : Except Breakdown Nat :=
  check (a + b ≤ maxWord) .overflow (a + b)

def sub (a b : Nat) : Except Breakdown Nat :=
  check (b ≤ a) .underflow (a - b)

/-- A slice may start or stop at a place in a buffer of some size. -/
def within (place size : Nat) : Except Breakdown Unit :=
  check (place ≤ size) .outOfRange ()

def sliceFrom (bytes : List UInt8) (start : Nat) : Except Breakdown (List UInt8) :=
  check (start ≤ bytes.length) .outOfRange (bytes.drop start)

def sliceTo (bytes : List UInt8) (stop : Nat) : Except Breakdown (List UInt8) :=
  check (stop ≤ bytes.length) .outOfRange (bytes.take stop)

def enlarge (bytes : List UInt8) (size : Nat) : Except Breakdown (List UInt8) :=
  check (size ≤ maxAllocation) .outOfMemory
    (bytes ++ List.replicate (size - bytes.length) 0)

/-- What holds of the value of a computation, and what of its breakdown if it has none. -/
def Ends {α : Type} (P : α → Prop) (E : Breakdown → Prop) : Except Breakdown α → Prop
  | .ok value => P value
  | .error breakdown => E breakdown

variable {α β : Type} {P : α → Prop} {Q : β → Prop} {E : Breakdown → Prop}

@[simp] theorem ends_pure (value : α) : Ends P E (pure value) ↔ P value := Iff.rfl

@[simp] theorem ends_bind (computation : Except Breakdown α) (next : α → Except Breakdown β) :
    Ends Q E (computation >>= next) ↔ Ends (fun value => Ends Q E (next value)) E computation := by
  cases computation <;> rfl

@[simp] theorem ends_check (holds : Prop) {_ : Decidable holds} (breakdown : Breakdown)
    (value : α) :
    Ends P E (check holds breakdown value) ↔ (holds → P value) ∧ (¬holds → E breakdown) := by
  rw [check]
  split <;> simp [Ends, *]

theorem Ends.of_eq_ok {computation : Except Breakdown α} {value : α} (h : Ends P E computation)
    (heq : computation = .ok value) : P value := by
  rwa [heq] at h

theorem Ends.weaken {E' : Breakdown → Prop} {computation : Except Breakdown α}
    (h : Ends P E computation) (himp : ∀ breakdown, E breakdown → E' breakdown) :
    Ends P E' computation := by
  cases computation with
  | ok value => exact h
  | error breakdown => exact himp breakdown h

theorem Ends.imp {P' : α → Prop} {computation : Except Breakdown α} (h : Ends P E computation)
    (himp : ∀ value, P value → P' value) : Ends P' E computation := by
  cases computation with
  | ok value => exact himp value h
  | error breakdown => exact h

end Breakdown

open Breakdown (add sub within sliceFrom sliceTo enlarge Ends ends_pure ends_bind ends_check)

/-! ## Registers -/

/-- A cursor as a machine keeps it. -/
structure Registers where
  source : Source
  /-- The number of bytes asked for when the buffer is filled. -/
  chunk : Nat
  buffer : List UInt8 := []
  /-- The place of the cursor in the buffer. -/
  place : Nat := 0
  /-- The place of the mark in the buffer. -/
  mark? : Option Nat := none
  /-- The offset of the buffer in the stream. -/
  base : Nat := 0

namespace Registers

open Cursor (Operation Response)

abbrev Answer (α : Type) : Type := EStateM.Result StreamError Registers α

def ofSource (source : Source) (chunk : Nat) : Except Breakdown Registers := do
  let _ ← enlarge [] (max chunk 1)
  return { source, chunk := max chunk 1 }

def position (registers : Registers) : Except Breakdown Nat :=
  add registers.base registers.place

def mark (registers : Registers) : Registers :=
  { registers with mark? := some registers.place }

def clearMark (registers : Registers) : Registers :=
  { registers with mark? := none }

def rewind (registers : Registers) : Answer Unit :=
  match registers.mark? with
  | some place => .ok () { registers with place }
  | none => .error .unmarked registers

/-- Forgets so many bytes at the front of the buffer, up to the mark. -/
def drain (registers : Registers) (count : Nat) : Except Breakdown Registers := do
  let buffer ← sliceFrom registers.buffer count
  let base ← add registers.base count
  let place ← sub registers.place count
  return { registers with buffer, base, place, mark? := registers.mark?.map fun _ => 0 }

/-- Asks the source for a chunk at the end of the buffer. -/
def load (registers : Registers) : Except Breakdown (Answer Unit) := do
  let start := registers.buffer.length
  let room ← enlarge registers.buffer (← add start registers.chunk)
  let free ← sliceFrom room start
  match registers.source.read free.length with
  | .error error source => return .error error { registers with source, buffer := room.take start }
  | .ok bytes source =>
      let stop ← add start bytes.length
      let written := room.take start ++ bytes ++ free.drop bytes.length
      return .ok () { registers with source, buffer := written.take stop }

/-- Forgets what lies before the mark, or before the cursor if there is none, and asks for a
chunk. -/
def refill (registers : Registers) : Except Breakdown (Answer Unit) := do
  let kept := registers.mark?.getD registers.place
  if 0 < kept then (← registers.drain kept).load else registers.load

/-- Asks for a chunk if there are no bytes ahead. -/
def ensure (registers : Registers) : Except Breakdown (Answer Unit) :=
  if registers.buffer.length ≤ registers.place then registers.refill
  else return .ok () registers

/-- The bytes ahead in the buffer, which is filled if there are none. -/
def fill (registers : Registers) : Except Breakdown (Answer (List UInt8)) := do
  match ← registers.ensure with
  | .error error failed => return .error error failed
  | .ok () filled => return .ok (← sliceFrom filled.buffer filled.place) filled

def consume (registers : Registers) (count : Nat) : Except Breakdown Registers := do
  let place ← add registers.place count
  return { registers with place := min place registers.buffer.length }

/-! ## What is left to read -/

variable {registers after filled : Registers} {available : List UInt8} {count : Nat}

def outstanding (registers : Registers) : Nat :=
  (registers.buffer.length - registers.place) + registers.source.remaining

/-- What a source delivers comes after the bytes of the buffer. -/
theorem ends_load {P : Answer Unit → Prop} {E : Breakdown → Prop}
    (hoverflow : maxWord < registers.buffer.length + registers.chunk → E .overflow)
    (hmemory : maxAllocation < registers.buffer.length + registers.chunk → E .outOfMemory)
    (herror : ∀ error source, registers.source.read registers.chunk = .error error source →
      P (.error error { registers with source }))
    (hok : registers.buffer.length + registers.chunk ≤ maxAllocation → ∀ bytes source,
      registers.source.read registers.chunk = .ok bytes source →
      P (.ok () { registers with source, buffer := registers.buffer ++ bytes })) :
    Ends P E registers.load := by
  simp only [load, add, enlarge, sliceFrom, ends_bind, ends_check, Nat.add_sub_cancel_left,
    List.drop_left, List.take_left, List.length_append, List.length_replicate, Nat.le_add_right,
    true_imp_iff, not_true, false_imp_iff, and_true]
  refine ⟨fun hword => ⟨fun hroom => ?_, fun hroom => hmemory (by omega)⟩,
    fun hword => hoverflow (by omega)⟩
  cases hread : registers.source.read registers.chunk with
  | error error source => exact herror error source hread
  | ok bytes source =>
      have hlength := Source.length_read_le hread
      have htake : (registers.buffer ++ bytes ++
          (List.replicate registers.chunk 0).drop bytes.length).take
            (registers.buffer.length + bytes.length) = registers.buffer ++ bytes := by
        rw [← List.length_append, List.take_left]
      simp only [ends_bind, ends_check, ends_pure, htake]
      exact ⟨fun _ => hok hroom bytes source hread, fun hstop => absurd hstop (by omega)⟩

theorem outstanding_load (hplace : registers.buffer.length ≤ registers.place) :
    Ends (fun result => ∀ after, result = .ok () after →
      after.outstanding ≤ registers.outstanding) (fun _ => True) registers.load := by
  refine ends_load (fun _ => trivial) (fun _ => trivial) (by simp) ?_
  intro _ bytes source hread after hafter
  have hremaining := Source.remaining_read_ok hread
  cases hafter
  simp only [outstanding, List.length_append]
  omega

theorem outstanding_refill (hplace : registers.buffer.length ≤ registers.place) :
    Ends (fun result => ∀ after, result = .ok () after →
      after.outstanding ≤ registers.outstanding) (fun _ => True) registers.refill := by
  simp only [refill]
  split
  · simp only [drain, add, sub, sliceFrom, ends_bind, ends_check, ends_pure, imp_true_iff,
      and_true]
    intro hlength hbase hcount
    refine (outstanding_load ?_).imp fun result hresult after hafter => ?_
    · simp only [List.length_drop]
      omega
    · have hle := hresult after hafter
      simp only [outstanding, List.length_drop] at hle ⊢
      omega
  · exact outstanding_load hplace

theorem outstanding_ensure (registers : Registers) :
    Ends (fun result => ∀ after, result = .ok () after →
      after.outstanding ≤ registers.outstanding) (fun _ => True) registers.ensure := by
  rw [ensure]
  split
  · exact outstanding_refill ‹_›
  · simp

theorem outstanding_fill (h : registers.fill = .ok (.ok available filled)) :
    available = filled.buffer.drop filled.place ∧
      filled.outstanding ≤ registers.outstanding := by
  have hfill : Ends (fun result => ∀ available filled, result = .ok available filled →
      available = filled.buffer.drop filled.place ∧
        filled.outstanding ≤ registers.outstanding) (fun _ => True) registers.fill := by
    rw [fill, ends_bind]
    refine (outstanding_ensure registers).imp fun result hresult => ?_
    cases result with
    | error error failed => simp
    | ok _ filled =>
        simp only [sliceFrom, ends_bind, ends_check, ends_pure, imp_true_iff, and_true]
        rintro - available after hafter
        cases hafter
        exact ⟨rfl, hresult filled rfl⟩
  exact hfill.of_eq_ok h available filled rfl

theorem consume_eq_ok (h : registers.consume count = .ok after) :
    after = { registers with
      place := min (registers.place + count) registers.buffer.length } := by
  have hconsume : Ends (fun after => after = { registers with
      place := min (registers.place + count) registers.buffer.length }) (fun _ => True)
      (registers.consume count) := by
    simp only [consume, add, ends_bind, ends_check, ends_pure, imp_true_iff, and_true]
  exact hconsume.of_eq_ok h

/-- Consuming all the bytes ahead, if there are any, leaves fewer. -/
theorem outstanding_consume (hfill : registers.fill = .ok (.ok available filled))
    (hconsume : filled.consume available.length = .ok after) (havailable : available.length ≠ 0) :
    after.outstanding < registers.outstanding := by
  obtain ⟨hslice, hle⟩ := outstanding_fill hfill
  have hlength := congrArg List.length hslice
  rw [List.length_drop] at hlength
  rw [consume_eq_ok hconsume]
  simp only [outstanding] at hle ⊢
  omega

/-! ## Reading -/

def next (registers : Registers) : Except Breakdown (Answer (Option UInt8)) := do
  match ← registers.fill with
  | .error error failed => return .error error failed
  | .ok available filled =>
      match available with
      | [] => return .ok none filled
      | value :: _ => return .ok (some value) (← filled.consume 1)

def read (registers : Registers) (size : Nat) : Except Breakdown (Answer (List UInt8)) := do
  match ← registers.fill with
  | .error error failed => return .error error failed
  | .ok available filled =>
      let count := min available.length size
      within count size
      let bytes ← sliceTo available count
      return .ok bytes (← filled.consume count)

structure Gathered where
  bytes : List UInt8
  failure : Option StreamError
  registers : Registers

/-- Moves on over up to `left` bytes, after those that are passed. How many are left at the end
comes first. -/
def skipFrom (left : Nat) (passed : List UInt8) (registers : Registers) :
    Except Breakdown (Nat × Gathered) :=
  if _hleft : left = 0 then return (left, ⟨passed, none, registers⟩)
  else do
    match ← registers.fill with
    | .error error failed => return (left, ⟨passed, some error, failed⟩)
    | .ok available filled =>
        if _havailable : available.length = 0 then return (left, ⟨passed, none, filled⟩)
        else
          let step := min available.length left
          let after ← filled.consume step
          match _hsub : sub left step with
          | .error breakdown => throw breakdown
          | .ok rest => skipFrom rest (passed ++ available.take step) after
termination_by left
decreasing_by
  have hrest : Ends (· = left - step) (fun _ => True) (sub left step) := by simp [sub]
  have heq := hrest.of_eq_ok _hsub
  omega

def skip (registers : Registers) (count : Nat) : Except Breakdown (Response × Registers) := do
  let (left, gathered) ← skipFrom count [] registers
  match gathered.failure with
  | some error => return (.failure error gathered.bytes, gathered.registers)
  | none => return (.count (← sub count left), gathered.registers)

/-- Reads into a place of some size, after what is read before, until it is full or the stream
ends. -/
def takeFrom (size : Nat) (taken : List UInt8) (registers : Registers) :
    Except Breakdown Gathered :=
  if _hsize : size ≤ taken.length then return ⟨taken, none, registers⟩
  else do
    within taken.length size
    match ← registers.read (size - taken.length) with
    | .error error failed => return ⟨taken, some error, failed⟩
    | .ok bytes after =>
        if _hbytes : bytes.length = 0 then return ⟨taken, none, after⟩
        else
          let _ ← add taken.length bytes.length
          takeFrom size (taken ++ bytes) after
termination_by size - taken.length
decreasing_by
  rw [List.length_append]
  omega

/-- How many of some bytes there are up to and including the first one equal to `stop`, or
altogether if there is none. -/
def reach (stop : UInt8) (bytes : List UInt8) : Nat :=
  if stop ∈ bytes then bytes.idxOf stop + 1 else bytes.length

theorem reach_le (stop : UInt8) (bytes : List UInt8) : reach stop bytes ≤ bytes.length := by
  rw [reach]
  split
  · exact List.idxOf_lt_length_of_mem ‹_›
  · exact Nat.le_refl _

/-- Reads on up to and including the first byte equal to `stop`, after what is read before. -/
def takeThroughFrom (stop : UInt8) (taken : List UInt8) (registers : Registers) :
    Except Breakdown Gathered :=
  match _hfill : registers.fill with
  | .error breakdown => throw breakdown
  | .ok (.error error failed) => return ⟨taken, some error, failed⟩
  | .ok (.ok available filled) =>
      match _hconsume : filled.consume (reach stop available) with
      | .error breakdown => throw breakdown
      | .ok after =>
          let taken := taken ++ available.take (reach stop available)
          if _hstop : stop ∈ available ∨ reach stop available = 0 then return ⟨taken, none, after⟩
          else takeThroughFrom stop taken after
termination_by registers.outstanding
decreasing_by
  rw [not_or] at _hstop
  have hreach : reach stop available = available.length := if_neg _hstop.1
  rw [hreach] at _hconsume _hstop
  exact outstanding_consume _hfill _hconsume _hstop.2

/-- Skipping, without the bounds that make it end. -/
theorem skipFrom_eq (left : Nat) (passed : List UInt8) (registers : Registers) :
    skipFrom left passed registers =
      if left = 0 then return (left, ⟨passed, none, registers⟩)
      else (do
        match ← registers.fill with
        | .error error failed => return (left, ⟨passed, some error, failed⟩)
        | .ok available filled =>
            if available.length = 0 then return (left, ⟨passed, none, filled⟩)
            else
              let after ← filled.consume (min available.length left)
              let rest ← sub left (min available.length left)
              skipFrom rest (passed ++ available.take (min available.length left)) after) := by
  rw [skipFrom]
  by_cases hleft : left = 0
  · rw [dif_pos hleft, if_pos hleft]
  · rw [dif_neg hleft, if_neg hleft]
    refine bind_congr fun result => ?_
    cases result with
    | error error failed => rfl
    | ok available filled =>
        by_cases havailable : available.length = 0
        · simp only [havailable, dif_pos, if_true]
        · simp only [havailable, dite_false, if_false]
          refine bind_congr fun after => ?_
          split <;> simp only [*] <;> rfl

theorem takeThroughFrom_eq (stop : UInt8) (taken : List UInt8) (registers : Registers) :
    takeThroughFrom stop taken registers = (do
      match ← registers.fill with
      | .error error failed => return ⟨taken, some error, failed⟩
      | .ok available filled =>
          let after ← filled.consume (reach stop available)
          if stop ∈ available ∨ reach stop available = 0 then
            return ⟨taken ++ available.take (reach stop available), none, after⟩
          else takeThroughFrom stop (taken ++ available.take (reach stop available)) after) := by
  rw [takeThroughFrom]
  split
  · simp only [*]
    rfl
  · simp only [*]
    rfl
  · rename_i available filled hfill
    rw [hfill]
    dsimp only
    split
    · rename_i hconsume
      simp only [bind, Except.bind, hconsume]
      rfl
    · rename_i hconsume
      simp only [bind, Except.bind, hconsume]
      split <;> rfl

/-! ## Runs -/

def Gathered.response (gathered : Gathered) : Response × Registers :=
  (.ofRead .bytes gathered.bytes gathered.failure, gathered.registers)

def respond {α : Type} (whole : α → Response) : Answer α → Response × Registers
  | .ok value after => (whole value, after)
  | .error error after => (.failure error [], after)

def perform : Operation → Registers → Except Breakdown (Response × Registers)
  | .mark, registers => return (.done, registers.mark)
  | .clearMark, registers => return (.done, registers.clearMark)
  | .rewind, registers => return respond (fun _ => .done) registers.rewind
  | .skip count, registers => registers.skip count
  | .next, registers => return respond .byte (← registers.next)
  | .read size, registers => return respond .bytes (← registers.read size)
  | .take count, registers => return (← takeFrom count [] registers).response
  | .fill, registers => return respond .bytes (← registers.fill)
  | .consume count, registers => return (.done, ← registers.consume count)
  | .takeThrough stop, registers => return (← takeThroughFrom stop [] registers).response

def run : List Operation → Registers → Except Breakdown (List Response × Registers)
  | [], registers => return ([], registers)
  | operation :: operations, registers => do
      let (response, after) ← registers.perform operation
      let (responses, last) ← after.run operations
      return (response :: responses, last)

/-- What comes after a breakdown is not done. -/
theorem run_append_error {breakdown : Breakdown} {before : List Operation}
    (h : registers.run before = .error breakdown) (rest : List Operation) :
    registers.run (before ++ rest) = .error breakdown := by
  induction before generalizing registers with
  | nil => contradiction
  | cons operation before ih =>
      rw [run] at h
      rw [List.cons_append, run]
      cases hperform : registers.perform operation with
      | error _ =>
          rw [hperform] at h
          exact h
      | ok result =>
          rw [hperform] at h
          cases hrun : result.2.run before with
          | error _ =>
              simp only [bind, Except.bind, hrun] at h ⊢
              cases h
              rw [ih hrun]
          | ok results => simp [bind, Except.bind, hrun, pure, Except.pure] at h

end Registers

end Multipart
