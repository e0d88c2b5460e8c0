/-!
# Input streams

A source is what a stream has still to deliver, in order: bytes, and between them the faults that
reads meet there, each for a number of reads. A read hands out bytes up to the next fault. The main
statements say that a read hands out the bytes at the front and nothing else.
-/

namespace Multipart

inductive Trouble
  | timedOut
  | wouldBlock
  | other
  deriving DecidableEq, Repr

inductive StreamError
  /-- The device failed, and says this about it. -/
  | device (trouble : Trouble) (text : String)
  /-- A rewind needs a mark. -/
  | unmarked
  /-- A destination of fixed size is full. -/
  | outOfRoom
  deriving DecidableEq, Repr

namespace StreamError

def message : StreamError → String
  | device _ text => text
  | unmarked => "reset called without a mark"
  | outOfRoom => "failed to write whole buffer"

end StreamError

/-- What keeps a read from delivering. -/
inductive Fault
  /-- The read is interrupted and has to be made again. -/
  | interruption
  /-- The stream reports its end, whatever follows. -/
  | pause
  /-- The read fails. -/
  | failure (error : StreamError)
  deriving DecidableEq, Repr

inductive Arrival
  /-- A byte is delivered. -/
  | byte (value : UInt8)
  /-- A fault meets a read, and then so many more. -/
  | fault (fault : Fault) (more : Nat)
  deriving DecidableEq, Repr

namespace Arrival

def isInterruption : Arrival → Bool
  | fault .interruption _ => true
  | _ => false

def isByte : Arrival → Bool
  | byte _ => true
  | _ => false

/-- A fault for so many reads, before what follows. -/
def repeated (kind : Fault) : Nat → List Arrival → List Arrival
  | 0, rest => rest
  | more + 1, rest => fault kind more :: rest

/-- Up to `count` bytes from the front, put before `taken` in reverse, and what follows them. -/
def takeBytes : Nat → List UInt8 → List Arrival → List UInt8 × List Arrival
  | count + 1, taken, byte value :: rest => takeBytes count (value :: taken) rest
  | _, taken, rest => (taken.reverse, rest)

end Arrival

structure Source where
  /-- What the stream has still to deliver. -/
  arrivals : List Arrival
  /-- The number of bytes handed out. -/
  pulled : Nat := 0
  /-- The most bytes that a read from this offset hands out. -/
  portion : Nat → Option Nat := fun _ => none

namespace Source

def remaining (source : Source) : Nat :=
  source.arrivals.countP Arrival.isByte

def ofBytes (bytes : List UInt8) : Source :=
  { arrivals := bytes.map .byte }

/-- The most bytes that the next read of up to `size` bytes hands out. -/
def allowance (source : Source) (size : Nat) : Nat :=
  match source.portion source.pulled with
  | some most => min most size
  | none => size

/-- Up to `size` bytes. An interrupted read is made again; no bytes stand for the end. -/
def read (size : Nat) (source : Source) : EStateM.Result StreamError Source (List UInt8) :=
  match source.arrivals.dropWhile Arrival.isInterruption with
  | .fault (.failure error) more :: rest =>
      .error error { source with arrivals := Arrival.repeated (.failure error) more rest }
  | .fault .pause more :: rest =>
      .ok [] { source with arrivals := Arrival.repeated .pause more rest }
  | arrivals =>
      let (bytes, rest) := Arrival.takeBytes (source.allowance size) [] arrivals
      .ok bytes { source with arrivals := rest, pulled := source.pulled + bytes.length }

/-! ## Planned faults -/

/-- A fault that meets a number of reads before the byte at an offset is delivered. -/
structure Setback where
  offset : Nat
  fault : Fault
  times : Nat := 1
  deriving DecidableEq, Repr

/-- What happens before the byte at an offset, in the order of the plan, and before what follows. -/
def holdUp (plan : List Setback) (offset : Nat) (rest : List Arrival) : List Arrival :=
  plan.foldr (fun setback rest =>
    if setback.offset = offset then Arrival.repeated setback.fault setback.times rest
    else rest) rest

/-- Some bytes with the planned faults between them. -/
def weave (plan : List Setback) (bytes : List UInt8) : List Arrival :=
  bytes.zipIdx.foldr (fun entry rest => holdUp plan entry.2 (.byte entry.1 :: rest))
    (holdUp plan bytes.length [])

example : weave [⟨1, .pause, 2⟩, ⟨1, .interruption, 0⟩] [97, 98] =
    [.byte 97, .fault .pause 1, .byte 98] := rfl

/-- A source of some bytes with planned faults, handing out at most `most` bytes a read. -/
def ofPlan (bytes : List UInt8) (plan : List Setback) (most : Option Nat) : Source :=
  { arrivals := weave plan bytes, portion := fun _ => most }

end Source

/-! ## What a read takes -/

namespace Arrival

theorem takeBytes_spec (count : Nat) (taken : List UInt8) (arrivals : List Arrival) :
    ∃ bytes, (takeBytes count taken arrivals).1 = taken.reverse ++ bytes ∧
      arrivals = bytes.map byte ++ (takeBytes count taken arrivals).2 ∧ bytes.length ≤ count := by
  fun_induction takeBytes count taken arrivals with
  | case1 taken count value rest ih =>
      obtain ⟨bytes, htaken, hrest, hlength⟩ := ih
      exact ⟨value :: bytes, by simp [htaken], by simpa using hrest, by simpa using hlength⟩
  | case2 count taken arrivals => exact ⟨[], by simp⟩

/-- The bytes taken and what is left are what there was. -/
theorem takeBytes_append (count : Nat) (arrivals : List Arrival) :
    (takeBytes count [] arrivals).1.map byte ++ (takeBytes count [] arrivals).2 = arrivals := by
  obtain ⟨bytes, htaken, hrest, -⟩ := takeBytes_spec count [] arrivals
  rw [htaken]
  simpa using hrest.symm

theorem length_takeBytes_le (count : Nat) (arrivals : List Arrival) :
    (takeBytes count [] arrivals).1.length ≤ count := by
  obtain ⟨bytes, htaken, -, hlength⟩ := takeBytes_spec count [] arrivals
  simpa [htaken] using hlength

@[simp] theorem isByte_byte (value : UInt8) : (byte value).isByte = true := rfl

/-- Every byte counts as delivered. -/
@[simp] theorem countP_map_byte (bytes : List UInt8) :
    (bytes.map byte).countP isByte = bytes.length := by
  rw [List.countP_eq_length.2 (by simp), List.length_map]

@[simp] theorem isByte_fault (kind : Fault) (more : Nat) : (fault kind more).isByte = false := rfl

/-- A fault delivers no byte. -/
@[simp] theorem countP_repeated (kind : Fault) (times : Nat) (rest : List Arrival) :
    (repeated kind times rest).countP isByte = rest.countP isByte := by
  cases times <;> simp [repeated]

/-- An interruption delivers no byte. -/
theorem isByte_eq_false_of_isInterruption {arrival : Arrival} (h : arrival.isInterruption) :
    arrival.isByte = false := by
  cases arrival with
  | byte value => contradiction
  | fault kind more => rfl

theorem countP_dropWhile_isInterruption (arrivals : List Arrival) :
    (arrivals.dropWhile isInterruption).countP isByte = arrivals.countP isByte := by
  induction arrivals with
  | nil => rfl
  | cons first rest ih =>
      rw [List.dropWhile_cons]
      split
      · rename_i hfirst
        rw [ih, List.countP_cons_of_neg (by simp [isByte_eq_false_of_isInterruption hfirst])]
      · rfl

end Arrival

namespace Source

/-- A read takes what it hands out from what the source has still to deliver. -/
theorem remaining_read_ok {size : Nat} {source rest : Source} {bytes : List UInt8}
    (h : source.read size = .ok bytes rest) :
    bytes.length + rest.remaining = source.remaining := by
  have hdrop := Arrival.countP_dropWhile_isInterruption source.arrivals
  simp only [read] at h
  split at h
  · contradiction
  · rename_i heq
    simp only [EStateM.Result.ok.injEq] at h
    obtain ⟨rfl, rfl⟩ := h
    simpa [heq, remaining] using hdrop
  · simp only [EStateM.Result.ok.injEq] at h
    obtain ⟨rfl, rfl⟩ := h
    have hsplit := congrArg (List.countP Arrival.isByte)
      (Arrival.takeBytes_append (source.allowance size)
        (source.arrivals.dropWhile Arrival.isInterruption))
    simpa [remaining, List.countP_append, hdrop, -List.countP_map] using hsplit

/-- A read that fails hands out nothing. -/
theorem remaining_read_error {size : Nat} {source rest : Source} {error : StreamError}
    (h : source.read size = .error error rest) : rest.remaining = source.remaining := by
  have hdrop := Arrival.countP_dropWhile_isInterruption source.arrivals
  simp only [read] at h
  split at h
  · rename_i heq
    simp only [EStateM.Result.error.injEq] at h
    obtain ⟨rfl, rfl⟩ := h
    simpa [heq, remaining] using hdrop
  · contradiction
  · contradiction

end Source

end Multipart
