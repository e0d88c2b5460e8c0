import Multipart.Cursor
import Multipart.Proofs.Result

/-! # Streams as scripts

The script of a stream is what it does, one byte or fault at a time, however it is read: in which
portions, through which buffer, and with which interruptions. What a cursor has still ahead of it
follows the same script. -/

namespace Multipart

/-- What a stream does when a byte is asked for. -/
inductive Moment
  | byte (value : UInt8)
  | pause
  | failure (error : StreamError)
  deriving DecidableEq, Repr

namespace Moment

def value? : Moment → Option UInt8
  | byte value => some value
  | _ => none

def bytes (script : List Moment) : List UInt8 :=
  script.filterMap value?

@[simp] theorem bytes_nil : bytes [] = [] := rfl

@[simp] theorem bytes_append (first second : List Moment) :
    bytes (first ++ second) = bytes first ++ bytes second :=
  List.filterMap_append

@[simp] theorem bytes_map_byte (values : List UInt8) : bytes (values.map byte) = values := by
  rw [bytes, List.filterMap_map]
  exact List.filterMap_some

@[simp] theorem bytes_pause : bytes [pause] = [] := rfl

@[simp] theorem bytes_byte (value : UInt8) : bytes [byte value] = [value] := rfl

@[simp] theorem bytes_failure (error : StreamError) : bytes [failure error] = [] := rfl

/-- What asking for one byte answers, and the rest of the script. -/
def serve : List Moment → EStateM.Result StreamError (List Moment) (Option UInt8)
  | [] => .ok none []
  | byte value :: rest => .ok (some value) rest
  | pause :: rest => .ok none rest
  | failure error :: rest => .error error rest

end Moment

/-- The moments of an arrival: an interruption is none, and a fault comes as often as it is met. -/
def Arrival.moments : Arrival → List Moment
  | byte value => [.byte value]
  | fault .interruption _ => []
  | fault .pause more => List.replicate (more + 1) .pause
  | fault (.failure error) more => List.replicate (more + 1) (.failure error)

namespace Source

/-- What a stream still does, however it is read. -/
def script (source : Source) : List Moment :=
  source.arrivals.flatMap Arrival.moments

theorem script_ofBytes (bytes : List UInt8) : (ofBytes bytes).script = bytes.map .byte := by
  rw [script, ofBytes, List.flatMap_map]
  exact List.map_eq_flatMap.symm

/-- A read hands out at least one byte if there is one. -/
def Generous (source : Source) : Prop :=
  ∀ offset, source.portion offset ≠ some 0

theorem generous_ofBytes (bytes : List UInt8) : (ofBytes bytes).Generous := by
  intro size hzero
  cases hzero

theorem allowance_eq_zero {source : Source} {size : Nat} (hsize : 0 < size)
    (h : source.allowance size = 0) : source.portion source.pulled = some 0 := by
  simp only [allowance] at h
  split at h
  · rename_i most hmost
    have hzero : most = 0 := by omega
    exact hzero ▸ hmost
  · omega

end Source

namespace Arrival

theorem flatMap_moments_dropWhile (arrivals : List Arrival) :
    (arrivals.dropWhile isInterruption).flatMap moments = arrivals.flatMap moments := by
  induction arrivals with
  | nil => rfl
  | cons first rest ih =>
      rw [List.dropWhile_cons]
      split
      · rename_i hfirst
        have hnone : first.moments = [] := by
          cases first with
          | byte value => simp [isInterruption] at hfirst
          | fault kind more => cases kind <;> simp_all [isInterruption, moments]
        rw [ih, List.flatMap_cons, hnone, List.nil_append]
      · rfl

theorem flatMap_moments_map_byte (bytes : List UInt8) :
    (bytes.map byte).flatMap moments = bytes.map Moment.byte := by
  induction bytes with
  | nil => rfl
  | cons value bytes ih => simp [ih, moments]

/-- Meeting a fault takes one moment off its script. -/
theorem flatMap_moments_pause (more : Nat) (rest : List Arrival) :
    (fault .pause more :: rest).flatMap moments =
      .pause :: (repeated .pause more rest).flatMap moments := by
  cases more with
  | zero => rfl
  | succ more => simp [moments, repeated, List.replicate_succ]

theorem flatMap_moments_failure (error : StreamError) (more : Nat) (rest : List Arrival) :
    (fault (.failure error) more :: rest).flatMap moments =
      .failure error :: (repeated (.failure error) more rest).flatMap moments := by
  cases more with
  | zero => rfl
  | succ more => simp [moments, repeated, List.replicate_succ]

end Arrival

namespace Source

/-! ## Planned faults -/

/-- Whether a setback shows however the stream is read. -/
def Setback.isLasting (setback : Setback) : Bool :=
  setback.fault ≠ .interruption

theorem flatMap_moments_repeated_interruption (times : Nat) (rest : List Arrival) :
    (Arrival.repeated .interruption times rest).flatMap Arrival.moments =
      rest.flatMap Arrival.moments := by
  cases times <;> rfl

theorem flatMap_moments_repeated (fault : Fault) (times : Nat) {first second : List Arrival}
    (h : first.flatMap Arrival.moments = second.flatMap Arrival.moments) :
    (Arrival.repeated fault times first).flatMap Arrival.moments =
      (Arrival.repeated fault times second).flatMap Arrival.moments := by
  cases times with
  | zero => exact h
  | succ more => simp only [Arrival.repeated, List.flatMap_cons, h]

theorem holdUp_cons (setback : Setback) (plan : List Setback) (offset : Nat)
    (rest : List Arrival) :
    holdUp (setback :: plan) offset rest =
      if setback.offset = offset then
        Arrival.repeated setback.fault setback.times (holdUp plan offset rest)
      else holdUp plan offset rest := rfl

theorem flatMap_moments_holdUp (plan : List Setback) (offset : Nat) {first second : List Arrival}
    (h : first.flatMap Arrival.moments = second.flatMap Arrival.moments) :
    (holdUp plan offset first).flatMap Arrival.moments =
      (holdUp (plan.filter Setback.isLasting) offset second).flatMap Arrival.moments := by
  induction plan with
  | nil => exact h
  | cons setback plan ih =>
      rw [holdUp_cons]
      by_cases hlasting : setback.isLasting
      · rw [List.filter_cons_of_pos hlasting, holdUp_cons]
        by_cases hoffset : setback.offset = offset
        · rw [if_pos hoffset, if_pos hoffset]
          exact flatMap_moments_repeated _ _ ih
        · rw [if_neg hoffset, if_neg hoffset]
          exact ih
      · have hfault : setback.fault = .interruption := by
          simpa [Setback.isLasting] using hlasting
        rw [List.filter_cons_of_neg hlasting, hfault]
        by_cases hoffset : setback.offset = offset
        · rw [if_pos hoffset, flatMap_moments_repeated_interruption]
          exact ih
        · rw [if_neg hoffset]
          exact ih

/-- The script of a planned stream shows neither its portions nor its interruptions. -/
theorem script_ofPlan (bytes : List UInt8) (plan : List Setback) (most : Option Nat) :
    (ofPlan bytes plan most).script =
      (ofPlan bytes (plan.filter Setback.isLasting) none).script := by
  simp only [script, ofPlan, weave]
  generalize bytes.zipIdx = entries
  induction entries with
  | nil => exact flatMap_moments_holdUp plan bytes.length rfl
  | cons entry entries ih =>
      simp only [List.foldr_cons]
      apply flatMap_moments_holdUp
      rw [List.flatMap_cons, List.flatMap_cons, ih]

/-- A fault is no byte, however often it is met. -/
theorem bytes_moments_fault (fault : Fault) (more : Nat) :
    Moment.bytes (Arrival.fault fault more).moments = [] := by
  have hnone : ∀ moment : Moment, moment.value? = none →
      Moment.bytes (List.replicate (more + 1) moment) = [] := by
    intro moment hmoment
    rw [Moment.bytes, List.filterMap_replicate, hmoment]
  cases fault with
  | interruption => rfl
  | pause => exact hnone .pause rfl
  | failure error => exact hnone (.failure error) rfl

theorem bytes_holdUp (plan : List Setback) (offset : Nat) (rest : List Arrival) :
    Moment.bytes ((holdUp plan offset rest).flatMap Arrival.moments) =
      Moment.bytes (rest.flatMap Arrival.moments) := by
  induction plan with
  | nil => rfl
  | cons setback plan ih =>
      rw [holdUp_cons, ← ih]
      split
      · cases setback.times with
        | zero => rfl
        | succ more =>
            rw [Arrival.repeated, List.flatMap_cons, Moment.bytes_append, bytes_moments_fault,
              List.nil_append]
      · rfl

/-- The bytes of a planned stream are delivered, whatever faults are between them. -/
theorem bytes_script_ofPlan (bytes : List UInt8) (plan : List Setback) (most : Option Nat) :
    Moment.bytes (ofPlan bytes plan most).script = bytes := by
  have hend : Moment.bytes ((holdUp plan bytes.length []).flatMap Arrival.moments) = [] :=
    bytes_holdUp plan bytes.length []
  have hentries := List.zipIdx_map_fst 0 bytes
  simp only [script, ofPlan, weave]
  generalize holdUp plan bytes.length [] = last at hend
  generalize bytes.zipIdx = entries at hentries
  subst hentries
  induction entries with
  | nil => exact hend
  | cons entry entries ih =>
      rw [List.foldr_cons, bytes_holdUp, List.flatMap_cons, Moment.bytes_append, ih]
      rfl

theorem generous_ofPlan (bytes : List UInt8) (plan : List Setback) {most : Option Nat}
    (h : most ≠ some 0) : (ofPlan bytes plan most).Generous :=
  fun _ => h

end Source

end Multipart
