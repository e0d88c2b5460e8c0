/-! # Results of operations with a state

An operation answers a value or an error and leaves a state in either case. Two operations are
related when they answer the same and leave related states. What holds of the states that an
operation leaves may differ between success and failure. -/

namespace Multipart.Result

variable {ε σ α : Type}

/-- The state that an operation leaves, also when it fails. -/
def state : EStateM.Result ε σ α → σ
  | .ok _ state => state
  | .error _ state => state

def answer : EStateM.Result ε σ α → Except ε α
  | .ok value _ => .ok value
  | .error error _ => .error error

@[simp] theorem state_ok (value : α) (state : σ) :
    Result.state (.ok value state : EStateM.Result ε σ α) = state := rfl

@[simp] theorem state_error (error : ε) (state : σ) :
    Result.state (.error error state : EStateM.Result ε σ α) = state := rfl

@[simp] theorem answer_ok (value : α) (state : σ) :
    answer (.ok value state : EStateM.Result ε σ α) = .ok value := rfl

@[simp] theorem answer_error (error : ε) (state : σ) :
    answer (.error error state : EStateM.Result ε σ α) = .error error := rfl

theorem exists_ok_of_isOk {result : EStateM.Result ε σ α} (h : (answer result).isOk) :
    ∃ value state, result = .ok value state := by
  cases result with
  | ok value state => exact ⟨value, state, rfl⟩
  | error error state => cases h

/-- Two operations answer the same and leave related states. -/
inductive Related (R : σ → σ → Prop) : EStateM.Result ε σ α → EStateM.Result ε σ α → Prop
  | ok {value : α} {first second : σ} : R first second →
      Related R (.ok value first) (.ok value second)
  | error {error : ε} {first second : σ} : R first second →
      Related R (.error error first) (.error error second)

variable {R : σ → σ → Prop} {first second : EStateM.Result ε σ α}

theorem Related.answer_eq (h : Related R first second) : answer first = answer second := by
  cases h <;> rfl

theorem Related.state (h : Related R first second) :
    R (Result.state first) (Result.state second) := by
  cases h with
  | ok h => exact h
  | error h => exact h

theorem related_iff :
    Related R first second ↔
      answer first = answer second ∧ R (Result.state first) (Result.state second) := by
  constructor
  · intro h
    exact ⟨h.answer_eq, h.state⟩
  · rintro ⟨hanswer, hstate⟩
    cases first <;> cases second <;> cases hanswer
    · exact .ok hstate
    · exact .error hstate

theorem Related.of_ok {value : α} {state : σ} (h : Related R (.ok value state) second) :
    ∃ other, second = .ok value other ∧ R state other := by
  cases h with
  | ok h => exact ⟨_, rfl, h⟩

theorem Related.of_error {error : ε} {state : σ} (h : Related R (.error error state) second) :
    ∃ other, second = .error error other ∧ R state other := by
  cases h with
  | error h => exact ⟨_, rfl, h⟩

/-- The state that is left when an operation succeeds satisfies `P`, and when it fails `Q`. -/
inductive Leaves (P Q : σ → Prop) : EStateM.Result ε σ α → Prop
  | ok {value : α} {state : σ} : P state → Leaves P Q (.ok value state)
  | error {error : ε} {state : σ} : Q state → Leaves P Q (.error error state)

end Multipart.Result
