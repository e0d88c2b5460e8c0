import Multipart.Proofs.Decoder.Extraction

/-! # Runs of queries

A run puts queries to a decoder one after another. Whatever is asked, a run goes through successive
extractions from where it starts: it ends at one of them, or at the failure of the next. -/

namespace Multipart

inductive Query
  | root
  | attachment (id : String)
  | attachments
  deriving DecidableEq, Repr

inductive Reply
  | part (part : Option Part)
  | table (attachments : Table Part)

namespace Query

def reply : Query → Decoder → Reply
  | root, decoder => .part decoder.root
  | attachment id, decoder => .part (decoder.attachments.get? id)
  | attachments, decoder => .table decoder.attachments

/-- Whether what is filed answers a query for good. -/
def isSettled : Query → Decoder → Bool
  | root, decoder => decoder.root.isSome
  | attachment id, decoder => decoder.attachments.contains id
  | attachments, _ => false

def ask (query : Query) (decoder : Decoder) : Decoder.Answer Reply :=
  match query with
  | root =>
      match decoder.rootPart with
      | .error error decoder => .error error decoder
      | .ok part decoder => .ok (.part part) decoder
  | attachment id =>
      match decoder.attachmentPart id with
      | .error error decoder => .error error decoder
      | .ok part decoder => .ok (.part part) decoder
  | attachments =>
      match decoder.attachmentParts with
      | .error error decoder => .error error decoder
      | .ok table decoder => .ok (.table table) decoder

/-- Every query reads parts until it is settled, and then answers by what is filed. -/
theorem ask_eq (query : Query) (decoder : Decoder) :
    query.ask decoder =
      match decoder.advanceUntil query.isSettled with
      | .error error decoder => .error error decoder
      | .ok () decoder => .ok (query.reply decoder) decoder := by
  cases query with
  | root =>
      have hsettled : root.isSettled = fun decoder => decoder.root.isSome := rfl
      rw [ask, Decoder.rootPart, hsettled]
      cases decoder.advanceUntil fun decoder => decoder.root.isSome <;> rfl
  | attachment id =>
      have hsettled : (attachment id).isSettled = fun decoder => decoder.attachments.contains id :=
        rfl
      rw [ask, Decoder.attachmentPart, hsettled]
      cases decoder.advanceUntil fun decoder => decoder.attachments.contains id <;> rfl
  | attachments =>
      have hsettled : attachments.isSettled = fun _ => false := rfl
      rw [ask, Decoder.attachmentParts, hsettled]
      cases decoder.advanceUntil fun _ => false <;> rfl

end Query

namespace Decoder

/-- The decoder that some queries leave, whether they succeed or not. -/
def after : List Query → Decoder → Decoder
  | [], decoder => decoder
  | query :: queries, decoder => after queries (Result.state (query.ask decoder))

def answers : List Query → Decoder → List (Except Error Reply)
  | [], _ => []
  | query :: queries, decoder =>
      Result.answer (query.ask decoder) :: answers queries (Result.state (query.ask decoder))

/-! ## Reading until a condition holds -/

/-- Whether reading on for a condition ends: it holds, or no part is left. -/
def stopsAt (condition : Decoder → Bool) (decoder : Decoder) : Bool :=
  condition decoder || decoder.isDone

theorem advanceUntil_of_stopsAt {condition : Decoder → Bool} {decoder : Decoder}
    (h : stopsAt condition decoder) : decoder.advanceUntil condition = .ok () decoder := by
  rw [advanceUntil]
  by_cases hcondition : condition decoder
  · rw [if_pos hcondition]
  · simp only [stopsAt, hcondition, Bool.false_or, isDone] at h
    rw [if_neg hcondition]
    split <;> simp_all [Phase.isDone]

theorem advanceUntil_of_failed {condition : Decoder → Bool} {decoder : Decoder}
    (h : condition decoder = false) (hphase : decoder.phase = .failed) :
    decoder.advanceUntil condition = .error .unusable decoder := by
  rw [advanceUntil, if_neg (by simp [h])]
  split <;> simp_all

theorem advanceUntil_of_isOpen {condition : Decoder → Bool} {decoder : Decoder}
    (h : condition decoder = false) (hopen : decoder.phase.isOpen) :
    decoder.advanceUntil condition =
      match decoder.advance with
      | .error error after => .error error after
      | .ok () after => after.advanceUntil condition := by
  rw [advanceUntil, if_neg (by simp [h])]
  split
  · simp_all [Phase.isOpen]
  · simp_all [Phase.isOpen]
  · simp_all [Phase.isOpen]
  · split <;> simp_all
  · split <;> simp_all

theorem stopsAt_eq_false_iff {condition : Decoder → Bool} {decoder : Decoder} :
    stopsAt condition decoder = false ↔
      condition decoder = false ∧ (decoder.phase.isOpen ∨ decoder.phase = .failed) := by
  cases hphase : decoder.phase <;> simp [stopsAt, isDone, Phase.isDone, Phase.isOpen, hphase]

/-- Reading on for a condition ends where it stops or has failed, or reads a part and goes on. -/
@[elab_as_elim]
theorem advanceUntil_induction (condition : Decoder → Bool) {motive : Decoder → Prop}
    (stop : ∀ decoder, stopsAt condition decoder → motive decoder)
    (unusable : ∀ decoder, condition decoder = false → decoder.phase = .failed → motive decoder)
    (failure : ∀ decoder error after, condition decoder = false → decoder.phase.isOpen →
      decoder.advance = .error error after → motive decoder)
    (step : ∀ decoder part after, condition decoder = false → decoder.phase.isOpen →
      decoder.nextPart? = some (part, after) → motive after → motive decoder)
    (decoder : Decoder) : motive decoder := by
  have hstep : ∀ decoder after, condition decoder = false → decoder.phase.isOpen →
      decoder.advance = .ok () after → motive after → motive decoder := by
    intro decoder after hcondition hopen hadvance ih
    obtain ⟨part, hpart⟩ := (advance_eq_ok_iff hopen).mp hadvance
    exact step decoder part after hcondition hopen hpart ih
  induction decoder using advanceUntil.induct condition with
  | case1 decoder hcondition => exact stop decoder (by simp [stopsAt, hcondition])
  | case2 decoder hcondition hphase =>
      exact stop decoder (by simp [stopsAt, isDone, hphase, Phase.isDone])
  | case3 decoder hcondition hphase =>
      exact stop decoder (by simp [stopsAt, isDone, hphase, Phase.isDone])
  | case4 decoder hcondition hphase =>
      exact unusable decoder (Bool.eq_false_iff.mpr hcondition) hphase
  | case5 decoder hcondition hphase error after hadvance =>
      exact failure decoder error after (Bool.eq_false_iff.mpr hcondition)
        (by simp [hphase, Phase.isOpen]) hadvance
  | case6 decoder hcondition hphase after hadvance ih =>
      exact hstep decoder after (Bool.eq_false_iff.mpr hcondition)
        (by simp [hphase, Phase.isOpen]) hadvance ih
  | case7 decoder hcondition hphase error after hadvance =>
      exact failure decoder error after (Bool.eq_false_iff.mpr hcondition)
        (by simp [hphase, Phase.isOpen]) hadvance
  | case8 decoder hcondition hphase after hadvance ih =>
      exact hstep decoder after (Bool.eq_false_iff.mpr hcondition)
        (by simp [hphase, Phase.isOpen]) hadvance ih

theorem advanceUntil_of_nextPart? {condition : Decoder → Bool} {decoder after : Decoder}
    {part : Part} (h : condition decoder = false)
    (hpart : decoder.nextPart? = some (part, after)) :
    decoder.advanceUntil condition = after.advanceUntil condition := by
  have hopen := (nextPart?_eq_some_iff.mp hpart).1
  rw [advanceUntil_of_isOpen h hopen, (advance_eq_ok_iff hopen).mpr ⟨part, hpart⟩]

theorem extractions_of_advanceUntil {condition : Decoder → Bool} {decoder after : Decoder}
    (h : decoder.advanceUntil condition = .ok () after) :
    ∃ n parts, decoder.extractions n = some (parts, after) ∧ stopsAt condition after ∧
      ∀ k < n, ∀ before state, decoder.extractions k = some (before, state) →
        stopsAt condition state = false := by
  induction decoder using advanceUntil_induction condition with
  | stop decoder hstop =>
      rw [advanceUntil_of_stopsAt hstop] at h
      cases h
      exact ⟨0, [], rfl, hstop, by simp⟩
  | unusable decoder hcondition hphase =>
      rw [advanceUntil_of_failed hcondition hphase] at h
      cases h
  | failure decoder error _ hcondition hopen hadvance =>
      rw [advanceUntil_of_isOpen hcondition hopen, hadvance] at h
      cases h
  | step decoder part next hcondition hopen hpart ih =>
      rw [advanceUntil_of_nextPart? hcondition hpart] at h
      obtain ⟨n, parts, hn, hstop, hbefore⟩ := ih h
      refine ⟨n + 1, part :: parts,
        extractions_succ_front.mpr ⟨part, next, parts, hpart, hn, rfl⟩, hstop, ?_⟩
      intro k hk before state hstate
      cases k with
      | zero =>
          obtain ⟨-, rfl⟩ := extractions_zero.mp hstate
          exact stopsAt_eq_false_iff.mpr ⟨hcondition, .inl hopen⟩
      | succ k =>
          obtain ⟨first, reached, later, hfirst, hlater, -⟩ := extractions_succ_front.mp hstate
          rw [hpart] at hfirst
          cases hfirst
          exact hbefore k (Nat.lt_of_succ_lt_succ hk) later state hlater

theorem advanceUntil_of_extractions {condition : Decoder → Bool} {decoder after : Decoder}
    {n : Nat} {parts : List Part} (hn : decoder.extractions n = some (parts, after))
    (hstop : stopsAt condition after)
    (hbefore : ∀ k < n, ∀ before state, decoder.extractions k = some (before, state) →
      stopsAt condition state = false) :
    decoder.advanceUntil condition = .ok () after := by
  induction n generalizing decoder parts with
  | zero =>
      obtain ⟨rfl, rfl⟩ := extractions_zero.mp hn
      exact advanceUntil_of_stopsAt hstop
  | succ n ih =>
      obtain ⟨first, next, later, hfirst, hlater, rfl⟩ := extractions_succ_front.mp hn
      have hcondition := (stopsAt_eq_false_iff.mp (hbefore 0 n.succ_pos [] decoder rfl)).1
      rw [advanceUntil_of_nextPart? hcondition hfirst]
      refine ih hlater fun k hk before state hstate => ?_
      exact hbefore (k + 1) (Nat.succ_lt_succ hk) (first :: before) state
        (extractions_succ_front.mpr ⟨first, next, before, hfirst, hstate, rfl⟩)

/-- Reading on follows the extractions, and ends at the first decoder that it may stop at. -/
theorem advanceUntil_ok_iff {condition : Decoder → Bool} {decoder after : Decoder} :
    decoder.advanceUntil condition = .ok () after ↔
      ∃ n parts, decoder.extractions n = some (parts, after) ∧ stopsAt condition after ∧
        ∀ k < n, ∀ before state, decoder.extractions k = some (before, state) →
          stopsAt condition state = false := by
  constructor
  · exact extractions_of_advanceUntil
  · rintro ⟨n, parts, hn, hstop, hbefore⟩
    exact advanceUntil_of_extractions hn hstop hbefore

/-- Reading on fails at an extraction that fails, or because an earlier one has. -/
theorem advanceUntil_error {condition : Decoder → Bool} {decoder after : Decoder} {error : Error}
    (h : decoder.advanceUntil condition = .error error after) :
    (∃ n parts state, decoder.extractions n = some (parts, state) ∧ state.phase.isOpen ∧
        state.advance = .error error after) ∨
      error = .unusable ∧ after = decoder ∧ decoder.phase = .failed := by
  induction decoder using advanceUntil_induction condition with
  | stop decoder hstop =>
      rw [advanceUntil_of_stopsAt hstop] at h
      cases h
  | unusable decoder hcondition hphase =>
      rw [advanceUntil_of_failed hcondition hphase] at h
      cases h
      exact .inr ⟨rfl, rfl, hphase⟩
  | failure decoder error _ hcondition hopen hadvance =>
      rw [advanceUntil_of_isOpen hcondition hopen, hadvance] at h
      cases h
      exact .inl ⟨0, [], decoder, rfl, hopen, hadvance⟩
  | step decoder part next hcondition hopen hpart ih =>
      rw [advanceUntil_of_nextPart? hcondition hpart] at h
      rcases ih h with ⟨n, parts, state, hstate, rest⟩ | ⟨-, -, hphase⟩
      · exact .inl ⟨n + 1, part :: parts, state,
          extractions_succ_front.mpr ⟨part, next, parts, hpart, hstate, rfl⟩, rest⟩
      · exact absurd hphase (phase_of_nextPart? hpart).1

/-! ## Where a run can be -/

/-- A run is at an extraction, or at the failure of the one after it. -/
inductive Reached (fresh : Decoder) : Decoder → Prop
  | extracted {n : Nat} {parts : List Part} {decoder : Decoder} :
      fresh.extractions n = some (parts, decoder) → Reached fresh decoder
  | failed {n : Nat} {parts : List Part} {decoder after : Decoder} {error : Error} :
      fresh.extractions n = some (parts, decoder) → decoder.phase.isOpen →
      decoder.advance = .error error after → Reached fresh after

/-- A decoder that has failed stays as it is. -/
theorem state_advanceUntil_of_failed (condition : Decoder → Bool) {decoder : Decoder}
    (hphase : decoder.phase = .failed) :
    Result.state (decoder.advanceUntil condition) = decoder := by
  cases hcondition : condition decoder with
  | true => rw [advanceUntil_of_stopsAt (by simp [stopsAt, hcondition]), Result.state_ok]
  | false => rw [advanceUntil_of_failed hcondition hphase, Result.state_error]

theorem phase_of_advance_error {decoder after : Decoder} {error : Error}
    (h : decoder.advance = .error error after) : after.phase = .failed := by
  obtain ⟨_, _, rfl⟩ := advance_error_readsOn h
  rfl

theorem Reached.advanceUntil {fresh decoder : Decoder} (h : Reached fresh decoder)
    (condition : Decoder → Bool) :
    Reached fresh (Result.state (decoder.advanceUntil condition)) := by
  cases h with
  | failed hn hopen hadvance =>
      rw [state_advanceUntil_of_failed condition (phase_of_advance_error hadvance)]
      exact .failed hn hopen hadvance
  | @extracted n parts _ hn =>
      cases hresult : decoder.advanceUntil condition with
      | ok _ after =>
          obtain ⟨m, later, hm, -⟩ := advanceUntil_ok_iff.mp hresult
          exact .extracted (extractions_add.mpr ⟨parts, decoder, later, hn, hm, rfl⟩)
      | error error after =>
          rcases advanceUntil_error hresult with ⟨m, later, state, hm, hrest⟩ | ⟨-, rfl, -⟩
          · exact .failed (extractions_add.mpr ⟨parts, decoder, later, hn, hm, rfl⟩) hrest.1 hrest.2
          · exact .extracted hn

theorem state_ask (query : Query) (decoder : Decoder) :
    Result.state (query.ask decoder) = Result.state (decoder.advanceUntil query.isSettled) := by
  rw [query.ask_eq]
  cases decoder.advanceUntil query.isSettled <;> rfl

theorem ask_ok_iff {query : Query} {decoder after : Decoder} {reply : Reply} :
    query.ask decoder = .ok reply after ↔
      decoder.advanceUntil query.isSettled = .ok () after ∧ reply = query.reply after := by
  rw [query.ask_eq]
  cases decoder.advanceUntil query.isSettled with
  | error error failed => simp
  | ok _ reached =>
      simp only [EStateM.Result.ok.injEq, true_and]
      constructor
      · rintro ⟨rfl, rfl⟩
        exact ⟨rfl, rfl⟩
      · rintro ⟨rfl, rfl⟩
        exact ⟨rfl, rfl⟩

/-- Wherever a run starts to extract, all its queries keep to the extractions in a row. -/
theorem Reached.after {fresh decoder : Decoder} (h : Reached fresh decoder)
    (queries : List Query) : Reached fresh (decoder.after queries) := by
  induction queries generalizing decoder with
  | nil => exact h
  | cons query queries ih =>
      apply ih
      rw [state_ask]
      exact h.advanceUntil query.isSettled

theorem reached_after (decoder : Decoder) (queries : List Query) :
    Reached decoder (decoder.after queries) :=
  Reached.after (.extracted (n := 0) rfl) queries

/-- A decoder that a check accepts exists if making one and checking it succeeds. -/
theorem exists_of_any (source : Source) (text : String) (settings : Settings)
    (check : Decoder → Bool)
    (h : (ofSource source text settings).toOption.any check) :
    ∃ fresh, ofSource source text settings = .ok fresh ∧ check fresh := by
  cases hnew : ofSource source text settings with
  | error error => simp [hnew, Except.toOption] at h
  | ok fresh => exact ⟨fresh, rfl, by simpa [hnew, Except.toOption] using h⟩

end Decoder

end Multipart
