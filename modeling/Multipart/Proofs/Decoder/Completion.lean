import Multipart.Proofs.Decoder.Filing
import Multipart.Proofs.Decoder.Run

/-! # Streams that are read to the end

If extractions in a row come to the end of a stream, no query fails on the way, whatever is asked
and in which order. -/

namespace Multipart.Decoder

open Multipart.Part

/-- A decoder is on the way from a fresh one to `done`, and the parts on the whole way are given. -/
def Midway (fresh done : Decoder) (parts : List Part) (decoder : Decoder) : Prop :=
  ∃ k before m later, fresh.extractions k = some (before, decoder) ∧
    decoder.extractions m = some (later, done) ∧ parts = before ++ later

variable {fresh done decoder : Decoder} {parts : List Part} {start? : Option String}

theorem midway_of_extractions {n : Nat} (h : fresh.extractions n = some (parts, done)) :
    Midway fresh done parts fresh :=
  ⟨0, [], n, parts, rfl, h, rfl⟩

theorem nextPart?_of_isDone (h : decoder.isDone) : decoder.nextPart? = none := by
  have hclosed : decoder.phase.isOpen = false := by
    cases hphase : decoder.phase <;> simp_all [isDone, Phase.isDone, Phase.isOpen]
  simp [nextPart?, hclosed]

/-- A decoder without further parts is at the end of the way. -/
theorem Midway.eq_of_isDone (h : Midway fresh done parts decoder) (hdone : decoder.isDone) :
    decoder = done ∧ ∃ n, fresh.extractions n = some (parts, done) := by
  obtain ⟨k, before, m, later, hbefore, hlater, rfl⟩ := h
  cases m with
  | zero =>
      obtain ⟨rfl, rfl⟩ := extractions_zero.mp hlater
      rw [List.append_nil]
      exact ⟨rfl, k, hbefore⟩
  | succ m =>
      obtain ⟨first, next, _, hfirst, -⟩ := extractions_succ_front.mp hlater
      rw [nextPart?_of_isDone hdone] at hfirst
      cases hfirst

/-- Reading on for a condition does not fail, and does not leave the way. -/
theorem Midway.advanceUntil (h : Midway fresh done parts decoder) (hdone : done.isDone)
    (condition : Decoder → Bool) :
    ∃ after, decoder.advanceUntil condition = .ok () after ∧ stopsAt condition after ∧
      Midway fresh done parts after := by
  obtain ⟨k, before, m, later, hbefore, hlater, hparts⟩ := h
  induction m generalizing decoder k before later with
  | zero =>
      obtain ⟨rfl, rfl⟩ := extractions_zero.mp hlater
      have hstop : stopsAt condition done := by simp [stopsAt, hdone]
      exact ⟨done, advanceUntil_of_stopsAt hstop, hstop, k, before, 0, [], hbefore, rfl, hparts⟩
  | succ m ih =>
      by_cases hcondition : condition decoder
      · have hstop : stopsAt condition decoder := by simp [stopsAt, hcondition]
        exact ⟨decoder, advanceUntil_of_stopsAt hstop, hstop, k, before, m + 1, later, hbefore,
          hlater, hparts⟩
      · obtain ⟨first, next, rest, hfirst, hrest, rfl⟩ := extractions_succ_front.mp hlater
        rw [advanceUntil_of_nextPart? (Bool.eq_false_iff.mpr hcondition) hfirst]
        have hnext := extractions_succ.mpr ⟨before, first, decoder, hbefore, hfirst, rfl⟩
        exact ih (k + 1) (before ++ [first]) rest hnext hrest (by simpa using hparts)

/-- All queries on the way are answered. -/
theorem Midway.after (h : Midway fresh done parts decoder) (hdone : done.isDone)
    (queries : List Query) :
    (∀ answer ∈ decoder.answers queries, answer.isOk) ∧
      Midway fresh done parts (decoder.after queries) := by
  induction queries generalizing decoder with
  | nil => exact ⟨by simp [answers], h⟩
  | cons query queries ih =>
      obtain ⟨next, hreached, -, hnext⟩ := h.advanceUntil hdone query.isSettled
      have hask := ask_ok_iff.mpr ⟨hreached, rfl⟩
      rw [answers, List.forall_mem_cons, Decoder.after, hask, Result.answer_ok, Result.state_ok]
      obtain ⟨hok, hafter⟩ := ih hnext
      exact ⟨⟨rfl, hok⟩, hafter⟩

/-- Asking for all attachments reads to the end. -/
theorem Midway.attachmentParts (h : Midway fresh done parts decoder) (hdone : done.isDone) :
    decoder.attachmentParts = .ok done.attachments done := by
  obtain ⟨after, hreached, hstop, hafter⟩ := h.advanceUntil hdone fun _ => false
  have hend : after.isDone := by simpa [stopsAt] using hstop
  obtain ⟨rfl, -⟩ := hafter.eq_of_isDone hend
  simp only [Decoder.attachmentParts, hreached]

/-- The root is found as soon as it is read, and is the root of the whole stream. -/
theorem Midway.rootPart (h : Midway fresh done parts decoder) (hdone : done.isDone)
    (hfresh : Filed start? [] fresh) :
    ∃ after, decoder.rootPart = .ok (rootAmong start? parts) after := by
  obtain ⟨after, hreached, hstop, hafter⟩ := h.advanceUntil hdone (·.root.isSome)
  suffices hroot : after.root = rootAmong start? parts by
    refine ⟨after, ?_⟩
    simp only [Decoder.rootPart, hreached, hroot]
  by_cases hend : after.isDone
  · obtain ⟨rfl, n, hn⟩ := hafter.eq_of_isDone hend
    exact (hfresh.extractions hn).root_eq
  · have hsome : after.root.isSome := by simpa [stopsAt, hend] using hstop
    obtain ⟨k, before, m, later, hbefore, hlater, rfl⟩ := hafter
    have hroot := (hfresh.extractions hbefore).root_eq
    rw [hroot] at hsome ⊢
    exact (rootAmong_append hsome later).symm

end Multipart.Decoder
