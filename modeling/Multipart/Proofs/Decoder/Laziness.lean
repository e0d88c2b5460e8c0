import Multipart.Proofs.Decoder.Run

/-! # Queries are lazy and commute

A run without an error is where so many extractions in a row have led as it has read parts. A query
goes on from there to the first decoder that settles it or has no part left, and no further. -/

namespace Multipart.Decoder

/-- A run without an error is at an extraction. -/
theorem extractions_after {fresh : Decoder} (hcount : fresh.count = 0) {queries : List Query}
    (hok : ∀ answer ∈ fresh.answers queries, answer.isOk) :
    ∃ parts, fresh.extractions (fresh.after queries).count = some (parts, fresh.after queries) := by
  suffices h : ∀ decoder n parts, fresh.extractions n = some (parts, decoder) →
      (∀ answer ∈ decoder.answers queries, answer.isOk) →
      ∃ n parts, fresh.extractions n = some (parts, decoder.after queries) by
    obtain ⟨n, parts, hn⟩ := h fresh 0 [] rfl hok
    have hlast := (length_extractions hn).2
    rw [hcount, Nat.zero_add] at hlast
    exact ⟨parts, hlast.symm ▸ hn⟩
  clear hok
  induction queries with
  | nil =>
      intro decoder n parts hn _
      exact ⟨n, parts, hn⟩
  | cons query queries ih =>
      intro decoder n parts hn hok
      rw [answers, List.forall_mem_cons] at hok
      obtain ⟨reply, reached, hask⟩ := Result.exists_ok_of_isOk hok.1
      rw [hask, Result.state_ok] at hok
      obtain ⟨m, later, hm, -⟩ := advanceUntil_ok_iff.mp (ask_ok_iff.mp hask).1
      rw [after, hask, Result.state_ok]
      exact ih reached (n + m) (parts ++ later)
        (extractions_add.mpr ⟨parts, decoder, later, hn, hm, rfl⟩) hok.2

/-- What holds of a decoder that a run without an error has led to from a fresh one. -/
structure Lazy (fresh decoder : Decoder) : Prop where
  extracted : ∃ parts, fresh.extractions decoder.count = some (parts, decoder)
  /-- An answer is what is filed at the first extraction, from where the query is put, at which the
  query is settled or no part is left. -/
  ask_ok_iff : ∀ (query : Query) (reply : Reply) (after : Decoder),
    query.ask decoder = .ok reply after ↔
      reply = query.reply after ∧ decoder.count ≤ after.count ∧
      (∃ parts, fresh.extractions after.count = some (parts, after)) ∧
      stopsAt query.isSettled after ∧
      ∀ n, decoder.count ≤ n → n < after.count → ∀ parts state,
        fresh.extractions n = some (parts, state) → stopsAt query.isSettled state = false
  /-- A query that is settled reads nothing and changes nothing. -/
  ask_of_settled : ∀ query : Query, stopsAt query.isSettled decoder →
    query.ask decoder = .ok (query.reply decoder) decoder
  /-- No part is found only when none is left. -/
  done_of_none : ∀ (query : Query) (after : Decoder),
    query.ask decoder = .ok (.part none) after → after.isDone

theorem isSettled_of_reply_none {query : Query} {decoder : Decoder}
    (h : query.reply decoder = .part none) : query.isSettled decoder = false := by
  cases query with
  | root =>
      simp only [Query.reply, Reply.part.injEq] at h
      simp [Query.isSettled, h]
  | attachment id =>
      simp only [Query.reply, Reply.part.injEq] at h
      simp [Query.isSettled, Table.contains, h]
  | attachments => rfl

theorem lazy_of_extractions {fresh decoder : Decoder} {parts : List Part}
    (h : fresh.extractions decoder.count = some (parts, decoder)) :
    Lazy fresh decoder := by
  refine ⟨⟨parts, h⟩, fun query reply after => ?_, fun query hstop => ?_,
    fun query after hask => ?_⟩
  · rw [ask_ok_iff, advanceUntil_ok_iff]
    constructor
    · rintro ⟨⟨m, later, hm, hstop, hbefore⟩, rfl⟩
      have hafter := (length_extractions hm).2
      refine ⟨rfl, hafter ▸ Nat.le_add_right _ _, ⟨parts ++ later, ?_⟩, hstop, ?_⟩
      · rw [hafter]
        exact extractions_add.mpr ⟨parts, decoder, later, h, hm, rfl⟩
      · intro n hle hlt all state hstate
        obtain ⟨k, rfl⟩ := Nat.exists_eq_add_of_le hle
        obtain ⟨_, _, between, hdecoder, hk, -⟩ := extractions_add.mp hstate
        rw [h] at hdecoder
        cases hdecoder
        exact hbefore k (by omega) between state hk
    · rintro ⟨rfl, hle, ⟨all, hall⟩, hstop, hbefore⟩
      obtain ⟨m, hm⟩ := Nat.exists_eq_add_of_le hle
      rw [hm] at hall
      obtain ⟨_, _, later, hdecoder, hlater, -⟩ := extractions_add.mp hall
      rw [h] at hdecoder
      cases hdecoder
      refine ⟨⟨m, later, hlater, hstop, ?_⟩, rfl⟩
      intro k hk between state hstate
      exact hbefore (decoder.count + k) (Nat.le_add_right _ _) (by omega) (parts ++ between) state
        (extractions_add.mpr ⟨parts, decoder, between, h, hstate, rfl⟩)
  · exact ask_ok_iff.mpr ⟨advanceUntil_of_stopsAt hstop, rfl⟩
  · obtain ⟨hreached, hreply⟩ := ask_ok_iff.mp hask
    obtain ⟨_, _, -, hstop, -⟩ := advanceUntil_ok_iff.mp hreached
    simpa [stopsAt, isSettled_of_reply_none hreply.symm] using hstop

/-- Queries in any order read no part that they need not read, and what they leave depends on the
number of parts read alone. -/
theorem queries_lazy {source : Source} {text : String} {settings : Settings} {fresh : Decoder}
    (hnew : ofSource source text settings = .ok fresh) {queries : List Query}
    (hok : ∀ answer ∈ fresh.answers queries, answer.isOk) :
    Lazy fresh (fresh.after queries) ∧
      ∀ others, (∀ answer ∈ fresh.answers others, answer.isOk) →
        (fresh.after others).count = (fresh.after queries).count →
        fresh.after others = fresh.after queries ∧
          ∀ next, (fresh.after others).answers next = (fresh.after queries).answers next := by
  have hcount := (unread_ofSource hnew).count_eq
  obtain ⟨parts, hparts⟩ := extractions_after hcount hok
  refine ⟨lazy_of_extractions hparts, fun others hothers hsame => ?_⟩
  obtain ⟨parts', hparts'⟩ := extractions_after hcount hothers
  rw [hsame, hparts] at hparts'
  have heq : fresh.after others = fresh.after queries :=
    congrArg Prod.snd (Option.some.inj hparts').symm
  exact ⟨heq, fun _ => heq ▸ rfl⟩

def threeParts : Source :=
  .ofBytes (Text.Utf8.encode
    "--B\n\nr\n--B\nContent-Id: a\n\na\n--B\nContent-Id: b\n\nb\n--B--".toList)

theorem queries_lazy_three_parts :
    ∃ fresh, ofSource threeParts "multipart/mixed; boundary=B" = .ok fresh ∧
      (∀ answer ∈ fresh.answers [.attachment "a", .root], answer.isOk) ∧
      Lazy fresh (fresh.after [.attachment "a", .root]) := by
  obtain ⟨fresh, hnew, hall⟩ := exists_of_any threeParts "multipart/mixed; boundary=B" {}
    (fun fresh => (fresh.answers [.attachment "a", .root]).all Except.isOk) (by decide +kernel)
  have hok := List.all_eq_true.mp hall
  exact ⟨fresh, hnew, hok, (queries_lazy hnew hok).1⟩

end Multipart.Decoder
