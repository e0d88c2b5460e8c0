import Multipart.Proofs.Decoder.Failure
import Multipart.Proofs.Decoder.Filing
import Multipart.Proofs.Decoder.Slices

/-! # The root and the attachments of a run

The parts that a run has read decide, at any point of it, which one is the root and which ones are
found by their content ids. No part is filed twice, and the root stays the root. -/

namespace Multipart

namespace Part

variable {start? : Option String} {parts : List Part} {part root : Part} {id : String}

/-! ## The root and the others -/

theorem split_of_rootAmong (h : rootAmong start? parts = some root) :
    ∃ before after, parts = before ++ root :: after ∧
      othersAmong start? parts = before ++ after := by
  cases start? with
  | none =>
      cases parts with
      | nil => cases h
      | cons first rest =>
          cases h
          exact ⟨[], rest, rfl, rfl⟩
  | some start =>
      obtain ⟨hroot, before, after, hparts, hbefore⟩ := List.find?_eq_some_iff_append.mp h
      subst hparts
      refine ⟨before, after, rfl, ?_⟩
      have hnone : ∀ earlier ∈ before, ¬decide (earlier.contentId? = some start) = true := by
        intro earlier hearlier
        simpa using hbefore earlier hearlier
      rw [othersAmong, List.eraseP_append_right _ hnone]
      exact congrArg (before ++ ·) (List.eraseP_cons_of_pos hroot)

/-- The root is not among the others. -/
theorem not_mem_othersAmong (hnodup : parts.Nodup) (h : rootAmong start? parts = some root) :
    root ∉ othersAmong start? parts := by
  obtain ⟨before, after, rfl, hothers⟩ := split_of_rootAmong h
  obtain ⟨-, hlater, hne⟩ := List.nodup_append.mp hnodup
  rw [hothers, List.mem_append]
  rintro (hbefore | hafter)
  · exact hne root hbefore root List.mem_cons_self rfl
  · exact (List.nodup_cons.mp hlater).1 hafter

theorem mem_of_lastWith (h : lastWith id parts = some part) :
    part ∈ parts ∧ part.contentId? = some id := by
  have hmem := List.mem_of_getLast? h
  simpa using List.mem_filter.mp hmem

theorem isSome_lastWith :
    (lastWith id parts).isSome ↔ ∃ part ∈ parts, part.contentId? = some id := by
  constructor
  · intro h
    obtain ⟨part, hpart⟩ := Option.isSome_iff_exists.mp h
    exact ⟨part, mem_of_lastWith hpart⟩
  · rintro ⟨part, hpart, hid⟩
    rw [lastWith, List.getLast?_isSome]
    intro hnil
    have hmem : part ∈ parts.filter fun part => part.contentId? = some id :=
      List.mem_filter.mpr ⟨hpart, decide_eq_true hid⟩
    rw [hnil] at hmem
    cases hmem

end Part

namespace Decoder

open Multipart.Part

variable {start? : Option String} {fresh decoder state failed : Decoder} {parts : List Part}
  {part root : Part} {error : Error}

/-! ## A root stays -/

theorem root_of_nextPart? (hroot : decoder.root = some root)
    (h : decoder.nextPart? = some (part, state)) : state.root = some root := by
  obtain ⟨cursor, log, hsame⟩ := (nextPart?_files h).1
  rw [hsame]
  simp [withPart, isRoot, hroot]

theorem root_of_extractions {n : Nat} (hroot : decoder.root = some root)
    (h : decoder.extractions n = some (parts, state)) : state.root = some root := by
  induction n generalizing parts state with
  | zero =>
      obtain ⟨-, rfl⟩ := extractions_zero.mp h
      exact hroot
  | succ n ih =>
      obtain ⟨before, last, reached, hbefore, hlast, rfl⟩ := extractions_succ.mp h
      exact root_of_nextPart? (ih hbefore) hlast

theorem root_after (hroot : decoder.root = some root) (queries : List Query) :
    (decoder.after queries).root = some root := by
  obtain ⟨parts, state, hstate, hafter⟩ := hasRead_after decoder queries
  have hkept := root_of_extractions hroot hstate
  rcases hafter with hsame | ⟨error, hfails⟩
  · rw [hsame]
    exact hkept
  · rw [hfails.root_eq]
    exact hkept

/-! ## What is filed -/

theorem Filed.of_failsWith (h : Filed start? parts decoder)
    (hfails : decoder.FailsWith error failed) : Filed start? parts failed := by
  obtain ⟨cursor, log, hsame⟩ := advance_error_readsOn hfails.advance_eq
  refine ⟨?_, hfails.count_eq.trans h.count_eq, hfails.root_eq.trans h.root_eq, fun id => ?_⟩
  · rw [hsame]
    exact h.start_eq
  · rw [hfails.attachments_eq]
    exact h.get?_eq id

theorem HasRead.filed (hfresh : Filed start? [] fresh) (h : HasRead fresh decoder parts) :
    Filed start? parts decoder := by
  obtain ⟨state, hstate, hdecoder⟩ := h
  have hfiled := hfresh.extractions hstate
  rcases hdecoder with rfl | ⟨error, hfails⟩
  · exact hfiled
  · exact hfiled.of_failsWith hfails

/-- Parts that stand one after the other in the stream are not the same. -/
theorem nodup_of_ordered
    (h : parts.Pairwise fun first second => first.offset + first.length < second.offset) :
    parts.Nodup := by
  refine h.imp ?_
  rintro first _ hlt rfl
  omega

theorem HasRead.nodup (hposition : fresh.cursor.position = 0) (hahead : fresh.cursor.ahead = [])
    (h : HasRead fresh decoder parts) : parts.Nodup := by
  obtain ⟨state, hstate, -⟩ := h
  obtain ⟨passed, hpassed⟩ := tiled_extractions hposition hahead hstate
  exact nodup_of_ordered hpassed.ordered

/-- The parts that a run has read, in their order, and how they are filed. -/
structure Classified (fresh decoder : Decoder) (parts : List Part) : Prop where
  read : HasRead fresh decoder parts
  /-- All parts are counted, the root is the first part or else the first one with the content id
  that the content type names, and an attachment is the last one of the others with its id. -/
  filed : Filed fresh.contentType.start? parts decoder
  contains_iff : ∀ id, decoder.attachments.contains id ↔
    ∃ part ∈ othersAmong fresh.contentType.start? parts, part.contentId? = some id
  contentId?_eq : ∀ id part, decoder.attachments.get? id = some part → part.contentId? = some id
  root_unattached : ∀ root, decoder.root = some root →
    ∀ id, decoder.attachments.get? id ≠ some root
  root_stays : ∀ root, decoder.root = some root →
    ∀ queries, (decoder.after queries).root = some root
  /-- A part without a content id is not held, unless it is the root. -/
  unnamed : ∀ part ∈ othersAmong fresh.contentType.start? parts, part.contentId? = none →
    ¬decoder.Holds part

theorem HasRead.classified (h : HasRead fresh decoder parts)
    (hfiled : Filed fresh.contentType.start? parts decoder) (hnodup : parts.Nodup) :
    Classified fresh decoder parts := by
  have hmem : ∀ id part, decoder.attachments.get? id = some part →
      part ∈ othersAmong fresh.contentType.start? parts ∧ part.contentId? = some id := by
    intro id part hpart
    rw [hfiled.get?_eq] at hpart
    exact mem_of_lastWith hpart
  have hroot : ∀ root, decoder.root = some root →
      root ∉ othersAmong fresh.contentType.start? parts := by
    intro root hroot
    rw [hfiled.root_eq] at hroot
    exact not_mem_othersAmong hnodup hroot
  refine ⟨h, hfiled, ?_, ?_, ?_, ?_, ?_⟩
  · intro id
    rw [Table.contains, hfiled.get?_eq]
    exact isSome_lastWith
  · intro id part hpart
    exact (hmem id part hpart).2
  · intro root hdecoder id hattached
    exact hroot root hdecoder (hmem id root hattached).1
  · intro root hdecoder queries
    exact root_after hdecoder queries
  · rintro part hpart hid (hdecoder | ⟨id, hattached⟩)
    · exact hroot part hdecoder hpart
    · have hnamed := (hmem id part hattached).2
      rw [hid] at hnamed
      cases hnamed

/-- Wherever a run has come to, the parts that it has read are counted, and are filed as the content
type says. -/
theorem run_classifies {source : Source} {text : String} {settings : Settings}
    {fresh : Decoder} (hnew : ofSource source text settings = .ok fresh) (queries : List Query) :
    ∃ parts, Classified fresh (fresh.after queries) parts := by
  have hunread := unread_ofSource hnew
  obtain ⟨parts, hread⟩ := hasRead_after fresh queries
  have hfiled := hread.filed hunread.filed
  have hnodup := hread.nodup hunread.position_eq hunread.ahead_eq
  exact ⟨parts, hread.classified hfiled hnodup⟩

/-- An attachment, a part without a content id, the root, and two parts that take up the ids of the
attachment and the root. -/
def recurringIds : Source :=
  .ofBytes (Text.Utf8.encode ("--B\nContent-Id: a\n\n1\n--B\n\n2\n--B\nContent-Id: r\n\n3\n" ++
    "--B\nContent-Id: a\n\n4\n--B\nContent-Id: r\n\n5\n--B--").toList)

theorem run_classifies_recurring_ids :
    ∃ fresh, ofSource recurringIds "multipart/related; boundary=B; start=r" = .ok fresh ∧
      (fresh.after [.root, .attachments]).count = 5 ∧
      (fresh.after [.root, .attachments]).root = some ⟨[⟨"content-id", "r"⟩], [51], 47⟩ ∧
      (fresh.after [.root, .attachments]).attachments.get? "a" =
        some ⟨[⟨"content-id", "a"⟩], [52], 68⟩ ∧
      (fresh.after [.root, .attachments]).attachments.get? "r" =
        some ⟨[⟨"content-id", "r"⟩], [53], 89⟩ ∧
      ∃ parts, Classified fresh (fresh.after [.root, .attachments]) parts := by
  obtain ⟨fresh, hnew, hcheck⟩ := exists_of_any recurringIds
    "multipart/related; boundary=B; start=r" {}
    (fun fresh =>
      let after := fresh.after [.root, .attachments]
      after.count = 5 ∧ after.root = some ⟨[⟨"content-id", "r"⟩], [51], 47⟩ ∧
        after.attachments.get? "a" = some ⟨[⟨"content-id", "a"⟩], [52], 68⟩ ∧
        after.attachments.get? "r" = some ⟨[⟨"content-id", "r"⟩], [53], 89⟩)
    (by decide +kernel)
  obtain ⟨hcount, hroot, hfirst, hsecond⟩ := of_decide_eq_true hcheck
  exact ⟨fresh, hnew, hcount, hroot, hfirst, hsecond, run_classifies hnew _⟩

end Decoder

end Multipart
