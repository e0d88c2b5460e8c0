import Mathlib.Data.List.Induction
import Multipart.Proofs.Decoder.Classification

/-! # Attachments that are replaced

Asking again for an attachment reads nothing more. The answer changes only if a part that is read in
between takes up the content id, and then the last such part is answered. -/

namespace Multipart

namespace Part

variable {start? : Option String} {parts : List Part} {part last : Part} {id : String}

/-- The root is read before any other part of its content id. -/
theorem not_isRootAfter (h : lastWith id (othersAmong start? parts) = some part)
    (since : List Part) (hid : last.contentId? = some id) :
    ¬isRootAfter start? (parts ++ since) last := by
  cases start? with
  | none =>
      cases parts with
      | nil => cases h
      | cons first rest => simp [isRootAfter]
  | some start =>
      intro hroot
      simp only [isRootAfter, hid, Bool.and_eq_true, decide_eq_true_eq, Option.some.injEq] at hroot
      obtain ⟨hnone, rfl⟩ := hroot
      obtain ⟨hmem, hpart⟩ := mem_of_lastWith h
      rw [Option.isNone_iff_eq_none, rootAmong, List.find?_eq_none] at hnone
      have hparts : part ∈ parts := List.mem_of_mem_eraseP hmem
      exact hnone part (List.mem_append_left since hparts) (decide_eq_true hpart)

/-- An attachment gives way to the last of the further parts with its content id. -/
theorem lastWith_othersAmong_append (h : lastWith id (othersAmong start? parts) = some part)
    (since : List Part) :
    lastWith id (othersAmong start? (parts ++ since)) =
      some ((lastWith id since).getD part) := by
  induction since using List.reverseRecOn with
  | nil => simpa [lastWith] using h
  | append_singleton since last ih =>
      rw [← List.append_assoc, othersAmong_concat]
      by_cases hid : last.contentId? = some id
      · rw [if_neg (not_isRootAfter h since hid), lastWith_concat, lastWith_concat, if_pos hid,
          if_pos hid, Option.getD_some]
      · rw [lastWith_concat, if_neg hid, ← ih]
        split
        · rfl
        · rw [lastWith_concat, if_neg hid]

end Part

namespace Decoder

open Multipart.Part

variable {fresh decoder after found : Decoder} {parts since : List Part} {part : Part} {id : String}

/-! ## Runs that are continued -/

theorem HasRead.of_failed (hphase : decoder.phase = .failed) (h : HasRead decoder after since) :
    since = [] ∧ after = decoder := by
  obtain ⟨state, hstate, hafter⟩ := h
  have hsame := eq_of_extractions_of_failed hphase hstate
  subst hsame
  have hnil : since = [] := by
    cases since with
    | nil => rfl
    | cons first rest =>
        obtain ⟨_, _, _, hfirst, -⟩ := extractions_succ_front.mp hstate
        have hopen := (nextPart?_eq_some_iff.mp hfirst).1
        simp [hphase, Phase.isOpen] at hopen
  rcases hafter with rfl | ⟨error, hfails⟩
  · exact ⟨hnil, rfl⟩
  · have hopen := hfails.isOpen
    simp [hphase, Phase.isOpen] at hopen

/-- What a run has read is what its first queries have read, and then what the others have. -/
theorem HasRead.trans (h : HasRead fresh decoder parts) (hafter : HasRead decoder after since) :
    HasRead fresh after (parts ++ since) := by
  obtain ⟨state, hstate, rfl | ⟨error, hfails⟩⟩ := h
  · obtain ⟨last, hlast, hend⟩ := hafter
    refine ⟨last, ?_, hend⟩
    rw [List.length_append]
    exact extractions_add.mpr ⟨parts, decoder, since, hstate, hlast, rfl⟩
  · obtain ⟨rfl, rfl⟩ := hafter.of_failed (phase_of_advance_error hfails.advance_eq)
    rw [List.append_nil]
    exact ⟨state, hstate, .inr ⟨error, hfails⟩⟩

/-! ## Asking again -/

theorem after_attachment (h : decoder.attachmentPart id = .ok (some part) found) :
    decoder.after [.attachment id] = found ∧ found.attachments.get? id = some part := by
  have hask : (Query.attachment id).ask decoder = .ok (.part (some part)) found := by
    rw [Query.ask, h]
  obtain ⟨-, hreply⟩ := ask_ok_iff.mp hask
  refine ⟨?_, ?_⟩
  · rw [Decoder.after, hask, Result.state_ok, Decoder.after]
  · simpa [Query.reply, eq_comm] using hreply

theorem attachmentPart_of_get? (h : decoder.attachments.get? id = some part) :
    decoder.attachmentPart id = .ok (some part) decoder := by
  have hcontains : decoder.attachments.contains id := by simp [Table.contains, h]
  rw [attachmentPart, advanceUntil_of_stopsAt (by simp [stopsAt, hcontains])]
  simp only [h]

/-- An attachment that was answered is answered again without reading on, whatever is asked in
between: by the last part with its content id that was read in between, or else by itself. -/
theorem attachment_answered_again {source : Source} {text : String} {settings : Settings}
    (hnew : ofSource source text settings = .ok fresh) {queries : List Query}
    (hfound : (fresh.after queries).attachmentPart id = .ok (some part) found)
    (later : List Query) :
    ∃ parts since, HasRead fresh found parts ∧
      HasRead fresh (found.after later) (parts ++ since) ∧
      (found.after later).attachmentPart id =
        .ok (some ((lastWith id since).getD part)) (found.after later) := by
  obtain ⟨hafter, hpart⟩ := after_attachment hfound
  obtain ⟨earlier, hearlier⟩ := hasRead_after fresh queries
  obtain ⟨own, hown⟩ := hasRead_after (fresh.after queries) [.attachment id]
  obtain ⟨since, hsince⟩ := hasRead_after found later
  rw [hafter] at hown
  have hread := hearlier.trans hown
  have hall := hread.trans hsince
  have hfresh := (unread_ofSource hnew).filed
  refine ⟨earlier ++ own, since, hread, hall, attachmentPart_of_get? ?_⟩
  rw [(hread.filed hfresh).get?_eq] at hpart
  rw [(hall.filed hfresh).get?_eq]
  exact lastWith_othersAmong_append hpart since

def takenUp : Source :=
  .ofBytes (Text.Utf8.encode
    "--B\n\nr\n--B\nContent-Id: a\n\n1\n--B\nContent-Id: a\n\n2\n--B--".toList)

theorem attachment_answered_again_taken_up :
    ∃ fresh found parts since,
      ofSource takenUp "multipart/mixed; boundary=B" = .ok fresh ∧
      (fresh.after []).attachmentPart "a" = .ok (some ⟨[⟨"content-id", "a"⟩], [49], 26⟩) found ∧
      HasRead fresh found parts ∧ HasRead fresh (found.after [.attachments]) (parts ++ since) ∧
      lastWith "a" since = some ⟨[⟨"content-id", "a"⟩], [50], 47⟩ ∧
      (found.after [.attachments]).attachmentPart "a" =
        .ok (some ⟨[⟨"content-id", "a"⟩], [50], 47⟩) (found.after [.attachments]) := by
  obtain ⟨fresh, hnew, hcheck⟩ := exists_of_any takenUp "multipart/mixed; boundary=B" {}
    (fun fresh =>
      match fresh.attachmentPart "a" with
      | .ok (some part) found => part = ⟨[⟨"content-id", "a"⟩], [49], 26⟩ ∧
          (found.after [.attachments]).attachments.get? "a" =
            some ⟨[⟨"content-id", "a"⟩], [50], 47⟩
      | _ => false) (by decide +kernel)
  split at hcheck
  · rename_i part found hfound
    obtain ⟨rfl, hlater⟩ := of_decide_eq_true hcheck
    have hfound : (fresh.after []).attachmentPart "a" =
        .ok (some ⟨[⟨"content-id", "a"⟩], [49], 26⟩) found := hfound
    obtain ⟨parts, since, hparts, hsince, hagain⟩ :=
      attachment_answered_again hnew hfound [.attachments]
    have hsecond := attachmentPart_of_get? hlater
    have htaken : lastWith "a" since = some ⟨[⟨"content-id", "a"⟩], [50], 47⟩ := by
      rw [hsecond] at hagain
      cases hlast : lastWith "a" since with
      | none => simp [hlast] at hagain
      | some last =>
          rw [hlast] at hagain
          cases hagain
          rfl
    exact ⟨fresh, found, parts, since, hnew, hfound, hparts, hsince, htaken, hsecond⟩
  · cases hcheck

/-- An attachment that was answered is not always answered again. -/
theorem not_attachment_stable :
    ¬∀ (source : Source) (text : String) (settings : Settings) (fresh found : Decoder)
      (queries later : List Query) (id : String) (part : Part),
      ofSource source text settings = .ok fresh →
      (fresh.after queries).attachmentPart id = .ok (some part) found →
      ∃ again, (found.after later).attachmentPart id = .ok (some part) again := by
  obtain ⟨fresh, hnew, hcheck⟩ := exists_of_any takenUp "multipart/mixed; boundary=B" {}
    (fun fresh =>
      match fresh.attachmentPart "a" with
      | .ok (some part) found =>
          match (found.after [.attachments]).attachmentPart "a" with
          | .ok (some other) _ => part ≠ other
          | _ => false
      | _ => false) (by decide +kernel)
  intro hall
  split at hcheck
  · rename_i part found hfound
    obtain ⟨again, hagain⟩ := hall takenUp "multipart/mixed; boundary=B" {} fresh found []
      [.attachments] "a" part hnew hfound
    simp [hagain] at hcheck
  · cases hcheck

end Decoder

end Multipart
