import Multipart.Proofs.Decoder.Extraction

/-! # Where parts are filed

What is filed after some extractions depends on the parts alone: the root is the first part, or the
first one with the content id that the content type names, and an attachment is the last one of the
other parts with its content id. -/

namespace Multipart

namespace Part

/-- The root among some parts in the order of the stream. -/
def rootAmong (start? : Option String) (parts : List Part) : Option Part :=
  match start? with
  | none => parts.head?
  | some start => parts.find? fun part => part.contentId? = some start

def othersAmong (start? : Option String) (parts : List Part) : List Part :=
  match start? with
  | none => parts.tail
  | some start => parts.eraseP fun part => part.contentId? = some start

def lastWith (id : String) (parts : List Part) : Option Part :=
  (parts.filter fun part => part.contentId? = some id).getLast?

/-- Whether a part that comes after some parts is their root. -/
def isRootAfter (start? : Option String) (parts : List Part) (part : Part) : Bool :=
  (rootAmong start? parts).isNone &&
    match start? with
    | none => parts.isEmpty
    | some start => part.contentId? = some start

theorem rootAmong_concat (start? : Option String) (parts : List Part) (part : Part) :
    rootAmong start? (parts ++ [part]) =
      if isRootAfter start? parts part then some part else rootAmong start? parts := by
  cases start? with
  | none => cases parts <;> simp [rootAmong, isRootAfter]
  | some start =>
      cases hroot : parts.find? fun part => part.contentId? = some start with
      | none => simp [rootAmong, isRootAfter, hroot]
      | some root => simp [rootAmong, isRootAfter, hroot]

/-- Once there is a root, later parts do not change it. -/
theorem rootAmong_append {start? : Option String} {parts : List Part}
    (h : (rootAmong start? parts).isSome) (later : List Part) :
    rootAmong start? (parts ++ later) = rootAmong start? parts := by
  cases start? with
  | none =>
      cases parts with
      | nil => simp [rootAmong] at h
      | cons first rest => rfl
  | some start =>
      simp only [rootAmong] at h ⊢
      rw [List.find?_append, Option.or_of_isSome h]

theorem othersAmong_concat (start? : Option String) (parts : List Part) (part : Part) :
    othersAmong start? (parts ++ [part]) =
      if isRootAfter start? parts part then othersAmong start? parts
      else othersAmong start? parts ++ [part] := by
  cases start? with
  | none => cases parts <;> simp [othersAmong, isRootAfter, rootAmong]
  | some start =>
      cases hroot : parts.find? fun part => part.contentId? = some start with
      | none =>
          have hnone := List.find?_eq_none.mp hroot
          simp only [othersAmong]
          rw [List.eraseP_append_right _ hnone, List.eraseP_of_forall_not hnone]
          by_cases hstart : part.contentId? = some start
          · simp [isRootAfter, rootAmong, hroot, hstart]
          · simp [isRootAfter, rootAmong, hroot, hstart]
      | some root =>
          have hmem := List.mem_of_find?_eq_some hroot
          simp only [othersAmong]
          rw [List.eraseP_append_left (List.find?_some hroot) _ hmem]
          simp [isRootAfter, rootAmong, hroot]

theorem lastWith_concat (id : String) (parts : List Part) (part : Part) :
    lastWith id (parts ++ [part]) =
      if part.contentId? = some id then some part else lastWith id parts := by
  by_cases hid : part.contentId? = some id
  · simp [lastWith, hid]
  · simp [lastWith, hid]

end Part

namespace Decoder

open Multipart.Part

structure Filed (start? : Option String) (parts : List Part) (decoder : Decoder) : Prop where
  start_eq : decoder.contentType.start? = start?
  count_eq : decoder.count = parts.length
  root_eq : decoder.root = rootAmong start? parts
  get?_eq : ∀ id, decoder.attachments.get? id = lastWith id (othersAmong start? parts)

variable {start? : Option String} {parts : List Part} {decoder : Decoder}

theorem Filed.isRoot_eq (h : Filed start? parts decoder) (part : Part) :
    decoder.isRoot part = isRootAfter start? parts part := by
  simp only [isRoot, h.root_eq, h.start_eq, h.count_eq]
  cases start? with
  | none => cases parts <;> simp [isRootAfter]
  | some start => rfl

theorem Filed.get?_attachmentsWith (h : Filed start? parts decoder) (part : Part) (id : String) :
    (decoder.attachmentsWith part).get? id =
      lastWith id (othersAmong start? (parts ++ [part])) := by
  rw [attachmentsWith, othersAmong_concat, h.isRoot_eq]
  by_cases hroot : isRootAfter start? parts part
  · rw [if_pos hroot, if_pos hroot, h.get?_eq]
  · rw [if_neg hroot, if_neg hroot, lastWith_concat, ← h.get?_eq]
    cases hid : part.contentId? with
    | none => simp
    | some other => simp [Table.get?_insert, eq_comm]

/-- One more part is filed as it should be. -/
theorem Filed.withPart (h : Filed start? parts decoder) (part : Part) :
    Filed start? (parts ++ [part]) (decoder.withPart part) := by
  refine ⟨h.start_eq, ?_, ?_, h.get?_attachmentsWith part⟩
  · simp [Decoder.withPart, h.count_eq]
  · rw [rootAmong_concat, ← h.isRoot_eq, ← h.root_eq]
    rfl

/-- Extractions file their parts. -/
theorem Filed.extractions {fresh after : Decoder} {n : Nat} (h : Filed start? [] fresh)
    (hparts : fresh.extractions n = some (parts, after)) : Filed start? parts after := by
  induction n generalizing parts after with
  | zero =>
      obtain ⟨rfl, rfl⟩ := extractions_zero.mp hparts
      exact h
  | succ n ih =>
      obtain ⟨before, last, state, hbefore, hlast, rfl⟩ := extractions_succ.mp hparts
      obtain ⟨_, _, hafter⟩ := (nextPart?_files hlast).1
      have hfiled := (ih hbefore).withPart last
      rw [hafter]
      exact ⟨hfiled.start_eq, hfiled.count_eq, hfiled.root_eq, hfiled.get?_eq⟩

theorem Unread.filed {source : Source} {settings : Settings} {fresh : Decoder}
    (h : Unread source settings fresh) : Filed fresh.contentType.start? [] fresh := by
  refine ⟨rfl, h.count_eq, ?_, ?_⟩
  · rw [h.root_eq]
    cases fresh.contentType.start? <;> rfl
  · intro id
    rw [h.attachments_eq]
    cases fresh.contentType.start? <;> rfl

end Decoder

end Multipart
