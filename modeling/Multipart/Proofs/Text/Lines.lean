import Multipart.Octet
import Multipart.Text.Blank

/-! # Lists cut into lines

A list is cut after each element that ends a line. The lines with their ends make up the list again,
and the lines of a text are these lines without their ends. -/

namespace Multipart

namespace Text

variable {α β : Type} {last : α → Bool} {line rest : List α}

/-- The elements up to and including the first that ends a line. -/
def firstLine (last : α → Bool) : List α → List α
  | [] => []
  | a :: rest => if last a then [a] else a :: firstLine last rest

/-- The lines of a list, each with the element that ends it. What follows the last end is a line
too. -/
def cutLines (last : α → Bool) : List α → List (List α)
  | [] => []
  | a :: rest =>
      if last a then [a] :: cutLines last rest
      else
        match cutLines last rest with
        | [] => [[a]]
        | line :: lines => (a :: line) :: lines

example : cutLines (· = '\n') ['a', '\n', '\n', 'b'] = [['a', '\n'], ['\n'], ['b']] := rfl

/-! ## The first line -/

theorem firstLine_append_drop (last : α → Bool) (list : List α) :
    firstLine last list ++ list.drop (firstLine last list).length = list := by
  induction list with
  | nil => rfl
  | cons a rest ih =>
      rw [firstLine]
      split
      · rfl
      · simpa using ih

theorem firstLine_ne_nil {list : List α} (h : list ≠ []) : firstLine last list ≠ [] := by
  cases list with
  | nil => exact absurd rfl h
  | cons a rest =>
      rw [firstLine]
      split <;> simp

theorem cutLines_eq_cons {list : List α} (h : list ≠ []) :
    cutLines last list =
      firstLine last list :: cutLines last (list.drop (firstLine last list).length) := by
  induction list with
  | nil => exact absurd rfl h
  | cons a rest ih =>
      rw [cutLines, firstLine]
      split
      · rfl
      · cases rest with
        | nil => rfl
        | cons b rest =>
            rw [ih (List.cons_ne_nil b rest)]
            rfl

/-- A list is empty, or starts with a line. -/
@[elab_as_elim]
theorem lines_induction (last : α → Bool) {motive : List α → Prop} (nil : motive [])
    (line : ∀ list, list ≠ [] → motive (list.drop (firstLine last list).length) → motive list)
    (list : List α) : motive list := by
  induction hlength : list.length using Nat.strongRecOn generalizing list with
  | ind length ih =>
      by_cases hnil : list = []
      · rw [hnil]
        exact nil
      · apply line list hnil
        have hfirst : firstLine last list ≠ [] := firstLine_ne_nil hnil
        have hpos := List.length_pos_iff.mpr hfirst
        have hlist := List.length_pos_iff.mpr hnil
        apply ih _ _ _ rfl
        rw [List.length_drop]
        omega

/-- A line that is cut short does not end. -/
theorem not_last_of_mem_take {list : List α} {count : Nat} {a : α}
    (hcount : count < (firstLine last list).length) (ha : a ∈ (firstLine last list).take count) :
    ¬last a := by
  induction list generalizing count with
  | nil => simp [firstLine] at ha
  | cons b rest ih =>
      rw [firstLine] at hcount ha
      split at hcount
      · obtain rfl : count = 0 := Nat.lt_one_iff.mp hcount
        simp at ha
      · rename_i hb
        rw [if_neg hb] at ha
        cases count with
        | zero => simp at ha
        | succ count =>
            rcases List.mem_cons.mp ha with rfl | ha
            · exact hb
            · exact ih (Nat.lt_of_succ_lt_succ hcount) ha

/-! ## All lines -/

/-- Nothing is lost between the lines. -/
theorem flatten_cutLines (last : α → Bool) (list : List α) :
    (cutLines last list).flatten = list := by
  induction list using lines_induction last with
  | nil => rfl
  | line list hne ih =>
      rw [cutLines_eq_cons hne, List.flatten_cons, ih]
      exact firstLine_append_drop last list

/-- A line that ends is cut off. -/
theorem cutLines_append {a : α} (hline : ∀ b ∈ line, ¬last b) (ha : last a) :
    cutLines last (line ++ a :: rest) = (line ++ [a]) :: cutLines last rest := by
  induction line with
  | nil => simp [cutLines, ha]
  | cons b line ih =>
      rw [List.forall_mem_cons] at hline
      rw [List.cons_append, cutLines, if_neg hline.1, ih hline.2]
      rfl

theorem cutLines_of_not_last {list : List α} (hne : list ≠ []) (h : ∀ a ∈ list, ¬last a) :
    cutLines last list = [list] := by
  induction list with
  | nil => exact absurd rfl hne
  | cons a rest ih =>
      rw [List.forall_mem_cons] at h
      rw [cutLines, if_neg h.1]
      cases rest with
      | nil => rfl
      | cons b rest => rw [ih (List.cons_ne_nil b rest) h.2]

/-- Lines stay lines if each element is replaced by one that ends a line if it does. -/
theorem cutLines_map (f : α → β) (last : β → Bool) (list : List α) :
    cutLines last (list.map f) = (cutLines (fun a => last (f a)) list).map (List.map f) := by
  induction list with
  | nil => rfl
  | cons a rest ih =>
      rw [List.map_cons, cutLines, cutLines, ih]
      split
      · rfl
      · cases cutLines (fun a => last (f a)) rest with
        | nil => rfl
        | cons line lines => rfl

/-! ## Some of the lines -/

theorem firstLine_of_prefix {tail : List α} (h : firstLine last (line ++ rest) = line)
    (htail : tail <+: rest) : firstLine last (line ++ tail) = line := by
  induction line with
  | nil =>
      rw [List.nil_append] at h ⊢
      by_cases hrest : rest = []
      · rw [hrest, List.prefix_nil] at htail
        rw [htail]
        rfl
      · exact absurd h (firstLine_ne_nil hrest)
  | cons a line ih =>
      rw [List.cons_append, firstLine] at h ⊢
      split at h
      · rename_i ha
        rw [if_pos ha]
        exact h
      · rename_i ha
        rw [if_neg ha, ih (List.cons.inj h).2]

/-- A line that something follows has its end: it stays a line whatever follows it. -/
theorem firstLine_of_followed {other : List α} (h : firstLine last (line ++ rest) = line)
    (hrest : rest ≠ []) : firstLine last (line ++ other) = line := by
  induction line with
  | nil => exact absurd h (firstLine_ne_nil hrest)
  | cons a line ih =>
      rw [List.cons_append, firstLine] at h ⊢
      split at h
      · rename_i ha
        rw [if_pos ha]
        exact h
      · rename_i ha
        rw [if_neg ha, ih (List.cons.inj h).2]

/-- Lines that are read back from what they make up. -/
def AreLines (last : α → Bool) (lines : List (List α)) : Prop :=
  cutLines last lines.flatten = lines

variable {lines others : List (List α)}

theorem areLines_cutLines (last : α → Bool) (list : List α) :
    AreLines last (cutLines last list) := by
  rw [AreLines, flatten_cutLines]

theorem AreLines.cons_iff :
    AreLines last (line :: lines) ↔
      line ≠ [] ∧ firstLine last (line ++ lines.flatten) = line ∧ AreLines last lines := by
  rw [AreLines, List.flatten_cons]
  constructor
  · intro h
    have hne : line ++ lines.flatten ≠ [] := by
      intro hnil
      rw [hnil] at h
      cases h
    rw [cutLines_eq_cons hne, List.cons.injEq] at h
    obtain ⟨hfirst, hrest⟩ := h
    rw [hfirst, List.drop_left] at hrest
    refine ⟨?_, hfirst, hrest⟩
    rw [← hfirst]
    exact firstLine_ne_nil hne
  · rintro ⟨hne, hfirst, hrest⟩
    rw [cutLines_eq_cons (by simp [hne]), hfirst, List.drop_left, hrest]

theorem AreLines.append (h : AreLines last (lines ++ others)) :
    AreLines last lines ∧ AreLines last others := by
  induction lines with
  | nil => exact ⟨rfl, h⟩
  | cons line lines ih =>
      rw [List.cons_append, cons_iff] at h
      obtain ⟨hne, hfirst, hrest⟩ := h
      obtain ⟨hlines, hothers⟩ := ih hrest
      refine ⟨cons_iff.mpr ⟨hne, ?_, hlines⟩, hothers⟩
      apply firstLine_of_prefix hfirst
      rw [List.flatten_append]
      exact List.prefix_append _ _

theorem AreLines.flatten_ne_nil (h : AreLines last lines) (hne : lines ≠ []) :
    lines.flatten ≠ [] := by
  obtain ⟨line, lines, rfl⟩ := List.exists_cons_of_ne_nil hne
  rw [List.flatten_cons]
  exact List.append_ne_nil_of_left_ne_nil (cons_iff.mp h).1 _

/-- Lines stay lines when some of them are taken out. -/
theorem AreLines.remove {between : List (List α)}
    (h : AreLines last (lines ++ (between ++ others))) (hne : between ≠ []) :
    AreLines last (lines ++ others) := by
  induction lines with
  | nil =>
      rw [List.nil_append] at h ⊢
      exact h.append.2
  | cons line lines ih =>
      rw [List.cons_append, cons_iff] at h ⊢
      obtain ⟨hline, hfirst, hrest⟩ := h
      refine ⟨hline, firstLine_of_followed hfirst ?_, ih hrest⟩
      exact hrest.flatten_ne_nil (by simp [hne])

/-! ## Lines of a text -/

def stripEnd (line : List Char) : List Char :=
  match line.reverse with
  | '\n' :: taken => lineBefore taken
  | _ => line

theorem stripEnd_crlf (line : List Char) : stripEnd (line ++ ['\r', '\n']) = line := by
  simp [stripEnd, lineBefore]

theorem stripEnd_lf {line : List Char} (h : '\r' ∉ line) : stripEnd (line ++ ['\n']) = line := by
  rw [stripEnd, List.reverse_append]
  simp only [List.reverse_singleton, List.singleton_append, lineBefore]
  split
  · rename_i taken hline
    have hmem : '\r' ∈ line.reverse := hline ▸ List.mem_cons_self
    exact absurd (List.mem_reverse.mp hmem) h
  · exact List.reverse_reverse line

/-- What a line loses is its line end. -/
theorem exists_lineEnd (line : List Char) :
    ∃ lineEnd, line = stripEnd line ++ lineEnd ∧ ∀ c ∈ lineEnd, c = '\r' ∨ c = '\n' := by
  rw [stripEnd]
  split
  · rename_i taken hline
    have hsplit : line = taken.reverse ++ ['\n'] := by
      rw [← List.reverse_reverse line, hline, List.reverse_cons]
    unfold lineBefore
    split
    · rename_i rest
      exact ⟨['\r', '\n'], by simp [hsplit], by simp⟩
    · exact ⟨['\n'], hsplit, by simp⟩
  · exact ⟨[], by simp, by simp⟩

theorem linesFrom_eq_map {taken : List Char} (h : '\n' ∉ taken) (text : List Char) :
    linesFrom taken text = (cutLines (· = '\n') (taken.reverse ++ text)).map stripEnd := by
  have hreverse : ∀ {other : List Char}, '\n' ∉ other → ∀ c ∈ other.reverse, ¬c = '\n' := by
    intro other hother c hc
    exact ne_of_mem_of_not_mem (List.mem_reverse.mp hc) hother
  -- What is taken so far has no line feed: it is the start of the first line.
  induction text generalizing taken with
  | nil =>
      rw [linesFrom, List.append_nil]
      cases taken with
      | nil => rfl
      | cons c taken =>
          have hc : c ≠ '\n' := fun heq => h (heq ▸ List.mem_cons_self)
          rw [cutLines_of_not_last (by simp) (by simpa using hreverse h), List.map_singleton,
            stripEnd, List.reverse_reverse]
          simp [hc]
  | cons c text ih =>
      rw [linesFrom]
      by_cases hc : c = '\n'
      · rw [if_pos hc, cutLines_append (by simpa using hreverse h) (by simp [hc]),
          ih List.not_mem_nil, List.map_cons, stripEnd, List.reverse_append, List.reverse_reverse]
        simp [hc]
      · have hmore : '\n' ∉ c :: taken := by
          simp [h, Ne.symm hc]
        rw [if_neg hc, ih hmore, List.reverse_cons, List.append_assoc, List.singleton_append]

/-- The lines of a text are its lines with their ends, without them. -/
theorem lines_eq_map (text : List Char) :
    Text.lines text = (cutLines (· = '\n') text).map stripEnd :=
  linesFrom_eq_map List.not_mem_nil text

end Text

namespace Octet

abbrev firstLine (text : List UInt8) : List UInt8 :=
  Text.firstLine (· = lf) text

abbrev lines (text : List UInt8) : List (List UInt8) :=
  Text.cutLines (· = lf) text

/-- Bytes are none, or start with a line. -/
@[elab_as_elim]
theorem lines_induction {motive : List UInt8 → Prop} (nil : motive [])
    (line : ∀ text, text ≠ [] → motive (text.drop (firstLine text).length) → motive text)
    (text : List UInt8) : motive text :=
  Text.lines_induction (· = lf) nil line text

end Octet

end Multipart
