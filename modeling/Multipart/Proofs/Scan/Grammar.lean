import Multipart.Proofs.Scan.Faultless
import Multipart.Proofs.Scan.Line

/-! # The grammar of delimiter lines

After a delimiter stands padding and a line end, or two hyphens and anything at all. On a stream
without faults the rest of a delimiter line is read by this grammar. Any other text is refused where
it can no longer be one of these, or where it ends. -/

namespace Multipart.Scan

variable {cursor after : Cursor} {offset count : Nat} {text line rest read left : List UInt8}
  {value : UInt8}

/-! ## Texts that are accepted -/

/-- A text starts with the rest of a delimiter line: an opening one, or the two hyphens of a closing
one. -/
def Accepted (text : List UInt8) : Prop :=
  (∃ line, OpeningLine line ∧ line <+: text) ∨ [Octet.dash, Octet.dash] <+: text

/-- No text that starts in this way is accepted. -/
def RuledOut (front : List UInt8) : Prop :=
  ∀ more, ¬Accepted (front ++ more)

/-- A text breaks with the last of so many bytes: these are the first that rule out that it is
accepted, or else they are the whole text. -/
structure BreaksAt (text : List UInt8) (count : Nat) : Prop where
  le_length : count ≤ text.length
  not_before : ∀ fewer < count, ¬RuledOut (text.take fewer)
  here : RuledOut (text.take count) ∨ count = text.length

theorem openingLine_of_padding {padding : List UInt8}
    (h : ∀ byte ∈ padding, Octet.isBlank byte) :
    OpeningLine (padding ++ [Octet.cr, Octet.lf]) := by
  induction padding with
  | nil => exact .crlf
  | cons byte padding ih =>
      rw [List.forall_mem_cons] at h
      exact .blank h.1 (ih h.2)

/-- No opening line goes on as another one. -/
theorem OpeningLine.eq_of_append {first second more : List UInt8} (hfirst : OpeningLine first)
    (hsecond : OpeningLine second) (h : first ++ rest = second ++ more) : first = second := by
  induction hfirst generalizing second with
  | lf =>
      cases hsecond with
      | lf => rfl
      | crlf => exact absurd (List.cons.inj h).1 (by decide)
      | blank hblank _ =>
          rw [← (List.cons.inj h).1] at hblank
          exact absurd hblank (by decide)
  | crlf =>
      cases hsecond with
      | lf => exact absurd (List.cons.inj h).1 (by decide)
      | crlf => rfl
      | blank hblank _ =>
          rw [← (List.cons.inj h).1] at hblank
          exact absurd hblank (by decide)
  | blank hblank _ ih =>
      cases hsecond with
      | lf =>
          rw [(List.cons.inj h).1] at hblank
          exact absurd hblank (by decide)
      | crlf =>
          rw [(List.cons.inj h).1] at hblank
          exact absurd hblank (by decide)
      | blank _ hline => rw [(List.cons.inj h).1, ih hline (List.cons.inj h).2]

theorem OpeningLine.not_dash_of_front (h : OpeningLine line) (hfront : line <+: text) :
    ¬[Octet.dash] <+: text := by
  obtain ⟨rest, rfl⟩ := hfront
  cases line with
  | nil => cases h
  | cons value line =>
      intro hdash
      exact h.head_ne_dash (List.cons_prefix_cons.mp hdash).1.symm

theorem dash_prefix_of_two (h : [Octet.dash, Octet.dash] <+: text) : [Octet.dash] <+: text :=
  (List.prefix_append [Octet.dash] [Octet.dash]).trans h

/-! ## Lines that break -/

/-- A line is read that is not an opening one. Reading it ends with a byte after which no opening
line is left, or with the text. -/
inductive BrokenLine : List UInt8 → List UInt8 → Prop
  | ended : BrokenLine [] []
  | endedAfterCr : BrokenLine [Octet.cr] []
  | bareCr {value : UInt8} {left : List UInt8} :
      value ≠ Octet.lf → BrokenLine [Octet.cr, value] left
  | other {value : UInt8} {left : List UInt8} : ¬Octet.isBlank value → value ≠ Octet.lf →
      value ≠ Octet.cr → BrokenLine [value] left
  | blank {value : UInt8} {read left : List UInt8} :
      Octet.isBlank value → BrokenLine read left → BrokenLine (value :: read) left

/-- Every text starts with an opening line or with one that breaks. -/
theorem opening_or_broken (text : List UInt8) :
    (∃ line rest, OpeningLine line ∧ text = line ++ rest) ∨
      ∃ read left, BrokenLine read left ∧ text = read ++ left := by
  induction text with
  | nil => exact .inr ⟨[], [], .ended, rfl⟩
  | cons value text ih =>
      by_cases hblank : Octet.isBlank value
      · rcases ih with ⟨line, rest, hline, rfl⟩ | ⟨read, left, hread, rfl⟩
        · exact .inl ⟨value :: line, rest, .blank hblank hline, rfl⟩
        · exact .inr ⟨value :: read, left, .blank hblank hread, rfl⟩
      · by_cases hlf : value = Octet.lf
        · exact .inl ⟨[Octet.lf], text, .lf, by rw [hlf]; rfl⟩
        · by_cases hcr : value = Octet.cr
          · subst hcr
            cases text with
            | nil => exact .inr ⟨[Octet.cr], [], .endedAfterCr, rfl⟩
            | cons second text =>
                by_cases hsecond : second = Octet.lf
                · exact .inl ⟨[Octet.cr, Octet.lf], text, .crlf, by rw [hsecond]; rfl⟩
                · exact .inr ⟨[Octet.cr, second], text, .bareCr hsecond, rfl⟩
          · exact .inr ⟨[value], text, .other hblank hlf hcr, rfl⟩

theorem BrokenLine.not_opening (h : BrokenLine read left) (hline : OpeningLine line) :
    ¬line <+: read ++ left := by
  induction h generalizing line with
  | ended =>
      intro hfront
      cases hline <;> simp at hfront
  | endedAfterCr =>
      intro hfront
      cases hline with
      | lf => exact absurd (List.cons_prefix_cons.mp hfront).1 (by decide)
      | crlf => simp at hfront
      | blank hblank _ =>
          rw [(List.cons_prefix_cons.mp hfront).1] at hblank
          exact absurd hblank (by decide)
  | bareCr hvalue =>
      intro hfront
      cases hline with
      | lf => exact absurd (List.cons_prefix_cons.mp hfront).1 (by decide)
      | crlf => simp [hvalue.symm] at hfront
      | blank hblank _ =>
          rw [(List.cons_prefix_cons.mp hfront).1] at hblank
          exact absurd hblank (by decide)
  | other hblank hlf hcr =>
      intro hfront
      cases hline with
      | lf => simp [hlf.symm] at hfront
      | crlf => simp [hcr.symm] at hfront
      | blank hfirst _ =>
          rw [(List.cons_prefix_cons.mp hfront).1] at hfirst
          exact hblank hfirst
  | blank hblank _ ih =>
      intro hfront
      cases hline with
      | lf =>
          rw [← (List.cons_prefix_cons.mp hfront).1] at hblank
          exact absurd hblank (by decide)
      | crlf =>
          rw [← (List.cons_prefix_cons.mp hfront).1] at hblank
          exact absurd hblank (by decide)
      | blank _ hrest => exact ih hrest (List.cons_prefix_cons.mp hfront).2

/-- As long as a line is not broken it may go on as an opening one. -/
theorem BrokenLine.opens_of_take (h : BrokenLine read left) {fewer : Nat}
    (hfewer : fewer < read.length) : ∃ more, OpeningLine (read.take fewer ++ more) := by
  induction h generalizing fewer with
  | ended => cases hfewer
  | endedAfterCr =>
      obtain rfl : fewer = 0 := by simpa using hfewer
      exact ⟨[Octet.lf], .lf⟩
  | bareCr hvalue =>
      cases fewer with
      | zero => exact ⟨[Octet.lf], .lf⟩
      | succ fewer =>
          obtain rfl : fewer = 0 := by simpa using Nat.lt_of_succ_lt_succ hfewer
          exact ⟨[Octet.lf], .crlf⟩
  | other hblank hlf hcr =>
      obtain rfl : fewer = 0 := by simpa using hfewer
      exact ⟨[Octet.lf], .lf⟩
  | @blank value read left hblank _ ih =>
      cases fewer with
      | zero => exact ⟨[Octet.lf], .lf⟩
      | succ fewer =>
          obtain ⟨more, hmore⟩ := ih (Nat.lt_of_succ_lt_succ hfewer)
          exact ⟨more, .blank hblank hmore⟩

/-- A line that is broken before the text ends is broken whatever follows. -/
theorem BrokenLine.ended_or_forall (h : BrokenLine read left) :
    left = [] ∨ ∀ more, BrokenLine read more := by
  induction h with
  | ended => exact .inl rfl
  | endedAfterCr => exact .inl rfl
  | bareCr hvalue => exact .inr fun _ => .bareCr hvalue
  | other hblank hlf hcr => exact .inr fun _ => .other hblank hlf hcr
  | blank hblank _ ih =>
      rcases ih with hleft | hall
      · exact .inl hleft
      · exact .inr fun more => .blank hblank (hall more)

theorem BrokenLine.not_accepted (h : BrokenLine read left)
    (hdash : ¬[Octet.dash] <+: read ++ left) : ¬Accepted (read ++ left) := by
  rintro (⟨line, hline, hfront⟩ | hfront)
  · exact h.not_opening hline hfront
  · exact hdash (dash_prefix_of_two hfront)

theorem BrokenLine.breaksAt (h : BrokenLine read left) (hdash : ¬[Octet.dash] <+: read ++ left) :
    BreaksAt (read ++ left) read.length := by
  constructor
  · rw [List.length_append]
    exact Nat.le_add_right _ _
  · intro fewer hfewer hruled
    obtain ⟨more, hmore⟩ := h.opens_of_take hfewer
    rw [List.take_append_of_le_length (Nat.le_of_lt hfewer)] at hruled
    exact hruled more (.inl ⟨_, hmore, List.prefix_refl _⟩)
  · rw [List.take_left]
    rcases h.ended_or_forall with rfl | hall
    · right
      rw [List.append_nil]
    · by_cases hread : read = []
      · subst hread
        right
        cases hall [Octet.lf]
      · left
        intro more
        apply (hall more).not_accepted
        intro hfront
        apply hdash
        cases read with
        | nil => exact absurd rfl hread
        | cons first read =>
            rw [List.cons_append, List.cons_prefix_cons] at hfront ⊢
            exact ⟨hfront.1, List.nil_prefix⟩

/-! ## Reading a line -/

theorem endLine_of_opening (hline : OpeningLine line) (h : cursor.Faces offset (line ++ rest)) :
    ∃ first between after, next cursor = .ok first between ∧ first = (line ++ rest).head? ∧
      endLine .opening first between = .ok .opening after ∧
      after.Faces (offset + line.length) rest := by
  induction hline generalizing cursor offset with
  | lf =>
      obtain ⟨after, hnext, hafter⟩ := next_of_faces h
      refine ⟨_, after, after, hnext, rfl, ?_, hafter⟩
      rw [endLine_of_not_blank .opening (by decide), if_pos rfl]
  | crlf =>
      obtain ⟨between, hnext, hbetween⟩ := next_of_faces h
      obtain ⟨after, hlast, hafter⟩ := next_of_faces hbetween
      refine ⟨_, between, after, hnext, rfl, ?_, hafter⟩
      rw [endLine_of_not_blank .opening (by decide), if_neg (by decide), if_pos rfl, hlast]
      exact if_pos rfl
  | @blank value line hblank _ ih =>
      obtain ⟨between, hnext, hbetween⟩ := next_of_faces h
      obtain ⟨first, second, after, hfirst, -, hend, hafter⟩ := ih hbetween
      refine ⟨_, between, after, hnext, rfl, ?_, ?_⟩
      · rw [endLine_of_blank .opening hblank, hfirst]
        exact hend
      · rw [List.length_cons, Nat.add_comm line.length, ← Nat.add_assoc]
        exact hafter

/-- A line that is broken is read up to where it breaks. -/
theorem endLine_of_broken (hread : BrokenLine read left)
    (h : cursor.Faces offset (read ++ left)) :
    ∃ first between after, next cursor = .ok first between ∧ first = (read ++ left).head? ∧
      endLine .opening first between =
        .error (.unendedDelimiterLine (offset + read.length)) after ∧
      after.Faces (offset + read.length) left := by
  induction hread generalizing cursor offset with
  | ended =>
      obtain ⟨after, hnext, hafter⟩ := h.next_nil
      refine ⟨none, after, after, next_eq_ok_of_cursor hnext, rfl, ?_, hafter⟩
      rw [endLine_none, endLineEarly, hafter.position_eq]
      rfl
  | endedAfterCr =>
      obtain ⟨between, hnext, hbetween⟩ := next_of_faces h
      obtain ⟨after, hend, hafter⟩ := hbetween.next_nil
      refine ⟨_, between, after, hnext, rfl, ?_, hafter⟩
      rw [endLine_of_not_blank .opening (by decide), if_neg (by decide), if_pos rfl,
        next_eq_ok_of_cursor hend]
      simp only [reduceCtorEq, ite_false, endLineEarly, hafter.position_eq]
      rfl
  | bareCr hvalue =>
      obtain ⟨between, hnext, hbetween⟩ := next_of_faces h
      obtain ⟨after, hlast, hafter⟩ := next_of_faces hbetween
      refine ⟨_, between, after, hnext, rfl, ?_, hafter⟩
      rw [endLine_of_not_blank .opening (by decide), if_neg (by decide), if_pos rfl, hlast]
      simp only [Option.some.injEq, hvalue, ite_false, endLineEarly, hafter.position_eq]
      rfl
  | other hblank hlf hcr =>
      obtain ⟨after, hnext, hafter⟩ := next_of_faces h
      refine ⟨_, after, after, hnext, rfl, ?_, hafter⟩
      rw [endLine_of_not_blank .opening hblank, if_neg hlf, if_neg hcr, endLineEarly,
        hafter.position_eq]
      rfl
  | @blank value read left hblank _ ih =>
      obtain ⟨between, hnext, hbetween⟩ := next_of_faces h
      obtain ⟨first, second, after, hfirst, -, hend, hafter⟩ := ih hbetween
      have hlength : offset + (value :: read).length = offset + 1 + read.length := by
        rw [List.length_cons]
        omega
      refine ⟨_, between, after, hnext, rfl, ?_, ?_⟩
      · rw [endLine_of_blank .opening hblank, hfirst, hlength]
        exact hend
      · rw [hlength]
        exact hafter

/-! ## The rest of a delimiter line -/

/-- What comes of reading the rest of a delimiter line, by the text that it starts. -/
inductive LineRead (offset : Nat) (text : List UInt8) :
    EStateM.Result Error Cursor DelimiterKind → Prop
  | opening {line rest : List UInt8} {after : Cursor} : OpeningLine line → text = line ++ rest →
      after.Faces (offset + line.length) rest → LineRead offset text (.ok .opening after)
  | closing {after : Cursor} :
      [Octet.dash, Octet.dash] <+: text → LineRead offset text (.ok .closing after)
  | loneHyphen {count : Nat} {after : Cursor} : [Octet.dash] <+: text →
      ¬[Octet.dash, Octet.dash] <+: text → BreaksAt text count →
      after.Faces (offset + count) (text.drop count) →
      LineRead offset text (.error (.loneHyphen (offset + count)) after)
  | unended {count : Nat} {after : Cursor} : ¬[Octet.dash] <+: text → ¬Accepted text →
      BreaksAt text count → after.Faces (offset + count) (text.drop count) →
      LineRead offset text (.error (.unendedDelimiterLine (offset + count)) after)

theorem not_accepted_of_dash (hdash : [Octet.dash] <+: text)
    (htwo : ¬[Octet.dash, Octet.dash] <+: text) : ¬Accepted text := by
  rintro (⟨line, hline, hfront⟩ | hfront)
  · exact hline.not_dash_of_front hfront hdash
  · exact htwo hfront

theorem not_ruledOut_nil : ¬RuledOut [] := by
  intro hruled
  exact hruled [Octet.lf] (.inl ⟨[Octet.lf], .lf, List.prefix_refl _⟩)

theorem not_ruledOut_dash : ¬RuledOut [Octet.dash] := by
  intro hruled
  exact hruled [Octet.dash] (.inr (List.prefix_refl _))

theorem breaksAt_dash : BreaksAt [Octet.dash] 1 := by
  constructor
  · exact Nat.le_refl 1
  · intro fewer hfewer
    obtain rfl : fewer = 0 := Nat.lt_one_iff.mp hfewer
    exact not_ruledOut_nil
  · exact .inr rfl

theorem breaksAt_dash_cons (hvalue : value ≠ Octet.dash) :
    BreaksAt (Octet.dash :: value :: text) 2 := by
  constructor
  · simp
  · intro fewer hfewer
    cases fewer with
    | zero => exact not_ruledOut_nil
    | succ fewer =>
        obtain rfl : fewer = 0 := Nat.lt_one_iff.mp (Nat.lt_of_succ_lt_succ hfewer)
        exact not_ruledOut_dash
  · left
    intro more
    apply not_accepted_of_dash
    · simp
    · simp [hvalue.symm]

theorem head?_ne_dash (h : ¬[Octet.dash] <+: text) : text.head? ≠ some Octet.dash := by
  intro hhead
  obtain ⟨rest, rfl⟩ := List.head?_eq_some_iff.mp hhead
  exact h (List.prefix_append [Octet.dash] rest)

theorem delimiterLine_of_head {first : Option UInt8} (hnext : next cursor = .ok first after)
    (hfirst : first ≠ some Octet.dash) : delimiterLine cursor = endLine .opening first after := by
  simp only [delimiterLine, hnext, if_neg hfirst]

/-- An opening line is read to its end and no further. -/
theorem delimiterLine_of_opening (hline : OpeningLine line)
    (h : cursor.Faces offset (line ++ rest)) :
    ∃ after, delimiterLine cursor = .ok .opening after ∧
      after.Faces (offset + line.length) rest := by
  have hdash := hline.not_dash_of_front (List.prefix_append line rest)
  obtain ⟨first, between, after, hnext, rfl, hend, hafter⟩ := endLine_of_opening hline h
  rw [delimiterLine_of_head hnext (head?_ne_dash hdash), hend]
  exact ⟨after, rfl, hafter⟩

theorem lineRead_of_dash (h : cursor.Faces offset (Octet.dash :: text)) :
    LineRead offset (Octet.dash :: text) (delimiterLine cursor) := by
  obtain ⟨between, hfirst, hbetween⟩ := next_of_faces h
  cases text with
  | nil =>
      obtain ⟨after, hend, hafter⟩ := hbetween.next_nil
      simp only [delimiterLine, hfirst, ite_true, next_eq_ok_of_cursor hend, reduceCtorEq,
        ite_false, hafter.position_eq]
      exact .loneHyphen (List.prefix_refl _) (by simp) breaksAt_dash hafter
  | cons value text =>
      by_cases hvalue : value = Octet.dash
      · subst hvalue
        obtain ⟨after, hafter⟩ := delimiterLine_closing h
        rw [hafter]
        exact .closing (List.prefix_append _ _)
      · obtain ⟨after, hsecond, hafter⟩ := next_of_faces hbetween
        simp only [delimiterLine, hfirst, ite_true, hsecond, Option.some.injEq, hvalue, ite_false,
          hafter.position_eq]
        exact .loneHyphen (List.prefix_append _ _) (by simp [Ne.symm hvalue])
          (breaksAt_dash_cons hvalue) hafter

theorem lineRead_delimiterLine (h : cursor.Faces offset text) :
    LineRead offset text (delimiterLine cursor) := by
  by_cases hdash : [Octet.dash] <+: text
  · obtain ⟨rest, rfl⟩ := hdash
    exact lineRead_of_dash h
  · rcases opening_or_broken text with ⟨line, rest, hline, rfl⟩ | ⟨read, left, hread, rfl⟩
    · obtain ⟨after, hresult, hafter⟩ := delimiterLine_of_opening hline h
      rw [hresult]
      exact .opening hline rfl hafter
    · obtain ⟨first, between, after, hnext, rfl, hend, hafter⟩ := endLine_of_broken hread h
      rw [delimiterLine_of_head hnext (head?_ne_dash hdash), hend]
      apply LineRead.unended hdash (hread.not_accepted hdash) (hread.breaksAt hdash)
      rwa [List.drop_left]

section

variable {result : EStateM.Result Error Cursor DelimiterKind}

theorem LineRead.opening_iff (h : LineRead offset text result) :
    (∃ after, result = .ok .opening after) ↔ ∃ line, OpeningLine line ∧ line <+: text := by
  constructor
  · rintro ⟨after, rfl⟩
    cases h with
    | opening hline htext _ => exact ⟨_, hline, _, htext.symm⟩
  · rintro ⟨line, hline, hfront⟩
    have hdash := hline.not_dash_of_front hfront
    cases h with
    | opening _ _ _ => exact ⟨_, rfl⟩
    | closing htwo => exact absurd (dash_prefix_of_two htwo) hdash
    | loneHyphen hone _ _ _ => exact absurd hone hdash
    | unended _ hnone _ _ => exact absurd (.inl ⟨line, hline, hfront⟩) hnone

theorem LineRead.closing_iff (h : LineRead offset text result) :
    (∃ after, result = .ok .closing after) ↔ [Octet.dash, Octet.dash] <+: text := by
  constructor
  · rintro ⟨after, rfl⟩
    cases h with
    | closing htwo => exact htwo
  · intro htwo
    cases h with
    | opening hline htext _ =>
        exact absurd (dash_prefix_of_two htwo) (hline.not_dash_of_front ⟨_, htext.symm⟩)
    | closing _ => exact ⟨_, rfl⟩
    | loneHyphen _ hnot _ _ => exact absurd htwo hnot
    | unended hdash _ _ _ => exact absurd (dash_prefix_of_two htwo) hdash

theorem LineRead.loneHyphen_iff (h : LineRead offset text result) :
    (∃ position after, result = .error (.loneHyphen position) after) ↔
      [Octet.dash] <+: text ∧ ¬[Octet.dash, Octet.dash] <+: text := by
  constructor
  · rintro ⟨position, after, rfl⟩
    cases h with
    | loneHyphen hone hnot _ _ => exact ⟨hone, hnot⟩
  · rintro ⟨hone, hnot⟩
    cases h with
    | opening hline htext _ => exact absurd hone (hline.not_dash_of_front ⟨_, htext.symm⟩)
    | closing htwo => exact absurd htwo hnot
    | loneHyphen _ _ _ _ => exact ⟨_, _, rfl⟩
    | unended hdash _ _ _ => exact absurd hone hdash

theorem LineRead.unended_iff (h : LineRead offset text result) :
    (∃ position after, result = .error (.unendedDelimiterLine position) after) ↔
      (¬∃ line, OpeningLine line ∧ line <+: text) ∧ ¬[Octet.dash] <+: text := by
  constructor
  · rintro ⟨position, after, rfl⟩
    cases h with
    | unended hdash hnone _ _ => exact ⟨fun hopens => hnone (.inl hopens), hdash⟩
  · rintro ⟨hnone, hdash⟩
    cases h with
    | opening hline htext _ => exact absurd ⟨_, hline, _, htext.symm⟩ hnone
    | closing htwo => exact absurd (dash_prefix_of_two htwo) hdash
    | loneHyphen hone _ _ _ => exact absurd hone hdash
    | unended _ _ _ _ => exact ⟨_, _, rfl⟩

end

/-- What the rest of a delimiter line is read as, by the text that it starts. -/
structure ReadsLine (cursor : Cursor) (offset : Nat) (text : List UInt8) : Prop where
  opening : (∃ after, delimiterLine cursor = .ok .opening after) ↔
    ∃ line, OpeningLine line ∧ line <+: text
  closing : (∃ after, delimiterLine cursor = .ok .closing after) ↔
    [Octet.dash, Octet.dash] <+: text
  loneHyphen : (∃ position after, delimiterLine cursor = .error (.loneHyphen position) after) ↔
    [Octet.dash] <+: text ∧ ¬[Octet.dash, Octet.dash] <+: text
  unended :
    (∃ position after, delimiterLine cursor = .error (.unendedDelimiterLine position) after) ↔
      (¬∃ line, OpeningLine line ∧ line <+: text) ∧ ¬[Octet.dash] <+: text
  /-- The opening line that a text starts with is read, and nothing after it. -/
  opening_reads : ∀ line rest after, OpeningLine line → text = line ++ rest →
    delimiterLine cursor = .ok .opening after → after.Faces (offset + line.length) rest
  /-- There are no other errors. A text that is refused is read up to where it breaks, which is the
  offset that the error tells. -/
  error_reads : ∀ error after, delimiterLine cursor = .error error after →
    ∃ count, BreaksAt text count ∧ after.Faces (offset + count) (text.drop count) ∧
      (error = .loneHyphen (offset + count) ∨ error = .unendedDelimiterLine (offset + count))

/-- On a stream without faults the rest of a delimiter line is read by its grammar, and a text that
is refused is read up to the first byte that rules it out, or to its end. -/
theorem delimiterLine_reads_grammar (h : cursor.Faces offset text) :
    ReadsLine cursor offset text := by
  have hread := lineRead_delimiterLine h
  refine ⟨hread.opening_iff, hread.closing_iff, hread.loneHyphen_iff, hread.unended_iff, ?_, ?_⟩
  · intro line rest after hline htext hresult
    rw [hresult] at hread
    cases hread with
    | opening hother hsplit hafter =>
        rw [htext] at hsplit
        obtain rfl := hline.eq_of_append hother hsplit
        rwa [List.append_cancel_left hsplit]
  · intro error after hresult
    rw [hresult] at hread
    cases hread with
    | loneHyphen _ _ hbreaks hafter => exact ⟨_, hbreaks, hafter, .inl rfl⟩
    | unended _ _ hbreaks hafter => exact ⟨_, hbreaks, hafter, .inr rfl⟩

/-- Padding, and a carriage return that does not belong to a line end. -/
def strayReturn : Cursor :=
  .ofSource (.ofBytes [Octet.space, Octet.tab, Octet.cr, 65, Octet.lf]) 2

theorem delimiterLine_reads_grammar_stray_return :
    ReadsLine strayReturn 0 [Octet.space, Octet.tab, Octet.cr, 65, Octet.lf] ∧
      ∃ after, delimiterLine strayReturn = .error (.unendedDelimiterLine 4) after := by
  refine ⟨delimiterLine_reads_grammar (Cursor.faces_ofBytes _ 2), ?_⟩
  have hcheck : (match delimiterLine strayReturn with
    | .ok _ _ => false
    | .error error _ => decide (error = .unendedDelimiterLine 4)) = true := by decide +kernel
  cases hresult : delimiterLine strayReturn with
  | ok kind after => simp [hresult] at hcheck
  | error error after =>
      rw [hresult] at hcheck
      obtain rfl := of_decide_eq_true hcheck
      exact ⟨after, rfl⟩

end Multipart.Scan
