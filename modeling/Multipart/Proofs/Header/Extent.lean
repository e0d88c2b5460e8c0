import Multipart.Proofs.Cursor.Faultless
import Multipart.Proofs.Header.Limit

/-! # How far a header block is read

On a stream without faults a header block is the lines before the first blank line. It is read with
that line and no further if its size is within the limit, and is refused otherwise. In either case
no more is read than the limit and a blank line. -/

namespace Multipart.Header

open Octet (firstLine)

/-- The lines before the first blank line, or all lines if none is blank. -/
def blockLines (text : List UInt8) : List (List UInt8) :=
  (Octet.lines text).takeWhile fun line => !isBlankLine line

/-- The bytes before the first blank line. -/
def blockBytes (text : List UInt8) : List UInt8 :=
  (blockLines text).flatten

def blankLine (text : List UInt8) : List UInt8 :=
  ((Octet.lines text).find? isBlankLine).getD []

/-- The size of a header block with the blank line that ends it. -/
def extent (text : List UInt8) : Nat :=
  (blockBytes text).length + (blankLine text).length

variable {limit size offset : Nat} {taken : List (List UInt8)} {cursor between : Cursor}
  {text : List UInt8}

/-! ## Line by line -/

theorem blockLines_of_blank (hne : text ≠ []) (h : isBlankLine (firstLine text)) :
    blockLines text = [] := by
  rw [blockLines, Octet.lines, Text.cutLines_eq_cons hne, List.takeWhile_cons_of_neg (by simp [h])]

theorem blockLines_of_line (hne : text ≠ []) (h : ¬isBlankLine (firstLine text)) :
    blockLines text = firstLine text :: blockLines (text.drop (firstLine text).length) := by
  rw [blockLines, Octet.lines, Text.cutLines_eq_cons hne, List.takeWhile_cons_of_pos (by simp [h])]
  rfl

theorem length_blockBytes_of_line (hne : text ≠ []) (h : ¬isBlankLine (firstLine text)) :
    (blockBytes text).length =
      (firstLine text).length + (blockBytes (text.drop (firstLine text).length)).length := by
  rw [blockBytes, blockLines_of_line hne h, List.flatten_cons, List.length_append, ← blockBytes]

theorem blankLine_of_blank (hne : text ≠ []) (h : isBlankLine (firstLine text)) :
    blankLine text = firstLine text := by
  rw [blankLine, Octet.lines, Text.cutLines_eq_cons hne, List.find?_cons_of_pos h, Option.getD_some]

theorem blankLine_of_line (hne : text ≠ []) (h : ¬isBlankLine (firstLine text)) :
    blankLine text = blankLine (text.drop (firstLine text).length) := by
  rw [blankLine, Octet.lines, Text.cutLines_eq_cons hne, List.find?_cons_of_neg h]
  rfl

theorem length_blankLine_le (text : List UInt8) : (blankLine text).length ≤ 2 := by
  rw [blankLine]
  cases hfind : (Octet.lines text).find? isBlankLine with
  | none => simp
  | some line =>
      have hblank := List.find?_some hfind
      simp only [isBlankLine, Bool.or_eq_true, beq_iff_eq] at hblank
      rcases hblank with rfl | rfl <;> simp

theorem extent_of_blank (hne : text ≠ []) (h : isBlankLine (firstLine text)) :
    extent text = (firstLine text).length := by
  rw [extent, blockBytes, blockLines_of_blank hne h, blankLine_of_blank hne h, List.flatten_nil,
    List.length_nil, Nat.zero_add]

theorem extent_of_line (hne : text ≠ []) (h : ¬isBlankLine (firstLine text)) :
    extent text = (firstLine text).length + extent (text.drop (firstLine text).length) := by
  rw [extent, length_blockBytes_of_line hne h, blankLine_of_line hne h, Nat.add_assoc, ← extent]

/-! ## The next line -/

/-- The next line is read, or as much of it as the limit and a blank line leave. -/
theorem nextLine_of_faces (h : cursor.Faces offset text) (limit size : Nat) :
    ∃ after, nextLine limit size cursor =
        ⟨(firstLine text).take (addCapped (limit - size) 2), none, after⟩ ∧
      after.Faces (offset + ((firstLine text).take (addCapped (limit - size) 2)).length)
        (text.drop ((firstLine text).take (addCapped (limit - size) 2)).length) :=
  h.gather_firstLine (· = Octet.lf) (addCapped (limit - size) 2)

theorem nextLine_whole (h : cursor.Faces offset text)
    (hwhole : (firstLine text).length ≤ addCapped (limit - size) 2) :
    ∃ after, nextLine limit size cursor = ⟨firstLine text, none, after⟩ ∧
      after.Faces (offset + (firstLine text).length) (text.drop (firstLine text).length) := by
  have hline := nextLine_of_faces h limit size
  rwa [List.take_of_length_le hwhole] at hline

theorem nextLine_at_end (h : cursor.Faces offset []) (limit size : Nat) :
    ∃ after, nextLine limit size cursor = ⟨[], none, after⟩ ∧ after.Faces offset [] := by
  have hwhole : (firstLine []).length ≤ addCapped (limit - size) 2 := Nat.zero_le _
  exact nextLine_whole h hwhole

theorem two_le_addCapped (count : Nat) : 2 ≤ addCapped count 2 := by
  have hmax : 2 ≤ maxWord := by decide
  rw [addCapped]
  omega

theorem not_endsBlock_firstLine (hne : text ≠ []) (h : ¬isBlankLine (firstLine text)) :
    ¬endsBlock (firstLine text) := by
  simp only [endsBlock, Bool.or_eq_true, List.isEmpty_iff, not_or]
  exact ⟨Text.firstLine_ne_nil hne, h⟩

/-- A line that is cut short is not taken for a blank one. -/
theorem not_endsBlock_take {count : Nat} (hne : text ≠ []) (hcount : 0 < count)
    (h : ¬isBlankLine (firstLine text)) : ¬endsBlock ((firstLine text).take count) := by
  by_cases hwhole : (firstLine text).length ≤ count
  · rw [List.take_of_length_le hwhole]
    exact not_endsBlock_firstLine hne h
  · intro hends
    -- What ends a block has a line feed, and so is the whole line.
    have hshort : Octet.lf ∉ (firstLine text).take count := by
      intro hmem
      exact Text.not_last_of_mem_take (Nat.lt_of_not_le hwhole) hmem (by simp)
    rcases eq_of_endsBlock hends with hnil | hcrlf | hlf
    · rcases List.take_eq_nil_iff.mp hnil with hzero | hline
      · exact absurd hzero (Nat.ne_of_gt hcount)
      · exact Text.firstLine_ne_nil hne hline
    · exact hshort (by rw [hcrlf]; simp)
    · exact hshort (by rw [hlf]; simp)

/-- A line that is within the limit joins the block. -/
theorem readLines_firstLine (taken : List (List UInt8)) (h : cursor.Faces offset text)
    (hne : text ≠ []) (hblank : ¬isBlankLine (firstLine text))
    (hfits : size + (firstLine text).length ≤ limit) (hword : (firstLine text).length ≤ maxWord) :
    ∃ between, readLines limit taken size cursor =
        readLines limit (firstLine text :: taken) (size + (firstLine text).length) between ∧
      between.Faces (offset + (firstLine text).length) (text.drop (firstLine text).length) := by
  have hwhole : (firstLine text).length ≤ addCapped (limit - size) 2 := by
    rw [addCapped]
    omega
  obtain ⟨between, hline, hbetween⟩ := nextLine_whole h hwhole
  refine ⟨between, ?_, hbetween⟩
  have hends : ¬endsBlock (nextLine limit size cursor).bytes := by
    rw [hline]
    exact not_endsBlock_firstLine hne hblank
  have hlong : ¬limit < size + (nextLine limit size cursor).bytes.length := by
    rw [hline]
    exact Nat.not_lt.mpr hfits
  rw [readLines_of_line (by rw [hline]) hends hlong, hline]

/-! ## A block within the limit -/

/-- The lines of a block that is within the limit are read, and the blank line after them. -/
theorem readLines_of_fits (taken : List (List UInt8)) (h : cursor.Faces offset text)
    (hfits : size + (blockBytes text).length ≤ limit)
    (hword : (blockBytes text).length ≤ maxWord) :
    ∃ after, readLines limit taken size cursor = .ok (taken.reverse ++ blockLines text) after ∧
      after.Faces (offset + extent text) (text.drop (extent text)) := by
  induction text using Octet.lines_induction generalizing taken size cursor offset with
  | nil =>
      obtain ⟨after, hline, hafter⟩ := nextLine_at_end h limit size
      refine ⟨after, ?_, hafter⟩
      rw [readLines_of_end (by rw [hline]) (by rw [hline]; rfl), hline]
      simp [blockLines, Text.cutLines]
  | line text hne ih =>
      by_cases hblank : isBlankLine (firstLine text)
      · have hends : endsBlock (firstLine text) := by simp [endsBlock, hblank]
        have htwo := length_blankLine_le text
        rw [blankLine_of_blank hne hblank] at htwo
        obtain ⟨after, hline, hafter⟩ :=
          nextLine_whole h (Nat.le_trans htwo (two_le_addCapped (limit - size)))
        refine ⟨after, ?_, by rwa [extent_of_blank hne hblank]⟩
        rw [readLines_of_end (by rw [hline]) (by rw [hline]; exact hends), hline,
          blockLines_of_blank hne hblank, List.append_nil]
      · have hsize := length_blockBytes_of_line hne hblank
        have hfirst : size + (firstLine text).length ≤ limit := by omega
        have hrest : size + (firstLine text).length +
            (blockBytes (text.drop (firstLine text).length)).length ≤ limit := by omega
        obtain ⟨between, hline, hbetween⟩ :=
          readLines_firstLine taken h hne hblank hfirst (by omega)
        obtain ⟨after, hafter, hlast⟩ := ih (firstLine text :: taken) hbetween hrest (by omega)
        refine ⟨after, ?_, ?_⟩
        · rw [hline, hafter, blockLines_of_line hne hblank]
          simp
        · rwa [extent_of_line hne hblank, ← List.drop_drop, ← Nat.add_assoc]

/-! ## A block beyond the limit -/

/-- A block that is not within the limit is refused when the limit and a blank line are read, at the
latest. -/
theorem readLines_of_exceeds (taken : List (List UInt8)) (h : cursor.Faces offset text)
    (hsize : size ≤ limit) (hexceeds : limit < size + (blockBytes text).length)
    (hword : limit < maxWord ∨ size + (blockBytes text).length ≤ maxWord) :
    ∃ count after, readLines limit taken size cursor = .error (.headerTooLong limit) after ∧
      size + count ≤ limit + 2 ∧ after.Faces (offset + count) (text.drop count) := by
  induction text using Octet.lines_induction generalizing taken size cursor offset with
  | nil => exact absurd hexceeds (by simp [blockBytes, blockLines, Text.cutLines, hsize])
  | line text hne ih =>
      have hblank : ¬isBlankLine (firstLine text) := by
        intro hblank
        rw [blockBytes, blockLines_of_blank hne hblank, List.flatten_nil,
          List.length_nil] at hexceeds
        omega
      have hbytes := length_blockBytes_of_line hne hblank
      by_cases hfits : size + (firstLine text).length ≤ limit
      · obtain ⟨between, hline, hbetween⟩ :=
          readLines_firstLine taken h hne hblank hfits (by omega)
        obtain ⟨count, after, hafter, hcount, hlast⟩ :=
          ih (firstLine text :: taken) hbetween hfits (by omega) (by omega)
        refine ⟨(firstLine text).length + count, after, ?_, by omega, ?_⟩
        · rw [hline, hafter]
        · rwa [← List.drop_drop, ← Nat.add_assoc]
      · -- Two bytes beyond the limit may be read, or all that a word can count: more than fits.
        obtain ⟨after, hline, hafter⟩ := nextLine_of_faces h limit size
        have hpos := Nat.lt_of_lt_of_le Nat.zero_lt_two (two_le_addCapped (limit - size))
        have hlong : limit <
            size + ((firstLine text).take (addCapped (limit - size) 2)).length := by
          rw [List.length_take, addCapped]
          omega
        refine ⟨_, after, ?_, ?_, hafter⟩
        · rw [readLines_of_tooLong (by rw [hline])
            (by rw [hline]; exact not_endsBlock_take hne hpos hblank)
            (by rw [hline]; exact hlong), hline]
        · rw [List.length_take, addCapped]
          omega

/-! ## Rounds -/

/-- Reading a block from `cursor` is about to read another line, after some lines of `size` bytes,
which are given in reverse. -/
inductive Round (limit : Nat) (cursor : Cursor) : List (List UInt8) → Nat → Cursor → Prop
  | first : Round limit cursor [] 0 cursor
  | next {taken : List (List UInt8)} {size : Nat} {between : Cursor} :
      Round limit cursor taken size between →
      (nextLine limit size between).failure = none →
      ¬endsBlock (nextLine limit size between).bytes →
      ¬limit < size + (nextLine limit size between).bytes.length →
      Round limit cursor ((nextLine limit size between).bytes :: taken)
        (size + (nextLine limit size between).bytes.length) (nextLine limit size between).cursor

theorem Round.readLines_eq (h : Round limit cursor taken size between) :
    readLines limit [] 0 cursor = readLines limit taken size between := by
  induction h with
  | first => rfl
  | next _ hnone hends hfits ih => rw [ih, readLines_of_line hnone hends hfits]

theorem Round.size_eq (h : Round limit cursor taken size between) :
    size = taken.flatten.length := by
  induction h with
  | first => rfl
  | next _ _ _ _ ih => rw [List.flatten_cons, List.length_append, ← ih, Nat.add_comm]

/-- What is left of the limit is not negative. -/
theorem Round.size_le (h : Round limit cursor taken size between) : size ≤ limit := by
  induction h with
  | first => exact Nat.zero_le limit
  | next _ _ _ hfits _ => exact Nat.le_of_not_lt hfits

/-! ## The whole block -/

/-- A text is a block, the blank line after it, and the rest. -/
theorem blockBytes_append (text : List UInt8) :
    blockBytes text ++ blankLine text ++ text.drop (extent text) = text := by
  induction text using Octet.lines_induction with
  | nil => rfl
  | line text hne ih =>
      have hfirst : firstLine text ++ text.drop (firstLine text).length = text :=
        Text.firstLine_append_drop (· = Octet.lf) text
      by_cases hblank : isBlankLine (firstLine text)
      · rw [blockBytes, blockLines_of_blank hne hblank, blankLine_of_blank hne hblank,
          extent_of_blank hne hblank, List.flatten_nil, List.nil_append]
        exact hfirst
      · rw [blockBytes, blockLines_of_line hne hblank, blankLine_of_line hne hblank,
          extent_of_line hne hblank, List.flatten_cons, ← List.drop_drop, List.append_assoc,
          List.append_assoc, ← List.append_assoc _ _ (List.drop _ _), ← blockBytes, ih]
        exact hfirst

/-- A block within the limit is read with the blank line after it. -/
theorem readBlock_of_fits (h : cursor.Faces offset text) (hfits : (blockBytes text).length ≤ limit)
    (hword : (blockBytes text).length ≤ maxWord) :
    ∃ after, readBlock limit cursor = .ok (unfold (Text.Charset.decode (blockBytes text))) after ∧
      after.Faces (offset + extent text) (text.drop (extent text)) := by
  rw [← Nat.zero_add (blockBytes text).length] at hfits
  obtain ⟨after, hlines, hafter⟩ := readLines_of_fits [] h hfits hword
  refine ⟨after, ?_, hafter⟩
  rw [readBlock, hlines]
  rfl

theorem readBlock_of_exceeds (h : cursor.Faces offset text)
    (hexceeds : limit < (blockBytes text).length)
    (hword : limit < maxWord ∨ (blockBytes text).length ≤ maxWord) :
    ∃ count after, readBlock limit cursor = .error (.headerTooLong limit) after ∧
      count ≤ limit + 2 ∧ after.Faces (offset + count) (text.drop count) := by
  rw [← Nat.zero_add (blockBytes text).length] at hexceeds hword
  obtain ⟨count, after, hlines, hcount, hafter⟩ :=
    readLines_of_exceeds [] h (Nat.zero_le limit) hexceeds hword
  rw [Nat.zero_add] at hcount
  refine ⟨count, after, ?_, hcount, hafter⟩
  rw [readBlock, hlines]

theorem extent_le (hfits : (blockBytes text).length ≤ limit) : extent text ≤ limit + 2 :=
  Nat.add_le_add hfits (length_blankLine_le text)

/-- How far a block is read from a cursor that stands at `offset` before a text. -/
structure ReadsExtent (limit : Nat) (cursor : Cursor) (offset : Nat) (text : List UInt8) :
    Prop where
  tooLong_iff : (∃ after, readBlock limit cursor = .error (.headerTooLong limit) after) ↔
    limit < (blockBytes text).length
  /-- What is read is the block and its blank line. -/
  reads : (blockBytes text).length ≤ limit → ∃ headers after,
    readBlock limit cursor = .ok headers after ∧
      after.Faces (offset + extent text) (text.drop (extent text))
  split : blockBytes text ++ blankLine text ++ text.drop (extent text) = text
  /-- Success or failure, what is consumed is the limit and a blank line at most. -/
  consumed_le : ∃ count ≤ limit + 2,
    (Result.state (readBlock limit cursor)).Faces (offset + count) (text.drop count)
  /-- In every round the size of the lines taken can be subtracted from the limit, and the number
  of bytes that may be read next is a word. -/
  budget : ∀ taken size between, Round limit cursor taken size between →
    readLines limit [] 0 cursor = readLines limit taken size between ∧
      size = taken.flatten.length ∧ size ≤ limit ∧ addCapped (limit - size) 2 ≤ maxWord

/-- On a stream without faults a header block is refused exactly if it is longer than the limit, and
otherwise read up to the first byte after its blank line. Only the largest limit needs that a word
can count the bytes of the block. -/
theorem readBlock_reads_extent (h : cursor.Faces offset text)
    (hword : limit < maxWord ∨ (blockBytes text).length ≤ maxWord) :
    ReadsExtent limit cursor offset text := by
  have hbudget : ∀ taken size between, Round limit cursor taken size between →
      readLines limit [] 0 cursor = readLines limit taken size between ∧
        size = taken.flatten.length ∧ size ≤ limit ∧ addCapped (limit - size) 2 ≤ maxWord := by
    intro taken size between hround
    exact ⟨hround.readLines_eq, hround.size_eq, hround.size_le, Nat.min_le_right _ _⟩
  by_cases hfits : (blockBytes text).length ≤ limit
  · obtain ⟨after, hblock, hafter⟩ := readBlock_of_fits h hfits (by omega)
    refine ⟨?_, fun _ => ⟨_, after, hblock, hafter⟩, blockBytes_append text, ?_, hbudget⟩
    · simp [hblock, hfits]
    · refine ⟨extent text, extent_le hfits, ?_⟩
      rw [hblock]
      exact hafter
  · have hexceeds := Nat.lt_of_not_le hfits
    obtain ⟨count, after, hblock, hcount, hafter⟩ := readBlock_of_exceeds h hexceeds hword
    refine ⟨?_, fun hle => absurd hle hfits, blockBytes_append text, ?_, hbudget⟩
    · simp [hblock, hexceeds]
    · refine ⟨count, hcount, ?_⟩
      rw [hblock]
      exact hafter

def shortMessage : List UInt8 :=
  Text.Utf8.encode "A: b\r\n\r\nbody".toList

/-- The size of the block is one more than the limit, the limit, and far below it. -/
theorem readBlock_reads_extent_short_message :
    (blockBytes shortMessage).length = 6 ∧ extent shortMessage = 8 ∧
      (5 < maxWord ∧ ReadsExtent 5 (.ofSource (.ofBytes shortMessage) 2) 0 shortMessage) ∧
      (6 < maxWord ∧ ReadsExtent 6 (.ofSource (.ofBytes shortMessage) 3) 0 shortMessage) ∧
      ((blockBytes shortMessage).length ≤ maxWord ∧
        ReadsExtent maxWord (.ofSource (.ofBytes shortMessage)) 0 shortMessage) := by
  have hsize : (blockBytes shortMessage).length = 6 := by decide +kernel
  have hword : (blockBytes shortMessage).length ≤ maxWord := by
    rw [hsize]
    decide
  refine ⟨hsize, by decide +kernel, ⟨by decide, ?_⟩, ⟨by decide, ?_⟩, hword, ?_⟩
  · exact readBlock_reads_extent (Cursor.faces_ofBytes shortMessage 2) (.inl (by decide))
  · exact readBlock_reads_extent (Cursor.faces_ofBytes shortMessage 3) (.inl (by decide))
  · exact readBlock_reads_extent (Cursor.faces_ofBytes shortMessage _) (.inr hword)

end Multipart.Header
