import Multipart.Proofs.ContentType.Grammar

/-! # Content types that are folded

The white space between the tokens of a content type may be replaced: what is read stays the same
whether a token comes after spaces, tabs, CR and LF or after nothing. There is one exception. A
quoted value has to stand on the line of its equals sign, for otherwise its quotation mark counts as
a part of the value, which then goes on to the first semicolon. -/

namespace Multipart.ContentType

open Text (trim trimEnd)

/-- Whether two texts are read as one content type, or are both refused because they have no
boundary. -/
def ReadAlike (text other : List Char) : Prop :=
  (∃ contentType, parse (String.ofList text) = .ok contentType ∧
    parse (String.ofList other) = .ok contentType) ∨
  (parse (String.ofList text) = .error (.noBoundary (String.ofList (trim text))) ∧
    parse (String.ofList other) = .error (.noBoundary (String.ofList (trim other))))

/-! ## Quoted values after a fold -/

variable {content run : List Char} {item : Item} {items others : List Item}
  {media other : List Char}

theorem length_le_escaped (content : List Char) : content.length ≤ (escaped content).length := by
  induction content with
  | nil => exact Nat.le_refl 0
  | cons c content ih =>
      rw [escaped, List.flatMap_cons, ← escaped, List.length_append, List.length_cons]
      split
      · rw [List.length_cons, List.length_singleton]
        omega
      · rw [List.length_singleton]
        omega

theorem mem_of_mem_escaped {c : Char} (h : c ∈ escaped content) : c = '\\' ∨ c ∈ content := by
  obtain ⟨d, hd, hc⟩ := List.mem_flatMap.mp h
  split at hc
  · simp only [List.mem_cons, List.not_mem_nil, or_false] at hc
    rcases hc with rfl | rfl
    · exact .inl rfl
    · exact .inr hd
  · rw [List.mem_singleton.mp hc]
    exact .inr hd

/-- After a fold a quotation mark does not start a quoted value. -/
theorem valueIn_folded (hrun : ∀ c ∈ run, isFolding c) (hfold : ¬∀ c ∈ run, isPadding c)
    (text : List Char) :
    (valueIn ((run ++ '"' :: text).dropWhile isPadding)).1 =
      '"' :: trimEnd (text.takeWhile (· ≠ ';')) := by
  have hsub : ∀ c ∈ run.dropWhile isPadding, isFolding c :=
    fun c hc => hrun c (List.dropWhile_subset _ hc)
  have hfree : ∀ c ∈ run.dropWhile isPadding, decide (c ≠ ';') = true :=
    fun c hc => decide_eq_true fun h => (not_mem_of_folding hsub).2 (h ▸ hc)
  have htrim : trim ((run.dropWhile isPadding ++ '"' :: text).takeWhile (· ≠ ';')) =
      '"' :: trimEnd (text.takeWhile (· ≠ ';')) := by
    rw [List.takeWhile_append_of_pos hfree,
      Text.trim_append fun c hc => isBlank_of_isFolding (hsub c hc)]
    exact trim_quote _
  rw [Text.dropWhile_append_of_stop rfl]
  cases hrest : run.dropWhile isPadding with
  | nil =>
      have hall : run.takeWhile isPadding = run := by
        conv => rhs; rw [← List.takeWhile_append_dropWhile (p := isPadding) (l := run), hrest]
        rw [List.append_nil]
      exact absurd (fun c hc => List.all_eq_true.mp List.all_takeWhile c (hall.symm ▸ hc)) hfold
  | cons c rest =>
      have hquote : c ≠ '"' := by
        rintro rfl
        have hmem := hsub '"' (hrest ▸ List.mem_cons_self)
        exact absurd hmem (by decide)
      rw [hrest] at htrim
      rw [List.cons_append, valueIn, if_neg hquote]
      exact htrim

/-- What is read after a fold is not what is meant: it keeps the quotation mark and everything up to
the closing one unless a semicolon comes first, and no semicolon is read. -/
theorem folded_ne_content (content after : List Char) :
    '"' :: trimEnd ((escaped content ++ '"' :: after).takeWhile (· ≠ ';')) ≠ content := by
  intro heq
  by_cases hsemicolon : ';' ∈ content
  · rw [← heq, List.mem_cons] at hsemicolon
    rcases hsemicolon with hquote | hmem
    · exact absurd hquote (by decide)
    · have htake := List.all_eq_true.mp List.all_takeWhile _ (Text.trimEnd_subset hmem)
      exact absurd htake (by decide)
  · have hescaped : ∀ c ∈ escaped content, decide (c ≠ ';') = true := by
      intro c hc
      rcases mem_of_mem_escaped hc with rfl | hmem
      · rfl
      · exact decide_eq_true fun h => hsemicolon (h ▸ hmem)
    rw [List.takeWhile_append_of_pos hescaped, List.takeWhile_cons_of_pos (by decide),
      Text.trimEnd_append_cons (by decide)] at heq
    have hlength := congrArg List.length heq
    have hle := length_le_escaped content
    simp only [List.length_cons, List.length_append] at hlength
    omega

/-- A well-formed entry is read as its parameter if and only if it has no quoted value after a
fold. -/
theorem readsAs_iff_unfolded (hentry : item.entry.WellFormed) (hspacing : item.spacing.Folding) :
    ReadsAs item.text item.entry.parameter? ↔ item.Unfolded := by
  constructor
  · intro hreads
    obtain ⟨entry, spacing⟩ := item
    cases entry with
    | quoted name content junk =>
        have hfront := (hentry.1.spaced hspacing).1
        refine Decidable.byContradiction fun hfold => ?_
        have hread := hreads [] entryEnds_nil
        have hassign := parameterList_assign hfront
          (spacing.afterEquals ++ '"' :: (escaped content ++ '"' :: (junk ++ spacing.after)))
        rw [List.append_nil] at hread
        have hvalue := valueIn_folded hspacing.afterEquals hfold
          (escaped content ++ '"' :: (junk ++ spacing.after))
        have hfirst := hassign.symm.trans hread
        rw [hvalue] at hfirst
        injection hfirst with hparameter
        exact folded_ne_content content (junk ++ spacing.after) (Prod.mk.inj hparameter).2
    | plain name value => trivial
    | bare text => trivial
  · intro hunfolded
    have hitem : item.WellFormed := ⟨hentry, hspacing, hunfolded⟩
    exact hitem.readsAs.1

/-! ## Replaced white space -/

/-- The white space between the tokens of a content type does not matter, as long as no quoted value
comes after a fold; and of the entries with a quoted value after a fold none is read as its
parameter. -/
theorem parse_respaced (hmedia : ';' ∉ media) (hother : ';' ∉ other)
    (htrim : trim media = trim other) (hsame : items.map Item.entry = others.map Item.entry)
    (hentries : ∀ item ∈ items, item.entry.WellFormed)
    (hspacing : ∀ item ∈ items ++ others, item.spacing.Folding) :
    ((∀ item ∈ items ++ others, item.Unfolded) →
      ReadAlike (written media items) (written other others)) ∧
    ∀ item ∈ items ++ others, ReadsAs item.text item.entry.parameter? ↔ item.Unfolded := by
  have hentry : ∀ item ∈ items ++ others, item.entry.WellFormed := by
    intro item hitem
    rcases List.mem_append.mp hitem with hitem | hitem
    · exact hentries item hitem
    · have hmem : item.entry ∈ items.map Item.entry := hsame ▸ List.mem_map_of_mem hitem
      obtain ⟨twin, htwin, heq⟩ := List.mem_map.mp hmem
      exact heq ▸ hentries twin htwin
  constructor
  · intro hunfolded
    have hitems : ∀ item ∈ items ++ others, item.WellFormed := fun item hitem =>
      ⟨hentry item hitem, hspacing item hitem, hunfolded item hitem⟩
    rw [List.forall_mem_append] at hitems
    have hparse := parse_written hmedia hitems.1
    have hparse' := parse_written hother hitems.2
    have hdescribed : described media (items.map Item.entry) =
        described other (others.map Item.entry) := by
      rw [described, htrim, hsame, ← described]
    rw [hdescribed] at hparse
    by_cases hempty : (described other (others.map Item.entry)).boundary.isEmpty
    · rw [if_pos hempty] at hparse hparse'
      exact .inr ⟨hparse, hparse'⟩
    · rw [if_neg hempty] at hparse hparse'
      exact .inl ⟨_, hparse, hparse'⟩
  · intro item hitem
    exact readsAs_iff_unfolded (hentry item hitem) (hspacing item hitem)

def quotedBoundary (afterEquals : List Char) : Item :=
  ⟨.quoted "boundary".toList "a;b".toList [], ⟨[' '], [], afterEquals, []⟩⟩

def shortItems : List Item :=
  [quotedBoundary [], ⟨.plain "start".toList "<r>".toList, ⟨[' '], [], [], []⟩⟩]

def foldedItems : List Item :=
  [quotedBoundary [' ', '\t'],
    ⟨.plain "start".toList "<r>".toList,
      ⟨['\r', '\n', '\t'], [' '], ['\r', '\n', ' '], ['\r', '\n']⟩⟩]

theorem parse_respaced_folds :
    ReadAlike "multipart/mixed; boundary=\"a;b\"; start=<r>".toList
      "multipart/mixed\r\n ; boundary= \t\"a;b\";\r\n\tstart =\r\n <r>\r\n".toList := by
  have hmedia : ';' ∉ "multipart/mixed".toList := by decide +kernel
  have hother : ';' ∉ "multipart/mixed\r\n ".toList := by decide +kernel
  have htrim : trim "multipart/mixed".toList = trim "multipart/mixed\r\n ".toList := by
    decide +kernel
  have hsame : shortItems.map Item.entry = foldedItems.map Item.entry := rfl
  have hentries : ∀ item ∈ shortItems, item.entry.WellFormed := by decide +kernel
  have hspacing : ∀ item ∈ shortItems ++ foldedItems, item.spacing.Folding := by decide +kernel
  have hunfolded : ∀ item ∈ shortItems ++ foldedItems, item.Unfolded := by decide +kernel
  exact (parse_respaced hmedia hother htrim hsame hentries hspacing).1 hunfolded

/-- A boundary that is folded after its equals sign is read up to its semicolon. -/
theorem not_parse_respaced : ¬∀ (media : List Char) (items others : List Item),
    ';' ∉ media → items.map Item.entry = others.map Item.entry →
    (∀ item ∈ items, item.entry.WellFormed) →
    (∀ item ∈ items ++ others, item.spacing.Folding) →
    ReadAlike (written media items) (written media others) := by
  intro hall
  have hread := hall "multipart/mixed".toList [quotedBoundary [' ']]
    [quotedBoundary ['\r', '\n', ' ']] (by decide +kernel) rfl (by decide +kernel)
    (by decide +kernel)
  have hmeant : ((parse (String.ofList (written "multipart/mixed".toList
      [quotedBoundary [' ']]))).toOption.map boundary) = some "a;b" := by
    decide +kernel
  have hfolded : ((parse (String.ofList (written "multipart/mixed".toList
      [quotedBoundary ['\r', '\n', ' ']]))).toOption.map boundary) = some "\"a" := by
    decide +kernel
  rcases hread with ⟨contentType, hparse, hparse'⟩ | ⟨hparse, -⟩
  · rw [hparse] at hmeant
    rw [hparse'] at hfolded
    exact absurd (hmeant.symm.trans hfolded) (by decide)
  · rw [hparse] at hmeant
    cases hmeant

end Multipart.ContentType
