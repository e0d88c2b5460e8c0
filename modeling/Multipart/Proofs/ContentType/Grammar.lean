import Multipart.Proofs.ContentType.Characters
import Multipart.Proofs.Text.Trim

/-! # Content types as they are written

A content type is written as a media type and entries, each after a semicolon. An entry is a
parameter with a quoted value, a parameter with a plain value, an attribute without a value, or
nothing, and there may be white space around its tokens. What is written like this is read back. -/

namespace Multipart.ContentType

open Text (Trimmed trim trimEnd lowerAscii isBlank)
open Text.Utf8 (encode)

/-! ## Entries -/

/-- A text as it stands between quotation marks: a backslash comes before each quotation mark and
each backslash. -/
def escaped (text : List Char) : List Char :=
  text.flatMap fun c => if c = '\\' ∨ c = '"' then ['\\', c] else [c]

/-- What stands between two semicolons. -/
inductive Entry where
  /-- A parameter with a quoted value, and what stands after the closing quotation mark. -/
  | quoted (name content junk : List Char)
  /-- A parameter with a value that is not quoted. -/
  | plain (name value : List Char)
  /-- An attribute without a value, or nothing. -/
  | bare (text : List Char)
  deriving DecidableEq, Repr

structure Spacing where
  before : List Char
  beforeEquals : List Char
  afterEquals : List Char
  after : List Char
  deriving DecidableEq, Repr

structure Item where
  entry : Entry
  spacing : Spacing
  deriving DecidableEq, Repr

def Entry.parameter? : Entry → Option (List Char × List Char)
  | quoted name content _ => some (lowerAscii name, content)
  | plain name value => some (lowerAscii name, value)
  | bare _ => none

structure IsName (name : List Char) : Prop where
  ne_nil : name ≠ []
  trimmed : Trimmed name
  free : '=' ∉ name ∧ ';' ∉ name

/-- Names are names, a plain value does not look like a quoted one, and no semicolon stands where
it would end the entry. -/
def Entry.WellFormed : Entry → Prop
  | quoted name _ junk => IsName name ∧ ';' ∉ junk
  | plain name value => IsName name ∧ Trimmed value ∧ ';' ∉ value ∧ value.head? ≠ some '"'
  | bare text => '=' ∉ text ∧ ';' ∉ text

instance (name : List Char) : Decidable (IsName name) :=
  decidable_of_iff (name ≠ [] ∧ Trimmed name ∧ '=' ∉ name ∧ ';' ∉ name)
    ⟨fun ⟨hne, htrimmed, hfree⟩ => ⟨hne, htrimmed, hfree⟩,
      fun h => ⟨h.ne_nil, h.trimmed, h.free⟩⟩

instance (entry : Entry) : Decidable entry.WellFormed :=
  match entry with
  | .quoted _ _ _ => inferInstanceAs (Decidable (_ ∧ _))
  | .plain _ _ => inferInstanceAs (Decidable (_ ∧ _))
  | .bare _ => inferInstanceAs (Decidable (_ ∧ _))

def isFolding (c : Char) : Bool :=
  isPadding c || c = '\r' || c = '\n'

structure Spacing.Folding (spacing : Spacing) : Prop where
  before : ∀ c ∈ spacing.before, isFolding c
  beforeEquals : ∀ c ∈ spacing.beforeEquals, isFolding c
  afterEquals : ∀ c ∈ spacing.afterEquals, isFolding c
  after : ∀ c ∈ spacing.after, isFolding c

instance (spacing : Spacing) : Decidable spacing.Folding :=
  decidable_of_iff (spacing.before.all isFolding ∧ spacing.beforeEquals.all isFolding ∧
      spacing.afterEquals.all isFolding ∧ spacing.after.all isFolding) <| by
    simp only [List.all_eq_true]
    exact ⟨fun ⟨hbefore, hequals, hequals', hafter⟩ => ⟨hbefore, hequals, hequals', hafter⟩,
      fun h => ⟨h.before, h.beforeEquals, h.afterEquals, h.after⟩⟩

namespace Item

def text (item : Item) : List Char :=
  let spacing := item.spacing
  match item.entry with
  | .quoted name content junk =>
      (spacing.before ++ name ++ spacing.beforeEquals) ++ '=' ::
        (spacing.afterEquals ++ '"' :: (escaped content ++ '"' :: (junk ++ spacing.after)))
  | .plain name value =>
      (spacing.before ++ name ++ spacing.beforeEquals) ++ '=' ::
        (spacing.afterEquals ++ value ++ spacing.after)
  | .bare text => spacing.before ++ text ++ spacing.after

/-- A quoted value comes after spaces and tabs alone. -/
def Unfolded (item : Item) : Prop :=
  match item.entry with
  | .quoted _ _ _ => ∀ c ∈ item.spacing.afterEquals, isPadding c
  | _ => True

instance (item : Item) : Decidable item.Unfolded :=
  match item with
  | ⟨.quoted _ _ _, spacing⟩ =>
      decidable_of_iff (spacing.afterEquals.all isPadding) List.all_eq_true
  | ⟨.plain _ _, _⟩ => inferInstanceAs (Decidable True)
  | ⟨.bare _, _⟩ => inferInstanceAs (Decidable True)

structure WellFormed (item : Item) : Prop where
  entry : item.entry.WellFormed
  spacing : item.spacing.Folding
  unfolded : item.Unfolded

instance (item : Item) : Decidable item.WellFormed :=
  decidable_of_iff (item.entry.WellFormed ∧ item.spacing.Folding ∧ item.Unfolded)
    ⟨fun ⟨hentry, hspacing, hunfolded⟩ => ⟨hentry, hspacing, hunfolded⟩,
      fun h => ⟨h.entry, h.spacing, h.unfolded⟩⟩

end Item

/-! ## Quoted values -/

variable {text front back padding content junk after : List Char} {item : Item}

theorem quotedIn_escaped (content after : List Char) :
    quotedIn (escaped content ++ '"' :: after) = (content, after) := by
  induction content with
  | nil => exact quotedIn_quote after
  | cons c content ih =>
      rw [escaped, List.flatMap_cons, ← escaped, List.append_assoc]
      split
      · rw [List.cons_append, List.cons_append, List.nil_append, quotedIn_escape, ih]
      · rename_i hplain
        rw [not_or] at hplain
        rw [List.singleton_append, quotedIn_literal hplain.1 hplain.2, ih]

def EntryEnds (after : List Char) : Prop :=
  ∀ c, after.head? = some c → c = ';'

theorem span_of_entryEnds (htext : ';' ∉ text) (hafter : EntryEnds after) :
    (text ++ after).takeWhile (· ≠ ';') = text ∧ (text ++ after).dropWhile (· ≠ ';') = after := by
  have hpos : ∀ c ∈ text, decide (c ≠ ';') = true :=
    fun c hc => decide_eq_true fun h => htext (h ▸ hc)
  rw [List.takeWhile_append_of_pos hpos, List.dropWhile_append_of_pos hpos]
  cases after with
  | nil => exact ⟨List.append_nil text, rfl⟩
  | cons c after =>
      rw [hafter c rfl]
      exact ⟨List.append_nil text, rfl⟩

theorem valueIn_quoted (hjunk : ';' ∉ junk) (hafter : EntryEnds after) :
    valueIn ('"' :: (escaped content ++ '"' :: (junk ++ after))) = (content, after) := by
  rw [valueIn, if_pos rfl, quotedIn_escaped, (span_of_entryEnds hjunk hafter).2]

theorem isBlank_of_isPadding {c : Char} (h : isPadding c) : isBlank c := by
  rw [isPadding, Bool.or_eq_true, decide_eq_true_eq, decide_eq_true_eq] at h
  rcases h with rfl | rfl <;> rfl

theorem trim_quote (text : List Char) : trim ('"' :: text) = '"' :: trimEnd text := by
  have hend : trimEnd ([] ++ '"' :: text) = [] ++ '"' :: trimEnd text :=
    Text.trimEnd_append_cons (by decide)
  exact hend

/-- The value is empty where an entry ends. -/
theorem valueIn_of_entryEnds (hafter : EntryEnds after) :
    valueIn (after.dropWhile isPadding) = ([], after) := by
  cases after with
  | nil => rfl
  | cons c after =>
      rw [hafter c rfl]
      rfl

/-- A value that does not start with a quotation mark goes on to the end of its entry. -/
theorem valueIn_plain (hback : ';' ∉ back) (hquote : (trim back).head? ≠ some '"')
    (hafter : EntryEnds after) :
    valueIn ((back ++ after).dropWhile isPadding) = (trim back, after) := by
  have hpadding : trim (back.dropWhile isPadding) = trim back :=
    Text.trim_dropWhile fun _ _ hc => isBlank_of_isPadding hc
  rw [List.dropWhile_append]
  cases hrest : back.dropWhile isPadding with
  | nil =>
      rw [← hpadding, hrest, List.isEmpty_nil, if_pos rfl, valueIn_of_entryEnds hafter]
      rfl
  | cons c rest =>
      have hc : c ≠ '"' := by
        rintro rfl
        rw [← hpadding, hrest, trim_quote] at hquote
        exact hquote rfl
      have hfree : ';' ∉ c :: rest := by
        rw [← hrest]
        exact fun hmem => hback (List.dropWhile_subset _ hmem)
      obtain ⟨htake, hdrop⟩ := span_of_entryEnds hfree hafter
      rw [List.isEmpty_cons, if_neg Bool.false_ne_true, List.cons_append, valueIn, if_neg hc,
        ← List.cons_append, htake, hdrop, ← hrest, hpadding]

/-! ## Entries that are read -/

/-- Whether a text is read as an entry that stands for a parameter, whatever entries come next. -/
def ReadsAs (text : List Char) (parameter? : Option (List Char × List Char)) : Prop :=
  ∀ after, EntryEnds after →
    parameterList (encode (text ++ after)) = parameter?.toList ++ parameterList (encode after)

theorem parameterList_congr {other : List Char}
    (h : text.dropWhile separates = other.dropWhile separates) :
    parameterList (encode text) = parameterList (encode other) := by
  have hbytes : (encode text).dropWhile isSeparator = (encode other).dropWhile isSeparator := by
    rw [Text.Utf8.dropWhile_encode fun _ _ => isSeparator_of_mem,
      Text.Utf8.dropWhile_encode fun _ _ => isSeparator_of_mem, h]
  rw [parameterList, parameterList, hbytes]

theorem parameterList_semicolon (text : List Char) :
    parameterList (encode (';' :: text)) = parameterList (encode text) :=
  parameterList_congr rfl

/-- Names are trimmed even if they are passed over for white space first. -/
theorem trim_dropWhile_separates (hfront : ';' ∉ front) :
    trim (front.dropWhile separates) = trim front := by
  refine Text.trim_dropWhile fun c hc hseparates => ?_
  simp only [separates, Bool.or_eq_true, decide_eq_true_eq] at hseparates
  rcases hseparates with rfl | (((rfl | rfl) | rfl) | rfl) | rfl
  · exact absurd hc hfront
  all_goals rfl

/-- Nothing ends a name in a text without equals signs and semicolons. -/
theorem not_stopsName_of_mem (htext : '=' ∉ text ∧ ';' ∉ text) :
    ∀ c ∈ text.dropWhile separates, (!stopsName c) = true := by
  intro c hc
  have hmem : c ∈ text := List.dropWhile_subset _ hc
  have hequals : c ≠ '=' := fun h => htext.1 (h ▸ hmem)
  have hsemicolon : c ≠ ';' := fun h => htext.2 (h ▸ hmem)
  simp [stopsName, hequals, hsemicolon]

/-- The name of a parameter goes on to the equals sign, and its value comes after that. -/
theorem parameterList_assign (hfront : '=' ∉ front ∧ ';' ∉ front) (back : List Char) :
    parameterList (encode (front ++ '=' :: back)) =
      (lowerAscii (trim front), (valueIn (back.dropWhile isPadding)).1) ::
      parameterList (encode (valueIn (back.dropWhile isPadding)).2) := by
  have hname := not_stopsName_of_mem hfront
  have hentry : (front ++ '=' :: back).dropWhile separates =
      front.dropWhile separates ++ '=' :: back := Text.dropWhile_append_of_stop rfl
  have hstop : ((front ++ '=' :: back).dropWhile separates).dropWhile (!stopsName ·) =
      '=' :: back := by
    rw [hentry, List.dropWhile_append_of_pos hname]
    rfl
  have htake : ((front ++ '=' :: back).dropWhile separates).takeWhile (!stopsName ·) =
      front.dropWhile separates := by
    rw [hentry, List.takeWhile_append_of_pos hname]
    exact List.append_nil _
  rw [parameterList_encode_cons hstop, htake, trim_dropWhile_separates hfront.2]

theorem readsAs_quoted (content : List Char) (hfront : '=' ∉ front ∧ ';' ∉ front)
    (hpadding : ∀ c ∈ padding, isPadding c) (hjunk : ';' ∉ junk) :
    ReadsAs (front ++ '=' :: (padding ++ '"' :: (escaped content ++ '"' :: junk)))
      (some (lowerAscii (trim front), content)) := by
  intro after hafter
  have hvalue : (padding ++ '"' :: (escaped content ++ '"' :: (junk ++ after))).dropWhile
      isPadding = '"' :: (escaped content ++ '"' :: (junk ++ after)) := by
    rw [List.dropWhile_append_of_pos hpadding]
    rfl
  simp only [List.append_assoc, List.cons_append]
  rw [parameterList_assign hfront, hvalue, valueIn_quoted hjunk hafter]
  rfl

theorem readsAs_plain (hfront : '=' ∉ front ∧ ';' ∉ front) (hback : ';' ∉ back)
    (hquote : (trim back).head? ≠ some '"') :
    ReadsAs (front ++ '=' :: back) (some (lowerAscii (trim front), trim back)) := by
  intro after hafter
  rw [List.append_assoc, List.cons_append, parameterList_assign hfront,
    valueIn_plain hback hquote hafter]
  rfl

theorem readsAs_bare (htext : '=' ∉ text ∧ ';' ∉ text) : ReadsAs text none := by
  intro after hafter
  rw [Option.toList_none, List.nil_append]
  by_cases hempty : (text.dropWhile separates).isEmpty
  · apply parameterList_congr
    rw [List.dropWhile_append, if_pos hempty]
  · have hentry : ((text ++ after).dropWhile separates).dropWhile (!stopsName ·) =
        after.dropWhile (!stopsName ·) := by
      rw [List.dropWhile_append, if_neg hempty,
        List.dropWhile_append_of_pos (not_stopsName_of_mem htext)]
    cases after with
    | nil =>
        rw [parameterList_encode_nil hentry, parameterList_encode_nil rfl]
    | cons c after =>
        rw [hafter c rfl] at hentry ⊢
        rw [parameterList_encode_skip hentry, parameterList_semicolon]

/-- An entry is read the same if the white space after it is cut off. -/
theorem readsAs_quoted_trimEnd (content : List Char) (hfront : '=' ∉ front ∧ ';' ∉ front)
    (hpadding : ∀ c ∈ padding, isPadding c) (hjunk : ';' ∉ junk) :
    ReadsAs (trimEnd (front ++ '=' :: (padding ++ '"' :: (escaped content ++ '"' :: junk))))
      (some (lowerAscii (trim front), content)) := by
  rw [Text.trimEnd_append_cons (by decide), Text.trimEnd_append_cons (by decide),
    Text.trimEnd_append_cons (by decide)]
  exact readsAs_quoted content hfront hpadding fun hmem => hjunk (Text.trimEnd_subset hmem)

theorem readsAs_plain_trimEnd (hfront : '=' ∉ front ∧ ';' ∉ front) (hback : ';' ∉ back)
    (hquote : (trim back).head? ≠ some '"') :
    ReadsAs (trimEnd (front ++ '=' :: back)) (some (lowerAscii (trim front), trim back)) := by
  have hcut : ';' ∉ trimEnd back := fun hmem => hback (Text.trimEnd_subset hmem)
  rw [← Text.trim_trimEnd back] at hquote ⊢
  rw [Text.trimEnd_append_cons (by decide)]
  exact readsAs_plain hfront hcut hquote

theorem readsAs_bare_trimEnd (htext : '=' ∉ text ∧ ';' ∉ text) : ReadsAs (trimEnd text) none :=
  readsAs_bare ⟨fun hmem => htext.1 (Text.trimEnd_subset hmem),
    fun hmem => htext.2 (Text.trimEnd_subset hmem)⟩

theorem isBlank_of_isFolding {c : Char} (h : isFolding c) : isBlank c := by
  simp only [isFolding, isPadding, Bool.or_eq_true, decide_eq_true_eq] at h
  rcases h with ((rfl | rfl) | rfl) | rfl <;> rfl

theorem not_mem_of_folding {run : List Char} (h : ∀ c ∈ run, isFolding c) :
    '=' ∉ run ∧ ';' ∉ run :=
  ⟨fun hmem => absurd (h _ hmem) (by decide), fun hmem => absurd (h _ hmem) (by decide)⟩

/-- What stands before an equals sign. -/
theorem IsName.spaced {name : List Char} {spacing : Spacing} (h : IsName name)
    (hspacing : spacing.Folding) :
    ('=' ∉ spacing.before ++ name ++ spacing.beforeEquals ∧
      ';' ∉ spacing.before ++ name ++ spacing.beforeEquals) ∧
      trim (spacing.before ++ name ++ spacing.beforeEquals) = name := by
  have hbefore := not_mem_of_folding hspacing.before
  have hequals := not_mem_of_folding hspacing.beforeEquals
  constructor
  · simp only [List.mem_append, not_or]
    exact ⟨⟨⟨hbefore.1, h.free.1⟩, hequals.1⟩, ⟨hbefore.2, h.free.2⟩, hequals.2⟩
  · rw [Text.trim_append_right fun c hc => isBlank_of_isFolding (hspacing.beforeEquals c hc),
      Text.trim_append fun c hc => isBlank_of_isFolding (hspacing.before c hc), h.trimmed.trim_eq]

/-- A well-formed entry is read as its parameter, also if the white space after it is cut off. -/
theorem Item.WellFormed.readsAs (h : item.WellFormed) :
    ReadsAs item.text item.entry.parameter? ∧
      ReadsAs (trimEnd item.text) item.entry.parameter? := by
  obtain ⟨entry, spacing⟩ := item
  obtain ⟨hentry, hspacing, hunfolded⟩ := h
  have hend := not_mem_of_folding hspacing.after
  cases entry with
  | quoted name content junk =>
      obtain ⟨hname, hjunk⟩ := hentry
      obtain ⟨hfront, htrim⟩ := hname.spaced hspacing
      have hrest : ';' ∉ junk ++ spacing.after := by
        rw [List.mem_append, not_or]
        exact ⟨hjunk, hend.2⟩
      have hread := readsAs_quoted content hfront hunfolded hrest
      have hcut := readsAs_quoted_trimEnd content hfront hunfolded hrest
      rw [htrim] at hread hcut
      exact ⟨hread, hcut⟩
  | plain name value =>
      obtain ⟨hname, htrimmed, hvalue, hquote⟩ := hentry
      obtain ⟨hfront, htrim⟩ := hname.spaced hspacing
      have hback : ';' ∉ spacing.afterEquals ++ value ++ spacing.after := by
        simp only [List.mem_append, not_or]
        exact ⟨⟨(not_mem_of_folding hspacing.afterEquals).2, hvalue⟩, hend.2⟩
      have hvalue' : trim (spacing.afterEquals ++ value ++ spacing.after) = value := by
        rw [Text.trim_append_right fun c hc => isBlank_of_isFolding (hspacing.after c hc),
          Text.trim_append fun c hc => isBlank_of_isFolding (hspacing.afterEquals c hc),
          htrimmed.trim_eq]
      rw [← hvalue'] at hquote
      have hread := readsAs_plain hfront hback hquote
      have hcut := readsAs_plain_trimEnd hfront hback hquote
      rw [htrim, hvalue'] at hread hcut
      exact ⟨hread, hcut⟩
  | bare text =>
      have hbefore := not_mem_of_folding hspacing.before
      have htext : '=' ∉ spacing.before ++ text ++ spacing.after ∧
          ';' ∉ spacing.before ++ text ++ spacing.after := by
        simp only [List.mem_append, not_or]
        exact ⟨⟨⟨hbefore.1, hentry.1⟩, hend.1⟩, ⟨hbefore.2, hentry.2⟩, hend.2⟩
      exact ⟨readsAs_bare htext, readsAs_bare_trimEnd htext⟩

/-! ## Content types -/

def written (media : List Char) (items : List Item) : List Char :=
  media ++ items.flatMap fun item => ';' :: item.text

def parametersOf (entries : List Entry) : List (List Char × List Char) :=
  entries.filterMap Entry.parameter?

/-- The content type that a media type and entries stand for. -/
def described (media : List Char) (entries : List Entry) : ContentType where
  mediaType := String.ofList (lowerAscii (trim media))
  parameters := table (parametersOf entries)

variable {media : List Char} {items : List Item}

theorem entryEnds_nil : EntryEnds [] := by
  intro c hc
  cases hc

theorem entryEnds_semicolon (text : List Char) : EntryEnds (';' :: text) :=
  fun _ hc => (Option.some.inj hc).symm

theorem entryEnds_flatMap (items : List Item) (hafter : EntryEnds after) :
    EntryEnds ((items.flatMap fun item => ';' :: item.text) ++ after) := by
  cases items with
  | nil => exact hafter
  | cons item items => exact entryEnds_semicolon _

/-- Entries are read one after another. -/
theorem parameterList_flatMap (hitems : ∀ item ∈ items, item.WellFormed)
    (hafter : EntryEnds after) :
    parameterList (encode ((items.flatMap fun item => ';' :: item.text) ++ after)) =
      parametersOf (items.map Item.entry) ++ parameterList (encode after) := by
  induction items with
  | nil => rfl
  | cons item items ih =>
      rw [List.forall_mem_cons] at hitems
      have hread := hitems.1.readsAs.1 _ (entryEnds_flatMap items hafter)
      rw [List.flatMap_cons, List.append_assoc, List.cons_append, parameterList_semicolon, hread,
        ih hitems.2, List.map_cons, parametersOf, parametersOf, List.filterMap_cons]
      cases item.entry.parameter? <;> rfl

theorem parameterList_drop (hafter : EntryEnds after) :
    parameterList (encode (after.drop 1)) = parameterList (encode after) := by
  cases after with
  | nil => rfl
  | cons c after =>
      rw [hafter c rfl]
      exact (parameterList_semicolon after).symm

/-- Trimming cuts white space off the media type and off the last entry. -/
theorem trim_written (hmedia : ';' ∉ media)
    (hitems : ∀ item ∈ items, item.WellFormed) :
    ∃ front back, trim (written media items) = front ++ back ∧ ';' ∉ front ∧
      trim front = trim media ∧ EntryEnds back ∧
      parameterList (encode back) = parametersOf (items.map Item.entry) := by
  rcases List.eq_nil_or_concat items with rfl | ⟨items, last, rfl⟩
  · refine ⟨trim media, [], ?_, fun hmem => hmedia (Text.trim_subset hmem),
      (Text.trimmed_trim media).trim_eq, entryEnds_nil, parameterList_encode_nil rfl⟩
    rw [written, List.flatMap_nil, List.append_nil, List.append_nil]
  · rw [List.concat_eq_append] at hitems ⊢
    rw [List.forall_mem_append, List.forall_mem_singleton] at hitems
    have hback := entryEnds_semicolon (trimEnd last.text)
    have hlast := hitems.2.readsAs.2 [] entryEnds_nil
    refine ⟨media.dropWhile isBlank,
      (items.flatMap fun item => ';' :: item.text) ++ ';' :: trimEnd last.text, ?_,
      fun hmem => hmedia (List.dropWhile_subset _ hmem), ?_, entryEnds_flatMap items hback, ?_⟩
    · have hstop : ((items.flatMap fun item => ';' :: item.text) ++
          ';' :: last.text).dropWhile isBlank = _ := List.dropWhile_eq_self_iff.mpr fun hpos => by
        rw [entryEnds_flatMap items (entryEnds_semicolon last.text) _
          (List.head?_eq_getElem?.trans (List.getElem?_eq_getElem hpos))]
        decide
      rw [written, List.flatMap_append, List.flatMap_singleton, trim,
        Text.dropWhile_append_of_stop hstop, ← List.append_assoc,
        Text.trimEnd_append_cons (by decide), List.append_assoc]
    · exact Text.trim_dropWhile fun _ _ hc => hc
    · rw [List.append_nil] at hlast
      rw [parameterList_flatMap hitems.1 hback, parameterList_semicolon, hlast,
        parameterList_encode_nil rfl, List.append_nil, List.map_append, List.map_singleton,
        parametersOf, parametersOf, List.filterMap_append, List.filterMap_cons]
      cases last.entry.parameter? <;> rfl

theorem parse_written (hmedia : ';' ∉ media)
    (hitems : ∀ item ∈ items, item.WellFormed) :
    parse (String.ofList (written media items)) =
      if (described media (items.map Item.entry)).boundary.isEmpty then
        .error (.noBoundary (String.ofList (trim (written media items))))
      else .ok (described media (items.map Item.entry)) := by
  obtain ⟨front, back, htrim, hfront, hmediaType, hback, hparameters⟩ := trim_written hmedia hitems
  obtain ⟨htake, hdrop⟩ := span_of_entryEnds hfront hback
  rw [parse, String.toList_ofList, htrim, htake, hdrop, hmediaType, parameterList_drop hback,
    hparameters]
  rfl

end Multipart.ContentType
