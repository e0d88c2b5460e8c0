import Multipart.Proofs.ContentType.Grammar

/-! # Parameters of written content types

A content type that is read from what is written has the value of the last parameter of each name,
whatever the case of the name is, and no other parameters. It is refused if and only if its last
boundary is missing or empty. -/

namespace Multipart.ContentType

open Text (trim lowerAscii)

/-- The value of the last parameter with a name in lower case. -/
def lastValue? (name : String) (parameters : List (List Char × List Char)) : Option String :=
  (parameters.filter fun parameter => String.ofList parameter.1 = name).getLast?.map
    fun parameter => String.ofList parameter.2

variable {entries : List Entry} {media : List Char} {items : List Item}
  {parameters : List (List Char × List Char)}

theorem lastValue?_cons (name : String) (parameter : List Char × List Char)
    (parameters : List (List Char × List Char)) :
    lastValue? name (parameter :: parameters) =
      (lastValue? name parameters).or
        (if String.ofList parameter.1 = name then some (String.ofList parameter.2) else none) := by
  by_cases hname : String.ofList parameter.1 = name
  · rw [lastValue?, List.filter_cons_of_pos (by simpa using hname), List.getLast?_cons,
      if_pos hname, lastValue?]
    cases (parameters.filter fun parameter => String.ofList parameter.1 = name).getLast? <;> rfl
  · rw [lastValue?, List.filter_cons_of_neg (by simpa using hname), if_neg hname, Option.or_none,
      lastValue?]

/-- A table holds the last parameter of each name. -/
theorem get?_table (hnamed : ∀ parameter ∈ parameters, parameter.1 ≠ []) (name : String) :
    (table parameters).get? name = lastValue? name parameters := by
  have hempty : lastValue? name parameters =
      (lastValue? name parameters).or ((Table.empty : Table String).get? name) := by
    rw [Table.get?_empty, Option.or_none]
  rw [hempty, table]
  clear hempty
  -- The parameters are put into every table in the same way.
  generalize Table.empty = start
  induction parameters generalizing start with
  | nil => rfl
  | cons parameter parameters ih =>
      obtain ⟨key, value⟩ := parameter
      rw [List.forall_mem_cons] at hnamed
      have hkey : ¬key.isEmpty = true := fun h => hnamed.1 (List.isEmpty_iff.mp h)
      rw [List.foldl_cons, ih hnamed.2, lastValue?_cons, Option.or_assoc]
      dsimp only
      rw [if_neg hkey, Table.get?_insert]
      by_cases heq : name = String.ofList key
      · rw [if_pos heq, if_pos heq.symm, Option.some_or]
      · rw [if_neg heq, if_neg fun h => heq h.symm, Option.none_or]

theorem parametersOf_named (hentries : ∀ entry ∈ entries, entry.WellFormed) :
    ∀ parameter ∈ parametersOf entries, parameter.1 ≠ [] := by
  intro parameter hmem
  obtain ⟨entry, hentry, hparameter⟩ := List.mem_filterMap.mp hmem
  have hwell := hentries entry hentry
  cases entry with
  | quoted name content junk =>
      rw [← Option.some.inj hparameter]
      exact fun hnil => hwell.1.ne_nil (List.map_eq_nil_iff.mp hnil)
  | plain name value =>
      rw [← Option.some.inj hparameter]
      exact fun hnil => hwell.1.ne_nil (List.map_eq_nil_iff.mp hnil)
  | bare text => cases hparameter

/-- What a content type tells of the media type and the entries that it was read from. -/
structure Reads (contentType : ContentType) (media : List Char) (entries : List Entry) : Prop where
  mediaType : contentType.mediaType = String.ofList (lowerAscii (trim media))
  get? : ∀ name, contentType.parameters.get? name = lastValue? name (parametersOf entries)
  parameter? : ∀ name, contentType.parameter? name =
    lastValue? (String.ofList (lowerAscii name.toList)) (parametersOf entries)
  boundary : lastValue? "boundary" (parametersOf entries) = some contentType.boundary
  start? : contentType.start? = lastValue? "start" (parametersOf entries)
  rootType? : contentType.rootType? = lastValue? "type" (parametersOf entries)
  startInfo? : contentType.startInfo? = lastValue? "start-info" (parametersOf entries)

/-- Whether the last boundary among some entries is there and not empty. -/
def HasBoundary (entries : List Entry) : Prop :=
  ∃ token, lastValue? "boundary" (parametersOf entries) = some token ∧ token ≠ ""

theorem get?_described (hentries : ∀ entry ∈ entries, entry.WellFormed) (name : String) :
    (described media entries).parameters.get? name = lastValue? name (parametersOf entries) :=
  get?_table (parametersOf_named hentries) name

theorem hasBoundary_iff (hentries : ∀ entry ∈ entries, entry.WellFormed) :
    HasBoundary entries ↔ (described media entries).boundary.isEmpty = false := by
  rw [boundary, get?_described hentries, HasBoundary]
  cases lastValue? "boundary" (parametersOf entries) with
  | none => simp
  | some token => simp

theorem reads_described (hentries : ∀ entry ∈ entries, entry.WellFormed)
    (hboundary : HasBoundary entries) : (described media entries).Reads media entries := by
  have hget : ∀ name, (described media entries).parameters.get? name =
      lastValue? name (parametersOf entries) := get?_described hentries
  obtain ⟨token, htoken, -⟩ := hboundary
  refine ⟨rfl, hget, fun name => hget _, ?_, hget _, hget _, hget _⟩
  rw [boundary, hget, htoken]
  rfl

/-- A written content type is read back: it is refused with its trimmed text if and only if its
last boundary is missing or empty, and otherwise it is read with its last parameters. -/
theorem parse_reads_entries (hmedia : ';' ∉ media)
    (hitems : ∀ item ∈ items, item.WellFormed) :
    (parse (String.ofList (written media items)) =
        .error (.noBoundary (String.ofList (trim (written media items)))) ↔
      ¬HasBoundary (items.map Item.entry)) ∧
    (HasBoundary (items.map Item.entry) →
      ∃ contentType, parse (String.ofList (written media items)) = .ok contentType ∧
        contentType.Reads media (items.map Item.entry)) := by
  have hentries : ∀ entry ∈ items.map Item.entry, entry.WellFormed := by
    intro entry hentry
    obtain ⟨item, hitem, rfl⟩ := List.mem_map.mp hentry
    exact (hitems item hitem).entry
  have hparse := parse_written hmedia hitems
  have hiff : HasBoundary (items.map Item.entry) ↔
      (described media (items.map Item.entry)).boundary.isEmpty = false := hasBoundary_iff hentries
  constructor
  · rw [hparse, hiff]
    cases (described media (items.map Item.entry)).boundary.isEmpty <;> simp
  · intro hboundary
    refine ⟨_, ?_, reads_described hentries hboundary⟩
    rw [hparse, hiff.mp hboundary, if_neg Bool.false_ne_true]

def mixedItems : List Item :=
  [⟨.bare "weird".toList, ⟨[' '], [], [], []⟩⟩,
    ⟨.plain "boundary".toList "old".toList, ⟨[], [], [], [' ']⟩⟩,
    ⟨.quoted "BOUNDARY".toList "a;b\"é\\".toList "x=".toList, ⟨['\t'], [], [], [' ']⟩⟩,
    ⟨.bare [], ⟨[], [], [], []⟩⟩,
    ⟨.plain "Start".toList "<r>".toList, ⟨[' '], [], [], [' ']⟩⟩]

theorem parse_reads_entries_mixed : ∃ contentType,
    parse "Multipart/Related; weird;boundary=old ;\tBOUNDARY=\"a;b\\\"é\\\\\"x= ;; Start=<r> " =
      .ok contentType ∧
    contentType.Reads "Multipart/Related".toList (mixedItems.map Item.entry) ∧
    contentType.boundary = "a;b\"é\\" ∧ contentType.parameter? "START" = some "<r>" := by
  have hlast : lastValue? "boundary" (parametersOf (mixedItems.map Item.entry)) =
      some "a;b\"é\\" := by
    decide +kernel
  have hmedia : ';' ∉ "Multipart/Related".toList := by decide +kernel
  have hitems : ∀ item ∈ mixedItems, item.WellFormed := by decide +kernel
  obtain ⟨contentType, hparse, hreads⟩ :=
    (parse_reads_entries hmedia hitems).2 ⟨_, hlast, by decide⟩
  refine ⟨contentType, hparse, hreads, ?_, ?_⟩
  · exact Option.some.inj (hreads.boundary.symm.trans hlast)
  · rw [hreads.parameter?]
    decide +kernel

end Multipart.ContentType
