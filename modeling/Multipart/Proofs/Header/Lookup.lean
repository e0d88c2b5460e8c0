import Multipart.Part
import Multipart.Proofs.Header.Extent
import Multipart.Proofs.Header.Unfolding
import Multipart.Proofs.Text.Lowercase

/-! # Headers looked up by name

A part stores the names of its headers in lower case, and a name that is looked up has its ASCII
letters in lower case. It finds the first header of that name in any case if only ASCII letters of
it are capitals. Otherwise it finds nothing, although a header may be written with that very
name. -/

namespace Multipart.Header

open Text (lower lowerAscii AsciiCased)

def headerLines (text : List Char) : List (List Char) :=
  (Text.lines text).filter startsHeader

def writtenName (line : List Char) : List Char :=
  Text.trim (beforeColon line)

def storedName (line : List Char) : String :=
  String.ofList (lower (writtenName line))

variable {text line : List Char} {lines : List (List Char)} {headers : List Header} {part : Part}
  {name : String}

/-! ## Stored names -/

/-- A line adds its name if it starts a header, and none otherwise. -/
theorem map_name_addLine (drafts : List Draft) (line : List Char) :
    (addLine drafts line).map (·.header.name) =
      if startsHeader line then storedName line :: drafts.map (·.header.name)
      else drafts.map (·.header.name) := by
  by_cases hstarts : startsHeader line
  · rw [addLine_of_startsHeader hstarts, if_pos hstarts]
    rfl
  · rw [if_neg hstarts]
    by_cases hfold : isContinuation line
    · cases drafts with
      | nil => simp only [addLine, hfold, ite_true]
      | cons last rest =>
          rw [addLine_of_isContinuation hfold]
          rfl
    · rw [addLine_of_not_startsHeader hstarts hfold]

theorem map_name_foldl (lines : List (List Char)) (drafts : List Draft) :
    (lines.foldl addLine drafts).map (·.header.name) =
      ((lines.filter startsHeader).map storedName).reverse ++ drafts.map (·.header.name) := by
  induction lines generalizing drafts with
  | nil => rfl
  | cons line lines ih =>
      rw [List.foldl_cons, ih, map_name_addLine, List.filter_cons]
      split <;> simp

/-- The headers of a text have the names of the lines that start them. -/
theorem map_name_unfold (text : List Char) :
    (unfold text).map Header.name = (headerLines text).map storedName := by
  rw [unfold_eq, unfoldLines, List.map_reverse, List.map_map]
  have hnames := map_name_foldl (Text.lines text) []
  rw [List.map_nil, List.append_nil] at hnames
  rw [headerLines, ← List.reverse_reverse (List.map storedName _), ← hnames]
  rfl

/-! ## Looking up -/

theorem header?_isSome_iff :
    (part.header? name).isSome ↔
      String.ofList (lowerAscii name.toList) ∈ part.headers.map Header.name := by
  rw [Part.header?, Part.firstHeader?, Option.isSome_map, List.find?_isSome, List.mem_map]
  simp

/-- The first header of a name is found. -/
theorem header?_of_names {front back : List String}
    (h : part.headers.map Header.name =
      front ++ String.ofList (lowerAscii name.toList) :: back)
    (hfront : String.ofList (lowerAscii name.toList) ∉ front) :
    ∃ header, part.headers[front.length]? = some header ∧
      part.header? name = some header.value := by
  obtain ⟨before, rest, hsplit, rfl, hrest⟩ := List.map_eq_append_iff.mp h
  obtain ⟨header, after, rfl, hname, -⟩ := List.map_eq_cons_iff.mp hrest
  refine ⟨header, by simp [hsplit], ?_⟩
  have hbefore : before.find? (fun other => other.name = String.ofList (lowerAscii name.toList)) =
      none := by
    rw [List.find?_eq_none]
    intro other hother heq
    apply hfront
    rw [← of_decide_eq_true heq]
    exact List.mem_map_of_mem hother
  rw [Part.header?, Part.firstHeader?, hsplit, List.find?_append, hbefore, Option.none_or,
    List.find?_cons_of_pos (by simpa using hname), Option.map_some]

/-- A name that is found is that of a line in any case, and its capitals are ASCII letters. -/
theorem exists_line_of_isSome (h : part.headers.map Header.name = (headerLines text).map storedName)
    (hsome : (part.header? name).isSome) :
    AsciiCased name.toList ∧ ∃ line ∈ headerLines text,
      lower (writtenName line) = lower name.toList := by
  rw [header?_isSome_iff, h] at hsome
  obtain ⟨line, hline, hname⟩ := List.mem_map.mp hsome
  have hlower : lower (writtenName line) = lowerAscii name.toList := String.ofList_injective hname
  have hsame : lower name.toList = lowerAscii name.toList := by
    rw [← Text.lower_lowerAscii, ← hlower, Text.lower_lower]
  exact ⟨Text.lower_eq_lowerAscii_iff.mp hsame, line, hline, hlower.trans hsame.symm⟩

structure LooksUp (text : List Char) (part : Part) : Prop where
  names : part.headers.map Header.name = (headerLines text).map storedName
  /-- A name finds the first header of that name in any case. -/
  found : ∀ (name : String) front line back, AsciiCased name.toList →
    headerLines text = front ++ line :: back → lower (writtenName line) = lower name.toList →
    (∀ other ∈ front, lower (writtenName other) ≠ lower name.toList) →
    ∃ header, part.headers[front.length]? = some header ∧ part.header? name = some header.value
  absent : ∀ name : String,
    (∀ line ∈ headerLines text, lower (writtenName line) ≠ lower name.toList) →
    part.header? name = none
  /-- A name with a capital beyond ASCII finds nothing. -/
  lost : ∀ name : String, ¬AsciiCased name.toList → part.header? name = none
  /-- A header that is written finds itself under its name, or one before it. -/
  own : ∀ line ∈ headerLines text,
    (part.header? (String.ofList (writtenName line))).isSome ↔ AsciiCased (writtenName line)

theorem looksUp_of_headers (h : part.headers = unfold text) : LooksUp text part := by
  have hnames : part.headers.map Header.name = (headerLines text).map storedName := by
    rw [h, map_name_unfold]
  have hnone : ∀ name : String, ¬(part.header? name).isSome → part.header? name = none := by
    intro name hnot
    simpa using hnot
  refine ⟨hnames, ?_, ?_, ?_, ?_⟩
  · intro name front line back hcased hlines hline hfront
    have hlower := Text.lower_eq_lowerAscii_iff.mpr hcased
    have hstored : ∀ other : List Char, storedName other = String.ofList (lowerAscii name.toList) ↔
        lower (writtenName other) = lower name.toList := by
      intro other
      rw [storedName, String.ofList_inj, hlower]
    rw [hlines, List.map_append, List.map_cons, (hstored line).mpr hline] at hnames
    have hlength : front.length = (front.map storedName).length := by
      rw [List.length_map]
    rw [hlength]
    apply header?_of_names hnames
    intro hmem
    obtain ⟨other, hother, heq⟩ := List.mem_map.mp hmem
    exact hfront other hother ((hstored other).mp heq)
  · intro name habsent
    apply hnone
    intro hsome
    obtain ⟨-, line, hline, heq⟩ := exists_line_of_isSome hnames hsome
    exact habsent line hline heq
  · intro name hcased
    apply hnone
    intro hsome
    exact hcased (exists_line_of_isSome hnames hsome).1
  · intro line hline
    constructor
    · intro hsome
      have hcased := (exists_line_of_isSome hnames hsome).1
      rwa [String.toList_ofList] at hcased
    · intro hcased
      rw [header?_isSome_iff, hnames, String.toList_ofList,
        ← Text.lower_eq_lowerAscii_iff.mpr hcased]
      exact List.mem_map_of_mem hline

/-- What is looked up in every part with the headers of a block that is read. -/
theorem readBlock_looks_up {limit : Nat} {cursor after : Cursor}
    (h : readBlock limit cursor = .ok headers after) :
    ∃ lines, readLines limit [] 0 cursor = .ok lines after ∧ ∀ data start,
      LooksUp (Text.Charset.decode lines.flatten) ⟨headers, data, start⟩ := by
  rw [readBlock] at h
  split at h
  · contradiction
  · rename_i lines last hlines
    cases h
    exact ⟨lines, hlines, fun data start => looksUp_of_headers rfl⟩

def accentedNames : List UInt8 :=
  Text.Utf8.encode "X-ID: 1\r\nÉ: 2\r\nx-id: 3\r\n\r\n".toList

theorem readBlock_accentedNames :
    ∃ after, readLines 64 [] 0 (.ofSource (.ofBytes accentedNames)) =
        .ok (blockLines accentedNames) after ∧
      readBlock 64 (.ofSource (.ofBytes accentedNames)) =
        .ok [⟨"x-id", "1"⟩, ⟨"é", "2"⟩, ⟨"x-id", "3"⟩] after := by
  have hfits : 0 + (blockBytes accentedNames).length ≤ 64 := by decide +kernel
  have hheaders : unfold (Text.Charset.decode (blockLines accentedNames).flatten) =
      [⟨"x-id", "1"⟩, ⟨"é", "2"⟩, ⟨"x-id", "3"⟩] := by decide +kernel
  obtain ⟨after, hlines, -⟩ := readLines_of_fits [] (Cursor.faces_ofBytes accentedNames _) hfits
    (by decide +kernel)
  rw [List.reverse_nil, List.nil_append] at hlines
  exact ⟨after, hlines, by rw [readBlock, hlines, ← hheaders]⟩

theorem readBlock_looks_up_accented_names :
    ∃ headers after, readBlock 64 (.ofSource (.ofBytes accentedNames)) = .ok headers after ∧
      (∃ lines, readLines 64 [] 0 (.ofSource (.ofBytes accentedNames)) = .ok lines after ∧
        ∀ data start, LooksUp (Text.Charset.decode lines.flatten) ⟨headers, data, start⟩) ∧
      (⟨headers, [], 0⟩ : Part).header? "x-Id" = some "1" ∧
      (⟨headers, [], 0⟩ : Part).header? "é" = some "2" ∧
      (⟨headers, [], 0⟩ : Part).header? "É" = none := by
  obtain ⟨after, -, hread⟩ := readBlock_accentedNames
  exact ⟨_, after, hread, readBlock_looks_up hread, by decide +kernel, by decide +kernel,
    by decide +kernel⟩

/-- A header is not always found under the name that is written on its line. -/
theorem not_readBlock_finds_own :
    ¬∀ limit cursor lines headers after, readLines limit [] 0 cursor = .ok lines after →
      readBlock limit cursor = .ok headers after →
      ∀ line ∈ headerLines (Text.Charset.decode lines.flatten), ∀ data start,
        (Part.header? ⟨headers, data, start⟩ (String.ofList (writtenName line))).isSome := by
  intro hfinds
  obtain ⟨after, hlines, hread⟩ := readBlock_accentedNames
  have hown := hfinds _ _ _ _ _ hlines hread "É: 2".toList (by decide +kernel) [] 0
  exact absurd hown (by decide +kernel)

end Multipart.Header
