import Multipart.Proofs.ContentType.Characters

/-! # Parameters round by round

Reading parameters goes through the bytes of a text in rounds, one for each entry. This module keeps
the places in the text: where a round starts and ends, which slices it takes and which bytes it
collects between quotation marks. Every round moves on. A backslash may leave the reader inside a
character, but it is between two characters again wherever it takes a slice, and the bytes collected
are the characters of the quoted text without the backslashes that escape. -/

namespace Multipart.ContentType

open Text (lowerAscii trim)
open Text.Utf8 (decode? decodeLossy encode encode_append encode_cons)

/-! ## Places -/

/-- The first place from `start` on whose byte does not satisfy `p`, or the end of the bytes. -/
def skipWhile (p : UInt8 → Bool) (bytes : List UInt8) (start : Nat) : Nat :=
  start + ((bytes.drop start).takeWhile p).length

/-- The place after the closing quotation mark of a value whose quoted text starts at a place. -/
def closing (bytes : List UInt8) (opening : Nat) : Nat :=
  bytes.length - (quotedValue (bytes.drop opening)).2.length

/-- What stands between two places. -/
structure Slice where
  start : Nat
  stop : Nat
  deriving DecidableEq, Repr

def Slice.of (slice : Slice) (bytes : List UInt8) : List UInt8 :=
  (bytes.drop slice.start).take (slice.stop - slice.start)

/-- The name of the entry at a place, after separators. -/
def nameAt (bytes : List UInt8) (start : Nat) : Slice :=
  let entry := skipWhile isSeparator bytes start
  ⟨entry, skipWhile (!endsName ·) bytes entry⟩

/-- Where the value after a name starts. -/
def valueStart (bytes : List UInt8) (name : Slice) : Nat :=
  skipWhile Octet.isBlank bytes (name.stop + 1)

/-! ## Rounds -/

inductive Finding where
  /-- An attribute without a value. -/
  | bare
  /-- A parameter with a value that is not quoted. -/
  | plain (name value : Slice)
  /-- A parameter with a quoted value: where the quoted text starts, and the bytes collected. -/
  | quoted (name : Slice) (opening : Nat) (collected : List UInt8)
  deriving DecidableEq, Repr

def Finding.slices : Finding → List Slice
  | bare => []
  | plain name value => [name, value]
  | quoted name _ _ => [name]

structure Round where
  start : Nat
  finding : Finding
  /-- Where the next round starts. -/
  next : Nat
  deriving DecidableEq, Repr

/-- The round that starts at a place. None if no name comes to its end there. -/
def round? (bytes : List UInt8) (start : Nat) : Option Round :=
  let name := nameAt bytes start
  let first := valueStart bytes name
  match bytes[name.stop]? with
  | none => none
  | some byte =>
      if byte = Octet.semicolon then some ⟨start, .bare, name.stop + 1⟩
      else if bytes[first]? = some Octet.quote then
        some ⟨start, .quoted name (first + 1) (quotedValue (bytes.drop (first + 1))).1,
          skipWhile (· ≠ Octet.semicolon) bytes (closing bytes (first + 1))⟩
      else
        let last := skipWhile (· ≠ Octet.semicolon) bytes first
        some ⟨start, .plain name ⟨first, last⟩, last⟩

def Round.parameter? (bytes : List UInt8) (round : Round) : Option (List Char × List Char) :=
  let nameOf (slice : Slice) : List Char := lowerAscii (trim (decodeLossy (slice.of bytes)))
  match round.finding with
  | .bare => none
  | .plain name value => some (nameOf name, trim (decodeLossy (value.of bytes)))
  | .quoted name _ collected => some (nameOf name, decodeLossy collected)

/-! ## What a round does -/

section Bytes

variable {p : UInt8 → Bool} {bytes : List UInt8} {start place : Nat} {byte : UInt8} {round : Round}

theorem le_skipWhile (p : UInt8 → Bool) (bytes : List UInt8) (start : Nat) :
    start ≤ skipWhile p bytes start :=
  Nat.le_add_right _ _

theorem skipWhile_le (h : start ≤ bytes.length) : skipWhile p bytes start ≤ bytes.length := by
  have htake := (List.takeWhile_prefix p (l := bytes.drop start)).length_le
  rw [List.length_drop] at htake
  rw [skipWhile]
  omega

theorem drop_skipWhile (p : UInt8 → Bool) (bytes : List UInt8) (start : Nat) :
    bytes.drop (skipWhile p bytes start) = (bytes.drop start).dropWhile p := by
  have hdrop : ((bytes.drop start).takeWhile p ++ (bytes.drop start).dropWhile p).drop
      ((bytes.drop start).takeWhile p).length = (bytes.drop start).dropWhile p := List.drop_left
  rwa [List.takeWhile_append_dropWhile, List.drop_drop] at hdrop

theorem of_skipWhile (p : UInt8 → Bool) (bytes : List UInt8) (start : Nat) :
    (Slice.mk start (skipWhile p bytes start)).of bytes = (bytes.drop start).takeWhile p := by
  rw [Slice.of, skipWhile, Nat.add_sub_cancel_left]
  exact (List.prefix_iff_eq_take.mp (List.takeWhile_prefix p)).symm

theorem drop_of_getElem? (h : bytes[place]? = some byte) :
    bytes.drop place = byte :: bytes.drop (place + 1) := by
  obtain ⟨hlt, hbyte⟩ := List.getElem?_eq_some_iff.mp h
  exact hbyte ▸ List.drop_eq_getElem_cons hlt

theorem lt_of_getElem? (h : bytes[place]? = some byte) : place < bytes.length :=
  (List.getElem?_eq_some_iff.mp h).1

/-- The name at a place ends with an equals sign, a semicolon or the bytes. -/
theorem endsName_of_getElem? (h : bytes[(nameAt bytes start).stop]? = some byte) :
    endsName byte := by
  have hdrop := drop_of_getElem? h
  rw [nameAt, drop_skipWhile] at hdrop
  have hhead := List.head?_dropWhile_not (!endsName ·)
    (bytes.drop (skipWhile isSeparator bytes start))
  rw [hdrop] at hhead
  simpa using hhead

/-- What a round does, by how the name ends and how the value starts. -/
inductive GoesRound (bytes : List UInt8) (start : Nat) : Round → Prop
  | bare : bytes[(nameAt bytes start).stop]? = some Octet.semicolon →
      GoesRound bytes start ⟨start, .bare, (nameAt bytes start).stop + 1⟩
  | plain {first last : Nat} : bytes[(nameAt bytes start).stop]? = some Octet.equals →
      first = valueStart bytes (nameAt bytes start) → bytes[first]? ≠ some Octet.quote →
      last = skipWhile (· ≠ Octet.semicolon) bytes first →
      GoesRound bytes start ⟨start, .plain (nameAt bytes start) ⟨first, last⟩, last⟩
  | quoted {first : Nat} : bytes[(nameAt bytes start).stop]? = some Octet.equals →
      first = valueStart bytes (nameAt bytes start) → bytes[first]? = some Octet.quote →
      GoesRound bytes start
        ⟨start, .quoted (nameAt bytes start) (first + 1) (quotedValue (bytes.drop (first + 1))).1,
          skipWhile (· ≠ Octet.semicolon) bytes (closing bytes (first + 1))⟩

theorem goesRound_of_round? (h : round? bytes start = some round) :
    GoesRound bytes start round := by
  simp only [round?] at h
  split at h
  · contradiction
  · rename_i byte hbyte
    split at h
    · rename_i hsemicolon
      cases h
      exact .bare (hsemicolon ▸ hbyte)
    · rename_i hsemicolon
      have hends := endsName_of_getElem? hbyte
      have hequals : byte = Octet.equals := by
        rw [endsName, Bool.or_eq_true, decide_eq_true_eq, decide_eq_true_eq] at hends
        exact hends.resolve_right hsemicolon
      split at h
      · rename_i hquote
        cases h
        exact .quoted (hequals ▸ hbyte) rfl hquote
      · rename_i hquote
        cases h
        exact .plain (hequals ▸ hbyte) rfl hquote rfl

/-! ## Progress -/

theorem quotedValue_suffix (bytes : List UInt8) : (quotedValue bytes).2 <:+ bytes := by
  fun_induction quotedValue bytes with
  | case1 => exact List.suffix_rfl
  | case2 => exact List.nil_suffix
  | case3 => exact List.nil_suffix
  | case4 second rest value after hvalue ih =>
      rw [hvalue] at ih
      exact (ih.trans (List.suffix_cons second rest)).trans (List.suffix_cons _ _)
  | case5 second rest => exact List.suffix_cons _ _
  | case6 first second rest hescape hquote value after hvalue ih =>
      rw [hvalue] at ih
      exact ih.trans (List.suffix_cons first _)

theorem drop_closing (bytes : List UInt8) (opening : Nat) :
    bytes.drop (closing bytes opening) = (quotedValue (bytes.drop opening)).2 :=
  (List.suffix_iff_eq_drop.mp
    ((quotedValue_suffix (bytes.drop opening)).trans (List.drop_suffix opening bytes))).symm

theorem closing_le (bytes : List UInt8) (opening : Nat) : closing bytes opening ≤ bytes.length :=
  Nat.sub_le _ _

theorem le_closing (h : start ≤ bytes.length) : start ≤ closing bytes start := by
  have hsuffix := (quotedValue_suffix (bytes.drop start)).length_le
  rw [List.length_drop] at hsuffix
  rw [closing]
  omega

theorem le_nameAt (bytes : List UInt8) (start : Nat) :
    start ≤ (nameAt bytes start).start ∧
      (nameAt bytes start).start ≤ (nameAt bytes start).stop :=
  ⟨le_skipWhile _ _ _, le_skipWhile _ _ _⟩

/-- A round moves on, and not beyond the end. -/
theorem GoesRound.progress (h : GoesRound bytes start round) :
    start < round.next ∧ round.next ≤ bytes.length := by
  have hname := le_nameAt bytes start
  cases h with
  | bare hstop => exact ⟨by dsimp only; omega, lt_of_getElem? hstop⟩
  | @plain first last hstop hfirst hplain hlast =>
      have hvalue := le_skipWhile Octet.isBlank bytes ((nameAt bytes start).stop + 1)
      have hend := le_skipWhile (· ≠ Octet.semicolon) bytes first
      have hle := skipWhile_le (p := Octet.isBlank) (Nat.succ_le_of_lt (lt_of_getElem? hstop))
      rw [← valueStart, ← hfirst] at hvalue hle
      rw [← hlast] at hend
      exact ⟨by dsimp only; omega, hlast ▸ skipWhile_le hle⟩
  | @quoted first hstop hfirst hquote =>
      have hvalue := le_skipWhile Octet.isBlank bytes ((nameAt bytes start).stop + 1)
      have hclosing : first + 1 ≤ closing bytes (first + 1) :=
        le_closing (Nat.succ_le_of_lt (lt_of_getElem? hquote))
      have hend := le_skipWhile (· ≠ Octet.semicolon) bytes (closing bytes (first + 1))
      rw [← valueStart, ← hfirst] at hvalue
      exact ⟨by dsimp only; omega, skipWhile_le (closing_le bytes (first + 1))⟩

end Bytes

def rounds (bytes : List UInt8) (start : Nat) : List Round :=
  match _h : round? bytes start with
  | none => []
  | some round => round :: rounds bytes round.next
termination_by bytes.length - start
decreasing_by
  have hprogress := (goesRound_of_round? _h).progress
  omega

/-! ## What is read -/

section Reading

variable {bytes : List UInt8} {start place : Nat} {byte : UInt8} {round : Round}

theorem drop_nameAt (bytes : List UInt8) (start : Nat) :
    (bytes.drop start).dropWhile isSeparator = bytes.drop (nameAt bytes start).start ∧
      (bytes.drop (nameAt bytes start).start).takeWhile (!endsName ·) =
        (nameAt bytes start).of bytes ∧
      (bytes.drop (nameAt bytes start).start).dropWhile (!endsName ·) =
        bytes.drop (nameAt bytes start).stop :=
  ⟨(drop_skipWhile _ _ _).symm, (of_skipWhile _ _ _).symm, (drop_skipWhile _ _ _).symm⟩

theorem parameterList_of_none (h : bytes[(nameAt bytes start).stop]? = none) :
    parameterList (bytes.drop start) = [] := by
  obtain ⟨hentry, -, hstop⟩ := drop_nameAt bytes start
  rw [List.drop_eq_nil_of_le (List.getElem?_eq_none_iff.mp h)] at hstop
  rw [parameterList, hentry, hstop]

theorem parameterList_of_semicolon
    (h : bytes[(nameAt bytes start).stop]? = some Octet.semicolon) :
    parameterList (bytes.drop start) =
      parameterList (bytes.drop ((nameAt bytes start).stop + 1)) := by
  obtain ⟨hentry, -, hstop⟩ := drop_nameAt bytes start
  rw [drop_of_getElem? h] at hstop
  rw [parameterList, hentry, hstop]
  exact if_pos rfl

theorem parameterList_of_equals (h : bytes[(nameAt bytes start).stop]? = some Octet.equals) :
    parameterList (bytes.drop start) =
      (lowerAscii (trim (decodeLossy ((nameAt bytes start).of bytes))),
        (value (bytes.drop (valueStart bytes (nameAt bytes start)))).1) ::
      parameterList (value (bytes.drop (valueStart bytes (nameAt bytes start)))).2 := by
  obtain ⟨hentry, hname, hstop⟩ := drop_nameAt bytes start
  rw [drop_of_getElem? h] at hstop
  rw [parameterList, hentry, hstop, hname, valueStart, drop_skipWhile]
  exact if_neg (by decide)

theorem value_of_quote (h : bytes[place]? = some Octet.quote) :
    value (bytes.drop place) =
      (decodeLossy (quotedValue (bytes.drop (place + 1))).1,
        bytes.drop (skipWhile (· ≠ Octet.semicolon) bytes (closing bytes (place + 1)))) := by
  rw [drop_of_getElem? h, drop_skipWhile, drop_closing, value, if_pos rfl]

theorem value_of_not_quote (h : bytes[place]? ≠ some Octet.quote) :
    value (bytes.drop place) =
      (trim (decodeLossy
        ((Slice.mk place (skipWhile (· ≠ Octet.semicolon) bytes place)).of bytes)),
        bytes.drop (skipWhile (· ≠ Octet.semicolon) bytes place)) := by
  rw [of_skipWhile, drop_skipWhile]
  cases hbyte : bytes[place]? with
  | none =>
      rw [List.drop_eq_nil_of_le (List.getElem?_eq_none_iff.mp hbyte)]
      rfl
  | some byte =>
      have hne : byte ≠ Octet.quote := by
        rintro rfl
        exact h hbyte
      rw [drop_of_getElem? hbyte, value, if_neg hne]

/-- A round reads its parameter, and the next round reads on. -/
theorem GoesRound.parameterList_eq (h : GoesRound bytes start round) :
    parameterList (bytes.drop start) =
      (round.parameter? bytes).toList ++ parameterList (bytes.drop round.next) := by
  cases h with
  | bare hstop => exact parameterList_of_semicolon hstop
  | plain hstop hfirst hplain hlast =>
      rw [parameterList_of_equals hstop, ← hfirst, value_of_not_quote hplain, ← hlast]
      rfl
  | quoted hstop hfirst hquote =>
      rw [parameterList_of_equals hstop, ← hfirst, value_of_quote hquote]
      rfl

/-- The parameters are those that the rounds find. -/
theorem parameterList_drop_eq_rounds (bytes : List UInt8) (start : Nat) :
    parameterList (bytes.drop start) =
      (rounds bytes start).filterMap (Round.parameter? bytes) := by
  fun_induction rounds bytes start with
  | case1 start hround =>
      refine parameterList_of_none ?_
      simp only [round?] at hround
      split at hround
      · assumption
      · repeat' split at hround
        all_goals contradiction
  | case2 start round hround ih =>
      rw [(goesRound_of_round? hround).parameterList_eq, ih, List.filterMap_cons]
      cases round.parameter? bytes <;> rfl

end Reading

/-! ## Character boundaries -/

/-- A character of a text starts or ends at a place among its bytes. -/
def IsBoundary (text : List Char) (place : Nat) : Prop :=
  String.Pos.Raw.IsValid (String.ofList text) ⟨place⟩

section Boundaries

variable {p : UInt8 → Bool} {q : Char → Bool} {text front back : List Char} {place : Nat}
  {byte : UInt8}

theorem isBoundary_iff :
    IsBoundary text place ↔ ∃ front back, text = front ++ back ∧ place = (encode front).length := by
  have hsize (chars : List Char) :
      (String.ofList chars).utf8ByteSize = (encode chars).length := by
    rw [← String.size_toByteArray, String.toByteArray_ofList, List.utf8Encode,
      List.size_toByteArray, encode]
  rw [IsBoundary, String.Pos.Raw.isValid_ofList]
  constructor
  · rintro ⟨count, hplace⟩
    rw [hsize] at hplace
    exact ⟨text.take count, text.drop count, (List.take_append_drop count text).symm, hplace⟩
  · rintro ⟨front, back, rfl, rfl⟩
    refine ⟨front.length, ?_⟩
    rw [hsize, List.take_left]

theorem isBoundary_zero (text : List Char) : IsBoundary text 0 :=
  isBoundary_iff.mpr ⟨[], text, rfl, rfl⟩

theorem drop_encode (front back : List Char) :
    (encode (front ++ back)).drop (encode front).length = encode back := by
  rw [encode_append, List.drop_left]

/-- Bytes that are passed over whole characters at a time are passed over to a boundary. -/
theorem IsBoundary.skipWhile (h : IsBoundary text place)
    (hp : ∀ c, ∀ byte ∈ String.utf8EncodeChar c, p byte = q c) :
    IsBoundary text (skipWhile p (encode text) place) := by
  obtain ⟨front, back, rfl, rfl⟩ := isBoundary_iff.mp h
  refine isBoundary_iff.mpr ⟨front ++ back.takeWhile q, back.dropWhile q, ?_, ?_⟩
  · rw [List.append_assoc, List.takeWhile_append_dropWhile]
  · rw [ContentType.skipWhile, drop_encode, Text.Utf8.takeWhile_encode hp, encode_append,
      List.length_append]

/-- An ASCII byte at a boundary is a character of its own. -/
theorem IsBoundary.split_ascii (h : IsBoundary text place)
    (hbyte : (encode text)[place]? = some byte) (hascii : byte.toNat < 0x80) :
    ∃ front back, text = front ++ Char.ofNat byte.toNat :: back ∧
      place = (encode front).length ∧
      place + 1 = (encode (front ++ [Char.ofNat byte.toNat])).length := by
  obtain ⟨front, back, rfl, rfl⟩ := isBoundary_iff.mp h
  have hdrop := drop_of_getElem? hbyte
  rw [drop_encode] at hdrop
  cases back with
  | nil => cases hdrop
  | cons c back =>
      obtain ⟨first, bytes, hbytes⟩ :=
        List.exists_cons_of_ne_nil (String.utf8EncodeChar_ne_nil (c := c))
      rw [encode_cons, hbytes, List.cons_append] at hdrop
      have hmem : byte ∈ String.utf8EncodeChar c := by
        rw [hbytes, ← (List.cons.inj hdrop).1]
        exact List.mem_cons_self
      have hc := (Text.Utf8.eq_iff_of_mem_utf8EncodeChar hmem hascii).mp rfl
      refine ⟨front, back, hc ▸ rfl, rfl, ?_⟩
      rw [encode_append, List.length_append, encode_cons,
        Text.Utf8.utf8EncodeChar_of_ascii hascii]
      rfl

theorem IsBoundary.succ (h : IsBoundary text place) (hbyte : (encode text)[place]? = some byte)
    (hascii : byte.toNat < 0x80) : IsBoundary text (place + 1) := by
  obtain ⟨front, back, rfl, -, hplace⟩ := h.split_ascii hbyte hascii
  refine isBoundary_iff.mpr ⟨front ++ [Char.ofNat byte.toNat], back, ?_, hplace⟩
  rw [List.append_assoc, List.singleton_append]

theorem quotedIn_suffix (text : List Char) : (quotedIn text).2 <:+ text := by
  fun_induction quotedIn text with
  | case1 => exact List.suffix_rfl
  | case2 => exact List.nil_suffix
  | case3 => exact List.nil_suffix
  | case4 second rest ih =>
      exact (ih.trans (List.suffix_cons second rest)).trans (List.suffix_cons _ _)
  | case5 second rest => exact List.suffix_cons _ _
  | case6 first second rest hescape hquote ih => exact ih.trans (List.suffix_cons first _)

/-- However a backslash leaves the reader inside a character, it is at a boundary after the closing
quotation mark. -/
theorem IsBoundary.closing (h : IsBoundary text place) :
    IsBoundary text (closing (encode text) place) := by
  obtain ⟨front, back, rfl, rfl⟩ := isBoundary_iff.mp h
  obtain ⟨quoted, hquoted⟩ := quotedIn_suffix back
  refine isBoundary_iff.mpr ⟨front ++ quoted, (quotedIn back).2, ?_, ?_⟩
  · rw [List.append_assoc, hquoted]
  · have hlength : (encode (front ++ back)).length =
        (encode (front ++ quoted)).length + (encode (quotedIn back).2).length := by
      rw [← List.length_append, ← encode_append, List.append_assoc, hquoted]
    rw [ContentType.closing, drop_encode, quotedValue_encode, hlength, Nat.add_sub_cancel]

end Boundaries

/-! ## Quoted texts -/

/-- A text without unescaped quotation marks, and what it is without the backslashes that escape:
the character after such a backslash stands as it is. -/
inductive Unescapes : List Char → List Char → Prop
  | nil : Unescapes [] []
  | escape {text content : List Char} (c : Char) : Unescapes text content →
      Unescapes ('\\' :: c :: text) (c :: content)
  | literal {c : Char} {text content : List Char} : c ≠ '\\' → c ≠ '"' → Unescapes text content →
      Unescapes (c :: text) (c :: content)

/-- A text after an opening quotation mark is divided into the quoted text, which stands for some
content, and what follows the closing mark. Without a closing mark it is quoted to its end, where a
backslash with nothing to escape stands for itself. -/
inductive Quotation : List Char → List Char → List Char → List Char → Prop
  | closed {quoted content : List Char} (after : List Char) : Unescapes quoted content →
      Quotation (quoted ++ '"' :: after) quoted content after
  | unclosed {quoted content : List Char} : Unescapes quoted content →
      Quotation quoted quoted content []
  | cutShort {quoted content : List Char} : Unescapes quoted content →
      Quotation (quoted ++ ['\\']) (quoted ++ ['\\']) (content ++ ['\\']) []

section Quotations

variable {c : Char} {text quoted content after : List Char}

theorem Unescapes.sublist (h : Unescapes quoted content) : content.Sublist quoted := by
  induction h with
  | nil => exact .slnil
  | escape c h ih => exact .cons _ (.cons_cons c ih)
  | literal hescape hquote h ih => exact .cons_cons _ ih

/-- Nothing is put into a quoted text. -/
theorem Quotation.sublist (h : Quotation text quoted content after) : content.Sublist quoted := by
  cases h with
  | closed after h => exact h.sublist
  | unclosed h => exact h.sublist
  | cutShort h => exact h.sublist.append (List.Sublist.refl _)

theorem Quotation.escape (h : Quotation text quoted content after) (c : Char) :
    Quotation ('\\' :: c :: text) ('\\' :: c :: quoted) (c :: content) after := by
  cases h with
  | closed after h => exact .closed after (.escape c h)
  | unclosed h => exact .unclosed (.escape c h)
  | cutShort h => exact .cutShort (.escape c h)

theorem Quotation.literal (h : Quotation text quoted content after) (hescape : c ≠ '\\')
    (hquote : c ≠ '"') : Quotation (c :: text) (c :: quoted) (c :: content) after := by
  cases h with
  | closed after h => exact .closed after (.literal hescape hquote h)
  | unclosed h => exact .unclosed (.literal hescape hquote h)
  | cutShort h => exact .cutShort (.literal hescape hquote h)

theorem Unescapes.quotedIn_append (h : Unescapes quoted content) (rest : List Char) :
    quotedIn (quoted ++ rest) = (content ++ (quotedIn rest).1, (quotedIn rest).2) := by
  induction h with
  | nil => rfl
  | escape c h ih => rw [List.cons_append, List.cons_append, quotedIn_escape, ih, List.cons_append]
  | literal hescape hquote h ih =>
      rw [List.cons_append, quotedIn_literal hescape hquote, ih, List.cons_append]

theorem exists_quotation (text : List Char) :
    ∃ quoted, Quotation text quoted (quotedIn text).1 (quotedIn text).2 := by
  fun_induction quotedIn text with
  | case1 => exact ⟨[], .unclosed .nil⟩
  | case2 => exact ⟨[], .closed [] .nil⟩
  | case3 last hquote =>
      by_cases hescape : last = '\\'
      · rw [hescape]
        exact ⟨['\\'], .cutShort .nil⟩
      · exact ⟨[last], .unclosed (.literal hescape hquote .nil)⟩
  | case4 second rest ih =>
      obtain ⟨quoted, hquotation⟩ := ih
      exact ⟨_, hquotation.escape second⟩
  | case5 second rest => exact ⟨[], .closed (second :: rest) .nil⟩
  | case6 first second rest hescape hquote ih =>
      obtain ⟨quoted, hquotation⟩ := ih
      exact ⟨_, hquotation.literal hescape hquote⟩

/-- A quoted value is read as the content of its quotation, and there is no other. -/
theorem quotedIn_eq_iff :
    quotedIn text = (content, after) ↔ ∃ quoted, Quotation text quoted content after := by
  constructor
  · intro h
    have hquotation := exists_quotation text
    rwa [h] at hquotation
  · rintro ⟨quoted, h⟩
    cases h with
    | closed after h => rw [h.quotedIn_append, quotedIn_quote, List.append_nil]
    | unclosed h =>
        have hquoted := h.quotedIn_append []
        rwa [List.append_nil, quotedIn, List.append_nil] at hquoted
    | cutShort h =>
        rw [h.quotedIn_append]
        rfl

end Quotations

/-! ## Rounds on a text -/

/-- The bytes collected after an opening quotation mark are the content of the text quoted there.
They are valid, so that none of them is replaced. -/
structure Collects (text : List Char) (opening : Nat) (collected : List UInt8)
    (quoted content : List Char) : Prop where
  stands : ∃ front back after, text = front ++ '"' :: back ∧
    opening = (encode (front ++ ['"'])).length ∧ Quotation back quoted content after
  valid : decode? collected = some content
  decoded : decodeLossy collected = content
  sublist : content.Sublist quoted

/-- A round on a text moves on from one boundary to another, takes slices between boundaries, and
collects the content of a quoted text. -/
structure Round.OnText (text : List Char) (round : Round) : Prop where
  progress : round.start < round.next
  start : IsBoundary text round.start
  next : IsBoundary text round.next
  slices : ∀ slice ∈ round.finding.slices,
    slice.start ≤ slice.stop ∧ IsBoundary text slice.start ∧ IsBoundary text slice.stop
  collects : ∀ name opening collected, round.finding = .quoted name opening collected →
    ∃ quoted content, Collects text opening collected quoted content

section OnText

variable {text : List Char} {place : Nat} {round : Round}

theorem IsBoundary.nameAt (h : IsBoundary text place) :
    IsBoundary text (nameAt (encode text) place).start ∧
      IsBoundary text (nameAt (encode text) place).stop := by
  have hentry := h.skipWhile fun _ _ => isSeparator_of_mem
  exact ⟨hentry, hentry.skipWhile fun _ _ hbyte => congrArg not (endsName_of_mem hbyte)⟩

theorem IsBoundary.skipWhile_ne_semicolon (h : IsBoundary text place) :
    IsBoundary text (ContentType.skipWhile (· ≠ Octet.semicolon) (encode text) place) :=
  h.skipWhile fun _ _ => ne_semicolon_of_mem

theorem IsBoundary.collects (h : IsBoundary text place)
    (hquote : (encode text)[place]? = some Octet.quote) :
    ∃ quoted content,
      Collects text (place + 1) (quotedValue ((encode text).drop (place + 1))).1 quoted
        content := by
  obtain ⟨front, back, htext, -, hplace⟩ := h.split_ascii hquote (by decide)
  have hback : (encode text).drop (place + 1) = encode back := by
    rw [htext, List.append_cons, hplace]
    exact drop_encode _ back
  obtain ⟨quoted, hquotation⟩ := quotedIn_eq_iff.mp (Prod.eta (quotedIn back)).symm
  refine ⟨quoted, (quotedIn back).1, ⟨front, back, (quotedIn back).2, htext, hplace, hquotation⟩,
    ?_, ?_, hquotation.sublist⟩
  · rw [hback, quotedValue_encode, Text.Utf8.decode?_encode]
  · rw [hback, quotedValue_encode, Text.Utf8.decodeLossy_encode]

theorem GoesRound.onText (h : GoesRound (encode text) place round)
    (hplace : IsBoundary text place) : round.OnText text := by
  have hprogress := h.progress.1
  obtain ⟨hstart, hstop⟩ := hplace.nameAt
  have hname := (le_nameAt (encode text) place).2
  cases h with
  | bare hsemicolon =>
      exact ⟨hprogress, hplace, hstop.succ hsemicolon (by decide), by simp [Finding.slices],
        by simp⟩
  | @plain first last hequals hfirst hplain hlast =>
      have hvalue : IsBoundary text first := by
        rw [hfirst]
        exact (hstop.succ hequals (by decide)).skipWhile fun _ _ => isBlank_of_mem
      have hend : IsBoundary text last := hlast ▸ hvalue.skipWhile_ne_semicolon
      refine ⟨hprogress, hplace, hend, ?_, by simp⟩
      intro slice hslice
      rw [Finding.slices, List.mem_cons, List.mem_singleton] at hslice
      rcases hslice with rfl | rfl
      · exact ⟨hname, hstart, hstop⟩
      · exact ⟨hlast ▸ le_skipWhile _ _ _, hvalue, hend⟩
  | @quoted first hequals hfirst hquote =>
      have hvalue : IsBoundary text first := by
        rw [hfirst]
        exact (hstop.succ hequals (by decide)).skipWhile fun _ _ => isBlank_of_mem
      have hopening := hvalue.succ hquote (by decide)
      refine ⟨hprogress, hplace, hopening.closing.skipWhile_ne_semicolon, ?_, ?_⟩
      · intro slice hslice
        rw [List.mem_singleton.mp hslice]
        exact ⟨hname, hstart, hstop⟩
      · intro name opening collected hfinding
        cases hfinding
        exact hvalue.collects hquote

theorem onText_of_mem_rounds (hplace : IsBoundary text place)
    (h : round ∈ rounds (encode text) place) : round.OnText text := by
  fun_induction rounds (encode text) place with
  | case1 place hround => cases h
  | case2 place first hround ih =>
      have honText := (goesRound_of_round? hround).onText hplace
      rcases List.mem_cons.mp h with rfl | hrest
      · exact honText
      · exact ih honText.next hrest

/-- The parameters of a text are read in rounds that all move on. Whatever characters stand in the
text, every slice that is taken starts and ends at a boundary, and a quoted value is the quoted text
without its escaping backslashes, read from valid bytes. -/
theorem parameterList_rounds (text : List Char) :
    parameterList (encode text) =
        (rounds (encode text) 0).filterMap (Round.parameter? (encode text)) ∧
      ∀ round ∈ rounds (encode text) 0, round.OnText text :=
  ⟨parameterList_drop_eq_rounds (encode text) 0,
    fun _ hround => onText_of_mem_rounds (isBoundary_zero text) hround⟩

/-- The backslash before the two bytes of the second character leaves the reader between them. -/
example : rounds (encode "x;b=\"a\\é".toList) 0 =
    [⟨0, .bare, 2⟩, ⟨2, .quoted ⟨2, 3⟩ 5 (encode "aé".toList), 9⟩] := by decide +kernel

end OnText

end Multipart.ContentType
