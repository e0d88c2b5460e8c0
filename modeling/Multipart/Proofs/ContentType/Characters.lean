import Multipart.ContentType
import Multipart.Proofs.Text.Ascii

/-! # Parameters character by character

Parameters are read from the bytes of a text. All bytes with a meaning are ASCII, so that they are
read as if the characters of the text were read: no character is cut apart, and no byte of a
quoted value is replaced. -/

namespace Multipart.ContentType

open Text.Utf8 (encode encode_cons)

/-! ## Reading characters -/

def quotedIn : List Char → List Char × List Char
  | [] => ([], [])
  | [last] => if last = '"' then ([], []) else ([last], [])
  | first :: second :: rest =>
      if first = '\\' then (second :: (quotedIn rest).1, (quotedIn rest).2)
      else if first = '"' then ([], second :: rest)
      else (first :: (quotedIn (second :: rest)).1, (quotedIn (second :: rest)).2)

def valueIn (text : List Char) : List Char × List Char :=
  match text with
  | [] => ([], [])
  | first :: rest =>
      if first = '"' then ((quotedIn rest).1, (quotedIn rest).2.dropWhile (· ≠ ';'))
      else (Text.trim (text.takeWhile (· ≠ ';')), text.dropWhile (· ≠ ';'))

def separates (c : Char) : Bool :=
  c = ';' || (c = ' ' || c = '\t' || c = '\n' || c = '\x0c' || c = '\r')

def stopsName (c : Char) : Bool :=
  c = '=' || c = ';'

def isPadding (c : Char) : Bool :=
  c = ' ' || c = '\t'

/-! ## Quoted values -/

variable {c : Char} {byte : UInt8}

theorem quotedIn_quote (rest : List Char) : quotedIn ('"' :: rest) = ([], rest) := by
  cases rest <;> rfl

theorem quotedIn_escape (c : Char) (rest : List Char) :
    quotedIn ('\\' :: c :: rest) = (c :: (quotedIn rest).1, (quotedIn rest).2) := by
  rw [quotedIn, if_pos rfl]

theorem quotedIn_literal (hescape : c ≠ '\\') (hquote : c ≠ '"') (rest : List Char) :
    quotedIn (c :: rest) = (c :: (quotedIn rest).1, (quotedIn rest).2) := by
  cases rest with
  | nil => simp [quotedIn, hquote]
  | cons second rest => rw [quotedIn, if_neg hescape, if_neg hquote]

theorem quotedValue_quote (rest : List UInt8) : quotedValue (Octet.quote :: rest) = ([], rest) := by
  cases rest <;> rfl

theorem quotedValue_escape (byte : UInt8) (rest : List UInt8) :
    quotedValue (Octet.backslash :: byte :: rest) =
      (byte :: (quotedValue rest).1, (quotedValue rest).2) := by
  rw [quotedValue, if_pos rfl]

theorem quotedValue_literal (hescape : byte ≠ Octet.backslash) (hquote : byte ≠ Octet.quote)
    (rest : List UInt8) :
    quotedValue (byte :: rest) = (byte :: (quotedValue rest).1, (quotedValue rest).2) := by
  cases rest with
  | nil => simp [quotedValue, hquote]
  | cons second rest => rw [quotedValue, if_neg hescape, if_neg hquote]

theorem quotedValue_literals {bytes : List UInt8}
    (h : ∀ byte ∈ bytes, byte ≠ Octet.backslash ∧ byte ≠ Octet.quote) (rest : List UInt8) :
    quotedValue (bytes ++ rest) = (bytes ++ (quotedValue rest).1, (quotedValue rest).2) := by
  induction bytes with
  | nil => rfl
  | cons byte bytes ih =>
      rw [List.forall_mem_cons] at h
      rw [List.cons_append, quotedValue_literal h.1.1 h.1.2, ih h.2]
      rfl

theorem ne_of_mem_utf8EncodeChar (hescape : c ≠ '\\') (hquote : c ≠ '"')
    (h : byte ∈ String.utf8EncodeChar c) : byte ≠ Octet.backslash ∧ byte ≠ Octet.quote := by
  constructor
  · rwa [Ne, Text.Utf8.eq_iff_of_mem_utf8EncodeChar h (by decide)]
  · rwa [Ne, Text.Utf8.eq_iff_of_mem_utf8EncodeChar h (by decide)]

/-- The bytes of a character after its first one have no meaning of their own. -/
theorem ne_of_mem_tail {first : UInt8} {bytes : List UInt8}
    (h : String.utf8EncodeChar c = first :: bytes) :
    ∀ byte ∈ bytes, byte ≠ Octet.backslash ∧ byte ≠ Octet.quote := by
  intro byte hbyte
  by_cases hspecial : c = '\\' ∨ c = '"'
  · have hsingle : bytes = [] := by
      rcases hspecial with rfl | rfl
      · have hescape : String.utf8EncodeChar '\\' = [Octet.backslash] := by decide
        exact (List.cons.inj (h.symm.trans hescape)).2
      · have hquote : String.utf8EncodeChar '"' = [Octet.quote] := by decide
        exact (List.cons.inj (h.symm.trans hquote)).2
    rw [hsingle] at hbyte
    cases hbyte
  · rw [not_or] at hspecial
    exact ne_of_mem_utf8EncodeChar hspecial.1 hspecial.2 (h ▸ List.mem_cons_of_mem _ hbyte)

theorem quotedValue_encode_literal (hescape : c ≠ '\\') (hquote : c ≠ '"') (rest : List Char) :
    quotedValue (encode (c :: rest)) =
      (String.utf8EncodeChar c ++ (quotedValue (encode rest)).1,
        (quotedValue (encode rest)).2) := by
  rw [encode_cons]
  exact quotedValue_literals (fun _ hbyte => ne_of_mem_utf8EncodeChar hescape hquote hbyte) _

theorem quotedValue_encode_escape (c : Char) (rest : List Char) :
    quotedValue (encode ('\\' :: c :: rest)) =
      (String.utf8EncodeChar c ++ (quotedValue (encode rest)).1,
        (quotedValue (encode rest)).2) := by
  obtain ⟨first, bytes, hbytes⟩ :=
    List.exists_cons_of_ne_nil (String.utf8EncodeChar_ne_nil (c := c))
  have hescape : String.utf8EncodeChar '\\' = [Octet.backslash] := by decide
  rw [encode_cons, encode_cons, hescape, hbytes, List.singleton_append, List.cons_append,
    quotedValue_escape, quotedValue_literals (ne_of_mem_tail hbytes)]
  rfl

/-- A quoted value is read whole: the bytes of its characters make up its text again. -/
theorem quotedValue_encode (text : List Char) :
    quotedValue (encode text) = (encode (quotedIn text).1, encode (quotedIn text).2) := by
  fun_induction quotedIn text with
  | case1 => rfl
  | case2 => exact quotedValue_quote []
  | case3 last hquote =>
      by_cases hescape : last = '\\'
      · rw [hescape]
        rfl
      · rw [quotedValue_encode_literal hescape hquote]
        rfl
  | case4 second rest ih =>
      rw [quotedValue_encode_escape, ih]
      rfl
  | case5 second rest => exact quotedValue_quote _
  | case6 first second rest hescape hquote ih =>
      rw [quotedValue_encode_literal hescape hquote, ih]
      rfl

/-! ## Values -/

section Bytes

variable (h : byte ∈ String.utf8EncodeChar c)
include h

theorem decide_eq_of_mem {other : UInt8} (hother : other.toNat < 0x80) :
    decide (byte = other) = decide (c = Char.ofNat other.toNat) := by
  rw [decide_eq_decide]
  exact Text.Utf8.eq_iff_of_mem_utf8EncodeChar h hother

theorem isBlank_of_mem : Octet.isBlank byte = isPadding c := by
  rw [Octet.isBlank, decide_eq_of_mem h (by decide), decide_eq_of_mem h (by decide)]
  rfl

theorem isSeparator_of_mem : isSeparator byte = separates c := by
  rw [isSeparator, Octet.isSpace, decide_eq_of_mem h (by decide), decide_eq_of_mem h (by decide),
    decide_eq_of_mem h (by decide), decide_eq_of_mem h (by decide),
    decide_eq_of_mem h (by decide), decide_eq_of_mem h (by decide)]
  rfl

theorem endsName_of_mem : endsName byte = stopsName c := by
  rw [endsName, decide_eq_of_mem h (by decide), decide_eq_of_mem h (by decide)]
  rfl

theorem ne_semicolon_of_mem : decide (byte ≠ Octet.semicolon) = decide (c ≠ ';') := by
  rw [decide_not, decide_not, decide_eq_of_mem h (by decide)]
  rfl

end Bytes

theorem value_encode (text : List Char) :
    value (encode text) = ((valueIn text).1, encode (valueIn text).2) := by
  have htake := Text.Utf8.takeWhile_encode (fun _ _ => ne_semicolon_of_mem)
  have hdrop := Text.Utf8.dropWhile_encode (fun _ _ => ne_semicolon_of_mem)
  cases text with
  | nil => rfl
  | cons c rest =>
      by_cases hquote : c = '"'
      · rw [hquote, encode_cons, valueIn, if_pos rfl]
        change (Text.Utf8.decodeLossy (quotedValue (encode rest)).1,
          (quotedValue (encode rest)).2.dropWhile _) = _
        rw [quotedValue_encode, Text.Utf8.decodeLossy_encode, hdrop]
      · obtain ⟨first, bytes, hbytes⟩ :=
          List.exists_cons_of_ne_nil (String.utf8EncodeChar_ne_nil (c := c))
        have hfirst : first ≠ Octet.quote := by
          have hmem : first ∈ String.utf8EncodeChar c := hbytes ▸ List.mem_cons_self
          rwa [Ne, Text.Utf8.eq_iff_of_mem_utf8EncodeChar hmem (by decide)]
        have hvalue : value (encode (c :: rest)) =
            (Text.trim (Text.Utf8.decodeLossy
              ((encode (c :: rest)).takeWhile (· ≠ Octet.semicolon))),
              (encode (c :: rest)).dropWhile (· ≠ Octet.semicolon)) := by
          rw [encode_cons, hbytes, List.cons_append, value, if_neg hfirst]
        rw [hvalue, htake, hdrop, Text.Utf8.decodeLossy_encode, valueIn, if_neg hquote]

/-! ## Parameters -/

section Parameters

variable {text rest : List Char}

/-- The bytes from the end of the first name on. -/
theorem afterName_encode (text : List Char) :
    ((encode text).dropWhile isSeparator).dropWhile (!endsName ·) =
      encode ((text.dropWhile separates).dropWhile (!stopsName ·)) := by
  rw [Text.Utf8.dropWhile_encode fun _ _ => isSeparator_of_mem]
  exact Text.Utf8.dropWhile_encode (fun _ _ h => congrArg not (endsName_of_mem h)) _

theorem parameterList_encode_nil
    (h : (text.dropWhile separates).dropWhile (!stopsName ·) = []) :
    parameterList (encode text) = [] := by
  rw [parameterList, afterName_encode, h]
  rfl

theorem parameterList_encode_skip
    (h : (text.dropWhile separates).dropWhile (!stopsName ·) = ';' :: rest) :
    parameterList (encode text) = parameterList (encode rest) := by
  have hsemicolon : String.utf8EncodeChar ';' = [Octet.semicolon] := by decide
  rw [parameterList, afterName_encode, h, encode_cons, hsemicolon]
  exact if_pos rfl

theorem parameterList_encode_cons
    (h : (text.dropWhile separates).dropWhile (!stopsName ·) = '=' :: rest) :
    parameterList (encode text) =
      (Text.lowerAscii (Text.trim ((text.dropWhile separates).takeWhile (!stopsName ·))),
        (valueIn (rest.dropWhile isPadding)).1) ::
      parameterList (encode (valueIn (rest.dropWhile isPadding)).2) := by
  have hequals : String.utf8EncodeChar '=' = [Octet.equals] := by decide
  have hname : ((encode text).dropWhile isSeparator).takeWhile (!endsName ·) =
      encode ((text.dropWhile separates).takeWhile (!stopsName ·)) := by
    rw [Text.Utf8.dropWhile_encode fun _ _ => isSeparator_of_mem]
    exact Text.Utf8.takeWhile_encode (fun _ _ h => congrArg not (endsName_of_mem h)) _
  have hvalue : value ((encode rest).dropWhile Octet.isBlank) =
      ((valueIn (rest.dropWhile isPadding)).1, encode (valueIn (rest.dropWhile isPadding)).2) := by
    rw [Text.Utf8.dropWhile_encode fun _ _ => isBlank_of_mem, value_encode]
  rw [parameterList, afterName_encode, h, hname, Text.Utf8.decodeLossy_encode, encode_cons, hequals]
  change (if Octet.equals = Octet.semicolon then _ else
    (_, (value ((encode rest).dropWhile Octet.isBlank)).1) ::
      parameterList (value ((encode rest).dropWhile Octet.isBlank)).2) = _
  rw [if_neg (by decide), hvalue]

end Parameters

end Multipart.ContentType
