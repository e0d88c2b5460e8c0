import Multipart.Error
import Multipart.Octet
import Multipart.Table
import Multipart.Text.Blank
import Multipart.Text.Lowercase
import Multipart.Text.Utf8

/-!
# Content types

A content type is a media type and parameters, separated by semicolons. Parameters are read from the
bytes of the text; a value may be quoted, with backslashes that make the next byte literal. Entries
that are not parameters are passed over.
-/

namespace Multipart

namespace ContentType

/-! ## Parameters -/

/-- A quoted value after its opening quotation mark, and what follows its closing one. A value
without a closing mark goes on to the end; a backslash at the end is literal. -/
def quotedValue : List UInt8 → List UInt8 × List UInt8
  | [] => ([], [])
  | [last] => if last = Octet.quote then ([], []) else ([last], [])
  | first :: second :: rest =>
      if first = Octet.backslash then
        let (value, after) := quotedValue rest
        (second :: value, after)
      else if first = Octet.quote then ([], second :: rest)
      else
        let (value, after) := quotedValue (second :: rest)
        (first :: value, after)

/-- The value at the front and what follows it, from the next semicolon on. -/
def value (bytes : List UInt8) : List Char × List UInt8 :=
  match bytes with
  | [] => ([], [])
  | first :: rest =>
      if first = Octet.quote then
        let (value, after) := quotedValue rest
        (Text.Utf8.decodeLossy value, after.dropWhile (· ≠ Octet.semicolon))
      else
        (Text.trim (Text.Utf8.decodeLossy (bytes.takeWhile (· ≠ Octet.semicolon))),
          bytes.dropWhile (· ≠ Octet.semicolon))

theorem length_quotedValue_le (bytes : List UInt8) :
    (quotedValue bytes).2.length ≤ bytes.length := by
  fun_induction quotedValue bytes <;> simp_all <;> omega

theorem length_value_le (bytes : List UInt8) : (value bytes).2.length ≤ bytes.length := by
  cases bytes with
  | nil => simp [value]
  | cons first rest =>
      simp only [value]
      split
      · have hquoted := length_quotedValue_le rest
        have hdrop := (List.dropWhile_suffix (l := (quotedValue rest).2)
          (· ≠ Octet.semicolon)).length_le
        simp only [List.length_cons]
        omega
      · exact (List.dropWhile_suffix _).length_le

def isSeparator (b : UInt8) : Bool :=
  b = Octet.semicolon || Octet.isSpace b

def endsName (b : UInt8) : Bool :=
  b = Octet.equals || b = Octet.semicolon

/-- The parameters of a list, in its order. An entry without an equals sign is passed over. -/
def parameterList (bytes : List UInt8) : List (List Char × List Char) :=
  let entry := bytes.dropWhile isSeparator
  match _h : entry.dropWhile (!endsName ·) with
  | [] => []
  | stop :: rest =>
      if stop = Octet.semicolon then parameterList rest
      else
        let name := Text.lowerAscii
          (Text.trim (Text.Utf8.decodeLossy (entry.takeWhile (!endsName ·))))
        let found := value (rest.dropWhile Octet.isBlank)
        (name, found.1) :: parameterList found.2
termination_by bytes.length
decreasing_by
  all_goals
    have hentry := (List.dropWhile_suffix (l := bytes) isSeparator).length_le
    have hstop := (List.dropWhile_suffix (l := entry) (!endsName ·)).length_le
    rw [_h, List.length_cons] at hstop
    have hentry : entry.length ≤ bytes.length := hentry
  · omega
  · have hblank := (List.dropWhile_suffix (l := rest) Octet.isBlank).length_le
    have hvalue := length_value_le (rest.dropWhile Octet.isBlank)
    have hvalue : found.2.length ≤ (rest.dropWhile Octet.isBlank).length := hvalue
    change found.2.length < bytes.length
    omega

/-- The table of some parameters. A later one replaces an earlier one of its name, and one without
a name is left out. -/
def table (parameters : List (List Char × List Char)) : Table String :=
  parameters.foldl (fun table (name, value) =>
    if name.isEmpty then table else table.insert (String.ofList name) (String.ofList value)) .empty

example : parameterList (Text.Utf8.encode "x; A=b ;c=\"d;\\\"\" e".toList) =
    [("a".toList, "b".toList), ("c".toList, "d;\"".toList)] := by decide +kernel

end ContentType

structure ContentType where
  /-- The type and subtype, in lower case. -/
  mediaType : String
  parameters : Table String

namespace ContentType

/-- The value of a parameter, whose name may be in any case. -/
def parameter? (contentType : ContentType) (name : String) : Option String :=
  contentType.parameters.get? (String.ofList (Text.lowerAscii name.toList))

/-- Whether the parts of a body of this type are separated by delimiters. -/
def isMultipart (contentType : ContentType) : Bool :=
  "multipart/".toList.isPrefixOf contentType.mediaType.toList

def boundary (contentType : ContentType) : String :=
  (contentType.parameters.get? "boundary").getD ""

def start? (contentType : ContentType) : Option String :=
  contentType.parameter? "start"

def rootType? (contentType : ContentType) : Option String :=
  contentType.parameter? "type"

def startInfo? (contentType : ContentType) : Option String :=
  contentType.parameter? "start-info"

/-- Reads a content type. It has to have a boundary that is not empty. -/
def parse (text : String) : Except Error ContentType :=
  let text := Text.trim text.toList
  let mediaType := Text.lowerAscii (Text.trim (text.takeWhile (· ≠ ';')))
  let parameters := table
    (parameterList (Text.Utf8.encode ((text.dropWhile (· ≠ ';')).drop 1)))
  let contentType : ContentType := ⟨String.ofList mediaType, parameters⟩
  if contentType.boundary.isEmpty then .error (.noBoundary (String.ofList text))
  else .ok contentType

end ContentType

end Multipart
