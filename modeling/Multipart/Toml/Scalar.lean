import Multipart.Toml.Node
import Multipart.Toml.Reader

/-!
# TOML scalars

Strings, numbers, dates and times. Integers have 64 bits; a number that is too large to be finite is
refused.
-/

namespace Multipart.Toml

/-! ## Strings -/

def hexDigit? (c : Char) : Option Nat :=
  if c.isDigit then some (c.toNat - 48)
  else if 'a' ≤ c && c ≤ 'f' then some (c.toNat - 87)
  else if 'A' ≤ c && c ≤ 'F' then some (c.toNat - 55)
  else none

def ofDigits (base : Nat) (digits : List Char) : Nat :=
  digits.foldl (fun n c => n * base + (hexDigit? c).getD 0) 0

def codePoint (count : Nat) : Reader Char := fun text =>
  let digits := text.take count
  let n := ofDigits 16 digits
  if digits.length = count && digits.all (fun c => (hexDigit? c).isSome) && n.isValidChar then
    some (Char.ofNat n, text.drop count)
  else none

def escape : Reader Char
  | 'b' :: rest => some ('\x08', rest)
  | 't' :: rest => some ('\t', rest)
  | 'n' :: rest => some ('\n', rest)
  | 'f' :: rest => some ('\x0c', rest)
  | 'r' :: rest => some ('\r', rest)
  | '"' :: rest => some ('"', rest)
  | '\\' :: rest => some ('\\', rest)
  | 'u' :: rest => codePoint 4 rest
  | 'U' :: rest => codePoint 8 rest
  | _ => none

def basicCharacter : Reader (List Char)
  | '"' :: _ => none
  | '\\' :: rest => (escape rest).map fun (c, rest) => ([c], rest)
  | c :: rest => if isPrinting c then some ([c], rest) else none
  | [] => none

/-- Takes a character of a basic string of several lines. A backslash at the end of a line takes
the white space after it away; one or two quotation marks are characters. -/
def basicLineCharacter : Reader (List Char)
  | '"' :: '"' :: '"' :: _ => none
  | '"' :: rest => some (['"'], rest)
  | '\\' :: rest =>
      match newline (skipBlanks rest) with
      | some rest => some ([], skipBlankLines rest)
      | none => (escape rest).map fun (c, rest) => ([c], rest)
  | c :: rest =>
      if isPrinting c then some ([c], rest) else (newline (c :: rest)).map (['\n'], ·)
  | [] => none

def apostrophe : Char := '\x27'

def literalCharacter : Reader (List Char)
  | c :: rest => if c != apostrophe && isPrinting c then some ([c], rest) else none
  | [] => none

def literalLineCharacter : Reader (List Char)
  | c :: rest =>
      if c = apostrophe then
        if ((c :: rest).takeWhile (· = apostrophe)).length < 3 then some ([c], rest) else none
      else if isPrinting c then some ([c], rest)
      else (newline (c :: rest)).map (['\n'], ·)
  | [] => none

def shortString (mark : Char) (character : Reader (List Char)) : Reader String := fun text =>
  let (pieces, rest) := Reader.many character text
  (Reader.word [mark] rest).map (String.ofList pieces.flatten, ·)

/-- Takes a string of several lines after its three opening marks. A line end right after them is
left out; of the marks at the end the last three close the string. -/
def longString (mark : Char) (character : Reader (List Char)) : Reader String := fun text =>
  let (pieces, rest) := Reader.many character ((newline text).getD text)
  let marks := min (rest.takeWhile (· = mark)).length 5
  if marks < 3 then none
  else some (String.ofList (pieces.flatten ++ List.replicate (marks - 3) mark), rest.drop marks)

def basicString : Reader String :=
  shortString '"' basicCharacter

def literalString : Reader String :=
  shortString apostrophe literalCharacter

def string : Reader String := fun text =>
  match Reader.word ['"', '"', '"'] text with
  | some rest => longString '"' basicLineCharacter rest
  | none =>
      match Reader.word [apostrophe, apostrophe, apostrophe] text with
      | some rest => longString apostrophe literalLineCharacter rest
      | none =>
          match text with
          | '"' :: rest => basicString rest
          | c :: rest => if c = apostrophe then literalString rest else none
          | [] => none

/-! ## Dates and times -/

/-- Takes a number of exactly so many digits that lies in a range. -/
def fixedNumber (count low high : Nat) : Reader Nat := fun text =>
  let digits := text.take count
  let n := ofDigits 10 digits
  if digits.length = count && digits.all Char.isDigit && low ≤ n && n ≤ high then
    some (n, text.drop count)
  else none

def daysInMonth (year month : Nat) : Nat :=
  if month = 2 then
    if year % 4 = 0 && (year % 100 != 0 || year % 400 = 0) then 29 else 28
  else if month = 4 || month = 6 || month = 9 || month = 11 then 30
  else 31

def date (text : List Char) : Option (List Char) := do
  let (year, text) ← fixedNumber 4 0 9999 text
  let text ← Reader.word ['-'] text
  let (month, text) ← fixedNumber 2 1 12 text
  let text ← Reader.word ['-'] text
  let (_, text) ← fixedNumber 2 1 (daysInMonth year month) text
  return text

def skipFraction : List Char → List Char
  | '.' :: c :: rest => if c.isDigit then rest.dropWhile Char.isDigit else '.' :: c :: rest
  | text => text

def hoursMinutes (text : List Char) : Option (List Char) := do
  let (_, text) ← fixedNumber 2 0 23 text
  let text ← Reader.word [':'] text
  let (_, text) ← fixedNumber 2 0 59 text
  return text

def time (text : List Char) : Option (List Char) := do
  let text ← hoursMinutes text
  let text ← Reader.word [':'] text
  let (_, text) ← fixedNumber 2 0 60 text
  return skipFraction text

def skipOffset : List Char → List Char
  | c :: rest =>
      if c = 'Z' || c = 'z' then rest
      else if c = '+' || c = '-' then (hoursMinutes rest).getD (c :: rest)
      else c :: rest
  | [] => []

/-- Takes what separates a time from its date, and the time with its offset. -/
def timeAfterDate : List Char → Option (List Char)
  | c :: rest =>
      if c = 'T' || c = 't' || c = ' ' then (time rest).map skipOffset else none
  | [] => none

def dateTime : Reader Node := fun text =>
  match date text with
  | some rest => some (.dateTime, (timeAfterDate rest).getD rest)
  | none => (time text).map (.dateTime, ·)

/-! ## Numbers -/

/-- Takes a digit after other digits: an underscore may stand before it. -/
def furtherDigit (isDigit : Char → Bool) : Reader Char
  | '_' :: c :: rest => if isDigit c then some (c, rest) else none
  | c :: rest => if isDigit c then some (c, rest) else none
  | [] => none

def digits (isDigit : Char → Bool) : Reader (List Char)
  | c :: rest =>
      if isDigit c then
        let (others, rest) := Reader.many (furtherDigit isDigit) rest
        some (c :: others, rest)
      else none
  | [] => none

def sign : List Char → Bool × List Char
  | '-' :: rest => (true, rest)
  | '+' :: rest => (false, rest)
  | text => (false, text)

def decimalDigits : Reader (List Char)
  | '0' :: rest => some (['0'], rest)
  | text => digits Char.isDigit text

def integerNode? (negative : Bool) (size : Nat) : Option Node :=
  if negative then
    if size ≤ 1 <<< 63 then some (.integer (-(size : Int))) else none
  else if size < 1 <<< 63 then some (.integer size) else none

def basedInteger (base : Nat) : Reader Node := fun text => do
  let isDigit (c : Char) : Bool := match hexDigit? c with
    | some n => n < base
    | none => false
  let (found, text) ← digits isDigit text
  return (← integerNode? false (ofDigits base found), text)

def integer : Reader Node
  | '0' :: 'x' :: rest => basedInteger 16 rest
  | '0' :: 'o' :: rest => basedInteger 8 rest
  | '0' :: 'b' :: rest => basedInteger 2 rest
  | text => do
      let (negative, text) := sign text
      let (found, text) ← decimalDigits text
      return (← integerNode? negative (ofDigits 10 found), text)

/-- The size that the digits of an exponent may reach. -/
def exponentLimit : Nat := 1 <<< 16

/-- The size of the exponent that some digits write. The digits after those that reach the limit do
not count. -/
def exponentSize (digits : List Char) : Nat :=
  digits.foldl (fun n c => if n < exponentLimit then n * 10 + (hexDigit? c).getD 0 else n) 0

example : exponentSize "0655359".toList = 655359 ∧ exponentSize "6553609".toList = 65536 := by
  decide +kernel

def exponent : Reader Int
  | c :: text => do
      if c != 'e' && c != 'E' then none
      let (negative, text) := sign text
      let (found, text) ← digits Char.isDigit text
      let size : Int := exponentSize found
      return (if negative then -size else size, text)
  | [] => none

/-- The digits after a decimal point and the exponent, of which there must be one. -/
def fraction (text : List Char) : Option (List Char × Int × List Char) :=
  match text with
  | '.' :: rest => do
      let (found, rest) ← digits Char.isDigit rest
      match exponent rest with
      | some (power, rest) => return (found, power, rest)
      | none => return (found, 0, rest)
  | _ => (exponent text).map fun (power, rest) => ([], power, rest)

/-- The least number that rounds to no finite number of double precision. -/
def overflowBound : Nat := (1 <<< 1024) - (1 <<< 970)

/-- The number of digits of the bound. -/
def overflowPlaces : Nat := 309

/-- Whether the number that some digits write, times `10 ^ power`, rounds to no finite number of
double precision. The number of places before the point decides unless it is that of the bound. The
bound is whole, so the digits after the point do not matter then. -/
def overflows (digits : List Char) (power : Int) : Bool :=
  let digits := digits.dropWhile (· = '0')
  let places : Int := digits.length + power
  if digits.isEmpty || places < overflowPlaces then false
  else if overflowPlaces < places then true
  else
    let whole := (digits ++ List.replicate overflowPlaces '0').take overflowPlaces
    overflowBound ≤ ofDigits 10 whole

example : (Nat.toDigits 10 overflowBound).length = overflowPlaces := by decide +kernel

example : overflows "17976931348623157".toList 292 = false ∧
    overflows "017976931348623159".toList 292 = true := by
  decide +kernel

/-- Takes a number with a fraction or an exponent. It may only be infinite if it is negative. -/
def finiteFloat : Reader Node := fun text => do
  let (negative, text) := sign text
  let (whole, text) ← decimalDigits text
  let (part, power, text) ← fraction text
  if !negative && overflows (whole ++ part) (power - part.length) then none
  return (.float, text)

/-- Takes an infinity or what is not a number, written as a word. -/
def specialFloat : Reader Node := fun text =>
  let text := (sign text).2
  match Reader.word ['i', 'n', 'f'] text with
  | some rest => some (.float, rest)
  | none => (Reader.word ['n', 'a', 'n'] text).map (.float, ·)

/-! ## Scalars -/

def boolean : Reader Node := fun text =>
  match Reader.word ['t', 'r', 'u', 'e'] text with
  | some rest => some (.boolean true, rest)
  | none => (Reader.word ['f', 'a', 'l', 's', 'e'] text).map (.boolean false, ·)

/-- Takes a scalar: the first kind that is there. -/
def scalar : Reader Node := fun text =>
  ((string text).map fun (value, rest) => (.text value, rest)) <|>
    boolean text <|> dateTime text <|> finiteFloat text <|> specialFloat text <|> integer text

end Multipart.Toml
