/-!
# Readers

A reader takes something from the front of a text and gives back the rest. The pieces of TOML that
stand between its tokens are read here: blanks, comments and line ends.
-/

namespace Multipart.Toml

/-- Takes something from the front of a text. None if it is not there. -/
abbrev Reader (α : Type) : Type := List Char → Option (α × List Char)

namespace Reader

/-- Reads up to once for each character of `bound`, after what was read before, in reverse. -/
def manyFrom {α : Type} (reader : Reader α) (bound : List Char) (found : List α)
    (text : List Char) : List α × List Char :=
  match bound with
  | [] => (found.reverse, text)
  | _ :: bound =>
      match reader text with
      | some (value, rest) => manyFrom reader bound (value :: found) rest
      | none => (found.reverse, text)

/-- Reads as often as it can. Each time has to take a character. -/
def many {α : Type} (reader : Reader α) (text : List Char) : List α × List Char :=
  manyFrom reader text [] text

def word (characters : List Char) (text : List Char) : Option (List Char) :=
  if characters.isPrefixOf text then some (text.drop characters.length) else none

end Reader

def isBlank (c : Char) : Bool :=
  c = ' ' || c = '\t'

def isPrinting (c : Char) : Bool :=
  c = '\t' || (0x20 ≤ c.toNat && c.toNat != 0x7F)

def skipBlanks (text : List Char) : List Char :=
  text.dropWhile isBlank

def newline : List Char → Option (List Char)
  | '\n' :: rest => some rest
  | '\r' :: '\n' :: rest => some rest
  | _ => none

def skipComment : List Char → List Char
  | '#' :: rest => rest.dropWhile isPrinting
  | text => text

def lineEnd (text : List Char) : Option (List Char) :=
  match skipComment (skipBlanks text) with
  | [] => some []
  | text => newline text

def blankOrNewline : Reader Unit
  | c :: rest => if isBlank c then some ((), rest) else (newline (c :: rest)).map ((), ·)
  | [] => none

def filler : Reader Unit
  | '#' :: rest => some ((), rest.dropWhile isPrinting)
  | text => blankOrNewline text

def skipBlankLines (text : List Char) : List Char :=
  (Reader.many blankOrNewline text).2

def skipFiller (text : List Char) : List Char :=
  (Reader.many filler text).2

end Multipart.Toml
