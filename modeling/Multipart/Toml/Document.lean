import Multipart.Toml.Scalar

/-!
# TOML documents

Keys, arrays, tables between braces, and the lines of a document. Arrays and tables between braces
nest less than eighty deep, and keys have fewer than eighty pieces.
-/

namespace Multipart.Toml

/-- The depth of nesting, and the number of pieces of a key, that is too much. -/
def nestingLimit : Nat := 80

/-! ## Keys -/

def isKeyCharacter (c : Char) : Bool :=
  c.isAlphanum || c = '-' || c = '_'

def keyPiece : Reader String := fun text => do
  let text := skipBlanks text
  let (piece, rest) ← match text with
    | '"' :: rest => basicString rest
    | _ =>
        match Reader.word [apostrophe] text with
        | some rest => literalString rest
        | none =>
            let found := text.takeWhile isKeyCharacter
            if found.isEmpty then none
            else some (String.ofList found, text.dropWhile isKeyCharacter)
  return (piece, skipBlanks rest)

def furtherPiece : Reader String
  | '.' :: rest => keyPiece rest
  | _ => none

def key : Reader Path := fun text => do
  let (first, text) ← keyPiece text
  let (others, text) := Reader.many furtherPiece text
  if nestingLimit ≤ others.length + 1 then none
  else
    match others.reverse with
    | [] => return (⟨[], first⟩, text)
    | last :: before => return (⟨first :: before.reverse, last⟩, text)

def assignment (value : Reader Node) : Reader (Path × Node) := fun text => do
  let (path, text) ← key text
  let text ← Reader.word ['='] text
  let (node, text) ← value (skipBlanks text)
  return ((path, node), text)

/-! ## Values -/

def furtherItem (value : Reader Node) : Reader Node := fun text => do
  value (skipFiller (← Reader.word [','] (skipFiller text)))

/-- Takes an array after its opening bracket. A comma may follow the last value. -/
def array (value : Reader Node) : Reader Node := fun text =>
  let text := skipFiller text
  match Reader.word [']'] text with
  | some rest => some (.array [], rest)
  | none => do
      let (first, text) ← value text
      let (others, text) := Reader.many (furtherItem value) text
      let text := skipFiller text
      let text := skipFiller ((Reader.word [','] text).getD text)
      return (.array (first :: others), ← Reader.word [']'] text)

def furtherAssignment (value : Reader Node) : Reader (Path × Node) := fun text => do
  assignment value (← Reader.word [','] (skipBlanks text))

def inlineTable (value : Reader Node) : Reader Node := fun text =>
  let text := skipBlanks text
  match Reader.word ['\x7d'] text with
  | some rest => some (.inlineTable [], rest)
  | none => do
      let (first, text) ← assignment value text
      let (others, text) := Reader.many (furtherAssignment value) text
      let rest ← Reader.word ['\x7d'] (skipBlanks text)
      return (.inlineTable (← inlineEntries? (first :: others)), rest)

/-- Takes a value in which arrays and tables nest at most so deep. -/
def value : Nat → Reader Node
  | 0, text => scalar text
  | depth + 1, text =>
      match text with
      | '[' :: rest => array (value depth) rest
      | '\x7b' :: rest => inlineTable (value depth) rest
      | _ => scalar text

/-! ## Lines -/

/-- Takes a header up to its closing brackets, and the end of its line. -/
def header (closing : List Char) : Reader Path := fun text => do
  let (path, text) ← key text
  return (path, ← lineEnd (← Reader.word closing text))

def statement : Reader Statement
  | '[' :: '[' :: rest => (header [']', ']'] rest).map fun (path, rest) => (.element path, rest)
  | '[' :: rest => (header [']'] rest).map fun (path, rest) => (.table path, rest)
  | text => do
      let ((path, node), text) ← assignment (value (nestingLimit - 1)) text
      return (.assign path node, ← lineEnd text)

/-- Takes a line. One that holds no more than a comment says nothing. -/
def line : Reader (Option Statement) := fun text =>
  match skipBlanks text with
  | [] => none
  | text =>
      match lineEnd text with
      | some rest => some (none, rest)
      | none => (statement text).map fun (found, rest) => (some found, rest)

/-- The entries of the document that a text is. A byte order mark may stand before it. -/
def parse? (text : List Char) : Option Entries :=
  let text := (Reader.word [Char.ofNat 0xFEFF] text).getD text
  let (found, rest) := Reader.many line text
  if (skipBlanks rest).isEmpty then document? (found.filterMap id) else none

example : (parse? "a.b = 0x1F # c\n[t]\nk = [1, \"x\",]\n".toList).isSome := by decide +kernel

example : (parse? "[a]\n[a]\n".toList).isNone := by decide +kernel

example : (parse? "a = {b = 1}\na.c = 2\n".toList).isNone := by decide +kernel

end Multipart.Toml
