/-!
# TOML documents as trees

The values of a TOML document and the tree that its statements build. A table records how it came
to be, which decides what may be added to it: a header may complete a table that only the headers of
its subtables imply, and dotted keys may only extend a table that dotted keys made.
-/

namespace Multipart.Toml

inductive Origin
  /-- By a header, or as the document itself. -/
  | header
  /-- By the header of a table inside it. -/
  | implied
  /-- By a key with dots. -/
  | dotted
  deriving DecidableEq, Repr

/-- A value, or a table that may still grow. -/
inductive Node
  | text (value : String)
  | integer (value : Int)
  | boolean (value : Bool)
  /-- A number that is not an integer. Its value is not kept. -/
  | float
  /-- A date, a time or both. Its value is not kept. -/
  | dateTime
  | array (items : List Node)
  /-- A table written between braces, which does not grow. -/
  | inlineTable (entries : List (String × Node))
  | table (origin : Origin) (entries : List (String × Node))
  /-- The tables of an array of tables, the last one first. -/
  | tables (elements : List (List (String × Node)))
  deriving Repr

/-- Keys with their nodes, the latest first. -/
abbrev Entries : Type := List (String × Node)

def Entries.get? (entries : Entries) (key : String) : Option Node :=
  (entries.find? fun entry => entry.1 = key).map Prod.snd

/-- Adds a node at a key that has none. -/
def Entries.add (entries : Entries) (key : String) (node : Node) : Entries :=
  (key, node) :: entries

def Entries.replace (entries : Entries) (key : String) (node : Node) : Entries :=
  entries.map fun entry => if entry.1 = key then (key, node) else entry

/-- What is done to the entries of a table, which came to be in a certain way. None if it must not
be done. -/
abbrev Edit : Type := Origin → Entries → Option Entries

/-- Applies an edit to the table at a path. Tables that are missing on the way come to be as
`origin` says. A path of dotted keys leads only through tables that headers do not name; a path of
headers leads through the last table of an array of tables. -/
def Edit.at (edit : Edit) (origin : Origin) : List String → Edit
  | [], reached, entries => edit reached entries
  | key :: path, _, entries =>
      match entries.get? key with
      | none => (edit.at origin path origin []).map fun child =>
          entries.add key (.table origin child)
      | some (.table reached child) =>
          if origin = .dotted && reached = .header then none
          else (edit.at origin path reached child).map fun child =>
            entries.replace key (.table reached child)
      | some (.tables (last :: earlier)) => (edit.at origin path .header last).map fun last =>
          entries.replace key (.tables (last :: earlier))
      | some _ => none

/-- Gives a new key a node. Without dots the table must not be one that dotted keys made, and with
dots it must be. -/
def Edit.add (withDots : Bool) (key : String) (node : Node) : Edit := fun reached entries =>
  if decide (reached = .dotted) != withDots || (entries.get? key).isSome then none
  else some (entries.add key node)

/-- Opens the table at a key by its header: a new one, or one that was only implied. -/
def Edit.openTable (key : String) : Edit := fun _ entries =>
  match entries.get? key with
  | none => some (entries.add key (.table .header []))
  | some (.table .implied child) => some (entries.replace key (.table .header child))
  | some _ => none

/-- Opens a further table in the array of tables at a key. -/
def Edit.openElement (key : String) : Edit := fun _ entries =>
  match entries.get? key with
  | none => some (entries.add key (.tables [[]]))
  | some (.tables elements) => some (entries.replace key (.tables ([] :: elements)))
  | some _ => none

/-- A key with dots: the keys before the last dot, and the last. -/
structure Path where
  parents : List String
  last : String
  deriving DecidableEq, Repr

def Path.keys (path : Path) : List String :=
  path.parents ++ [path.last]

/-- What gives a key a node, in the table that is open. -/
def Edit.assign (path : Path) (node : Node) : Edit :=
  (Edit.add (!path.parents.isEmpty) path.last node).at .dotted path.parents

inductive Statement
  /-- The header of a table. -/
  | table (path : Path)
  /-- The header of a further table in an array of tables. -/
  | element (path : Path)
  /-- A key and its node. -/
  | assign (path : Path) (node : Node)
  deriving Repr

/-- A document as far as it is read: the path of the open table and all entries. -/
structure Draft where
  current : List String := []
  entries : Entries := []

/-- Takes a statement into a document. None if it contradicts what is there. -/
def Draft.add (draft : Draft) : Statement → Option Draft
  | .table path => ((Edit.openTable path.last).at .implied path.parents .header draft.entries).map
      fun entries => ⟨path.keys, entries⟩
  | .element path =>
      ((Edit.openElement path.last).at .implied path.parents .header draft.entries).map
        fun entries => ⟨path.keys, entries⟩
  | .assign path node =>
      ((Edit.assign path node).at .implied draft.current .header draft.entries).map
        fun entries => ⟨draft.current, entries⟩

def document? (statements : List Statement) : Option Entries :=
  (statements.foldlM Draft.add {}).map Draft.entries

def inlineEntries? (assignments : List (Path × Node)) : Option Entries :=
  assignments.foldlM (fun entries (path, node) => Edit.assign path node .header entries) []

end Multipart.Toml
