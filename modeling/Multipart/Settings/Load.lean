import Multipart.Settings.Basic
import Multipart.Text.Utf8
import Multipart.Toml.Document

/-!
# Loading settings

Settings are read from a TOML file with three sections. What the file does not set has its default,
and what it sets beyond the settings is passed over.
-/

namespace Multipart

inductive LoadError
  /-- There is no file. -/
  | missing
  /-- The file is not UTF-8. -/
  | notText
  /-- The file is not TOML, or a setting has a wrong value. -/
  | malformed
  deriving DecidableEq, Repr

namespace LoadError

/-- The text that says why a file cannot be read. None if it was read but not understood. -/
def message? (path : String) : LoadError → Option String
  | missing => some ("Failed to read config '" ++ path ++
      "': No such file or directory (os error 2)")
  | notText => some ("Failed to read config '" ++ path ++
      "': stream did not contain valid UTF-8")
  | malformed => none

end LoadError

namespace Settings

open Toml (Entries Node)

/-- The fields of a section, each by its name. An array gives them in their order. None if the
section is of another kind. -/
def section? (names : List String) : Node → Option (List (Option Node))
  | .table _ entries | .inlineTable entries =>
      some (names.map fun name => Entries.get? entries name)
  | .array items => some (names.zipIdx.map fun entry => items[entry.2]?)
  | .dateTime => some (names.map fun _ => none)
  | _ => none

/-- The fields of the section at a key. All are missing if the section is. -/
def sectionAt? (entries : Entries) (key : String) (names : List String) :
    Option (List (Option Node)) :=
  match entries.get? key with
  | some node => section? names node
  | none => some (names.map fun _ => none)

def count? (base : Nat) : Option Node → Option Nat
  | none => some base
  | some (.integer (.ofNat n)) => some n
  | some _ => none

def flag? (base : Bool) : Option Node → Option Bool
  | none => some base
  | some (.boolean b) => some b
  | some _ => none

def ofEntries? (entries : Entries) : Option Settings := do
  let base : Settings := {}
  let buffer ← sectionAt? entries "buffer" ["read_buffer_size", "initial_part_capacity"]
  let limits ← sectionAt? entries "limits" ["max_part_size", "max_header_size"]
  let parser ← sectionAt? entries "parser" ["allow_unterminated_final_part"]
  return {
    readBufferSize := ← count? base.readBufferSize (buffer.getD 0 none)
    initialPartCapacity := ← count? base.initialPartCapacity (buffer.getD 1 none)
    maxPartSize := ← count? base.maxPartSize (limits.getD 0 none)
    maxHeaderSize := ← count? base.maxHeaderSize (limits.getD 1 none)
    allowUnterminatedFinalPart :=
      ← flag? base.allowUnterminatedFinalPart (parser.getD 0 none) }

/-- The settings in a file, given its bytes, or none if there is no file. -/
def load (file : Option (List UInt8)) : Except LoadError Settings :=
  match file with
  | none => .error .missing
  | some bytes =>
      match Text.Utf8.decode? bytes with
      | none => .error .notText
      | some text =>
          match (Toml.parse? text).bind ofEntries? with
          | none => .error .malformed
          | some settings => .ok settings

def loadOrDefault (file : Option (List UInt8)) : Settings :=
  match load file with
  | .ok settings => settings
  | .error _ => {}

end Settings

end Multipart
