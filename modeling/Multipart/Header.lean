import Multipart.Cursor
import Multipart.Error
import Multipart.Text.Blank
import Multipart.Text.Charset
import Multipart.Text.Lowercase

/-!
# Part headers

A part starts with a block of header lines, which a blank line or the end of the stream ends. The
block is read line by line within a limit, decoded, and unfolded: a line that starts with a space
or a tab continues the header before it.
-/

namespace Multipart

/-- A header: its name in lower case and its value on one line. -/
structure Header where
  name : String
  value : String
  deriving DecidableEq, Repr

namespace Header

/-! ## The bytes of a block -/

/-- Whether a line ends a block: it is empty but for its line end. -/
def isBlankLine (line : List UInt8) : Bool :=
  line == [Octet.cr, Octet.lf] || line == [Octet.lf]

/-- Reads lines up to the blank line that ends the block, after lines of `size` bytes that are
given in reverse. No line is read beyond the limit and the blank line that may follow it. -/
def readLines (limit : Nat) (taken : List (List UInt8)) (size : Nat) (cursor : Cursor) :
    EStateM.Result Error Cursor (List (List UInt8)) :=
  let line := cursor.gather (· = Octet.lf) (addCapped (limit - size) 2)
  match line.failure with
  | some error => .error (.stream error) line.cursor
  | none =>
      if line.bytes.isEmpty || isBlankLine line.bytes then .ok taken.reverse line.cursor
      else if limit < size + line.bytes.length then .error (.headerTooLong limit) line.cursor
      else readLines limit (line.bytes :: taken) (size + line.bytes.length) line.cursor
termination_by cursor.outstanding
decreasing_by
  rename_i hline _
  have hread := Cursor.outstanding_gather cursor (· = Octet.lf) (addCapped (limit - size) 2)
  have hne : line.bytes ≠ [] := fun hnil => hline (by simp [hnil])
  have hpos : 0 < line.bytes.length := List.length_pos_iff.2 hne
  have hread : line.bytes.length + line.cursor.outstanding ≤ cursor.outstanding := hread
  change line.cursor.outstanding < cursor.outstanding
  omega

/-! ## Unfolding -/

/-- A header whose continuation lines are still to come: the pieces of its value, latest first. -/
structure Draft where
  name : List Char
  pieces : List (List Char)
  deriving DecidableEq, Repr

def isContinuation : List Char → Bool
  | c :: _ => c = ' ' || c = '\t'
  | [] => false

/-- The header that a line starts, if it has a colon. -/
def Draft.ofLine? (line : List Char) : Option Draft :=
  match line.dropWhile (· ≠ ':') with
  | _ :: value =>
      some ⟨Text.lower (Text.trim (line.takeWhile (· ≠ ':'))), [Text.trim value]⟩
  | [] => none

/-- Takes a line into the headers before it, latest first. A line without a colon is left out, and
so is a continuation of nothing. -/
def addLine (drafts : List Draft) (line : List Char) : List Draft :=
  if isContinuation line then
    match drafts with
    | last :: rest => { last with pieces := Text.trim line :: last.pieces } :: rest
    | [] => []
  else
    match Draft.ofLine? line with
    | some draft => draft :: drafts
    | none => drafts

def Draft.header (draft : Draft) : Header :=
  ⟨String.ofList draft.name, String.ofList (List.intercalate [' '] draft.pieces.reverse)⟩

def unfold (text : List Char) : List Header :=
  (((Text.lines text).foldl addLine []).map Draft.header).reverse

example : unfold "A: b;\r\n\tc\r\njunk\r\nB:d".toList = [⟨"a", "b; c"⟩, ⟨"b", "d"⟩] := by
  decide +kernel

/-- Reads a header block and the blank line that ends it. -/
def readBlock (limit : Nat) (cursor : Cursor) : EStateM.Result Error Cursor (List Header) :=
  match readLines limit [] 0 cursor with
  | .error error cursor => .error error cursor
  | .ok lines cursor => .ok (unfold (Text.Charset.decode lines.flatten)) cursor

/-! ## A block uses up what is outstanding -/

theorem outstanding_readLines {limit : Nat} {taken lines : List (List UInt8)} {size : Nat}
    {cursor after : Cursor} (h : readLines limit taken size cursor = .ok lines after) :
    after.outstanding ≤ cursor.outstanding := by
  fun_induction readLines limit taken size cursor with
  | case1 => contradiction
  | case2 taken size cursor line =>
      simp only [EStateM.Result.ok.injEq] at h
      obtain ⟨-, rfl⟩ := h
      exact Nat.le_of_add_left_le (Cursor.outstanding_gather cursor _ _)
  | case3 => contradiction
  | case4 taken size cursor line _ _ _ ih =>
      exact Nat.le_trans (ih h) (Nat.le_of_add_left_le (Cursor.outstanding_gather cursor _ _))

theorem outstanding_readBlock {limit : Nat} {cursor after : Cursor} {headers : List Header}
    (h : readBlock limit cursor = .ok headers after) :
    after.outstanding ≤ cursor.outstanding := by
  simp only [readBlock] at h
  split at h
  · contradiction
  · rename_i hread
    simp only [EStateM.Result.ok.injEq] at h
    obtain ⟨-, rfl⟩ := h
    exact outstanding_readLines hread

end Header

end Multipart
