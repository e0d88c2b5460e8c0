import Multipart.Text.CaseData
import Multipart.Text.Ranges

/-!
# Lower case

The lower case of a text, and of its ASCII letters alone. One letter depends on its neighbours: a
capital sigma at the end of a word has a form of its own.
-/

namespace Multipart.Text

def lowerAscii (text : List Char) : List Char :=
  text.map Char.toLower

/-- Whether a mapping applies to a code point. -/
def CaseData.Mapping.covers (mapping : CaseData.Mapping) (n : Nat) : Bool :=
  mapping.first ≤ n && n ≤ mapping.last && (n - mapping.first) % mapping.step == 0

def lowerChar (c : Char) : List Char :=
  if c.toNat = 0x130 then ['i', Char.ofNat 0x307]
  else
    match CaseData.lowerMappings.find? (·.covers c.toNat) with
    | some mapping => [Char.ofNat (c.toNat + mapping.offset).toNat]
    | none => [c]

/-- Whether the first character that matters for case is a letter with case. -/
def startsCased (text : List Char) : Bool :=
  match text.dropWhile (inRanges CaseData.caseIgnorable) with
  | c :: _ => inRanges CaseData.cased c
  | [] => false

/-- The lower case of a capital sigma between two texts, the first of which is reversed. -/
def lowerSigma (before after : List Char) : Char :=
  if startsCased before && !startsCased after then 'ς' else 'σ'

/-- The lower case of a character between two texts, the first of which is reversed. -/
def lowerBetween (before : List Char) (c : Char) (after : List Char) : List Char :=
  if c = 'Σ' then [lowerSigma before after] else lowerChar c

/-- Puts the lower case of a text after `lowered`, which is reversed. What stands before the text is
reversed too. -/
def lowerFrom (lowered before : List Char) : List Char → List Char
  | [] => lowered.reverse
  | c :: after =>
      lowerFrom ((lowerBetween before c after).reverse ++ lowered) (c :: before) after

def lower (text : List Char) : List Char :=
  lowerFrom [] [] text

/-- What is in lower case already is not changed. -/
theorem lowerFrom_append (lowered before text : List Char) :
    lowerFrom lowered before text = lowered.reverse ++ lowerFrom [] before text := by
  induction text generalizing lowered before with
  | nil => simp [lowerFrom]
  | cons c after ih =>
      rw [lowerFrom, ih, lowerFrom, ih ((lowerBetween before c after).reverse ++ [])]
      simp

example : areAscending CaseData.cased ∧ areAscending CaseData.caseIgnorable := by decide +kernel

example : lower ['Ο', 'Σ', ' ', 'Σ', 'Α'] = ['ο', 'ς', ' ', 'σ', 'α'] := by decide +kernel

end Multipart.Text
