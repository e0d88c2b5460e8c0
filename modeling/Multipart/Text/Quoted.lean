import Multipart.Text.PrintData
import Multipart.Text.Ranges

/-!
# Quoted text

A text between quotation marks, on one line and in characters that print.
-/

namespace Multipart.Text

def escapeCode (c : Char) : List Char :=
  ['\\', 'u', '\x7b'] ++ Nat.toDigits 16 c.toNat ++ ['\x7d']

/-- Whether a character is drawn over the one before it. The halfwidth sound marks U+FF9E and U+FF9F
extend it too, but stand beside it. -/
def isCombining (c : Char) : Bool :=
  inRanges PrintData.graphemeExtend c && !inRanges [(0xFF9E, 0xFF9F)] c

/-- Whether a character shows. Among the letters, the Hangul fillers do not. -/
def isVisible (c : Char) : Bool :=
  !inRanges PrintData.unprintable c &&
    !inRanges [(0x115F, 0x1160), (0x3164, 0x3164), (0xFFA0, 0xFFA0)] c

/-- How a character is written between quotation marks. A character that would not show, or would
change the one before it, is written by its code point. -/
def escape (c : Char) : List Char :=
  if c = '"' || c = '\\' then ['\\', c]
  else if c = '\n' then ['\\', 'n']
  else if c = '\r' then ['\\', 'r']
  else if c = '\t' then ['\\', 't']
  else if c = '\x00' then ['\\', '0']
  else if isVisible c && !isCombining c then [c]
  else escapeCode c

def quoted (text : String) : String :=
  String.ofList ('"' :: text.toList.flatMap escape ++ ['"'])

example : areAscending PrintData.graphemeExtend ∧ areAscending PrintData.unprintable := by
  decide +kernel

example : quoted "a\"\\\n" = "\"a\\\"\\\\\\n\"" := by decide +kernel

example : escape (Char.ofNat 0xFF9E) = [Char.ofNat 0xFF9E] ∧
    escape (Char.ofNat 0x3164) = escapeCode (Char.ofNat 0x3164) := by decide +kernel

end Multipart.Text
