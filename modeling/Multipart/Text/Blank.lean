/-!
# White space and lines

The characters with the Unicode property White_Space, trimming, and lines.
-/

namespace Multipart.Text

/-- The property White_Space. -/
def isBlank (c : Char) : Bool :=
  let n := c.toNat
  (0x09 ≤ n && n ≤ 0x0D) || n == 0x20 || n == 0x85 || n == 0xA0 || n == 0x1680 ||
    (0x2000 ≤ n && n ≤ 0x200A) || n == 0x2028 || n == 0x2029 || n == 0x202F || n == 0x205F ||
    n == 0x3000

def trimEnd (text : List Char) : List Char :=
  (text.reverse.dropWhile isBlank).reverse

def trim (text : List Char) : List Char :=
  trimEnd (text.dropWhile isBlank)

/-- The text gathered in reverse as a line: a carriage return before the line feed is left out. -/
def lineBefore (taken : List Char) : List Char :=
  match taken with
  | '\r' :: rest => rest.reverse
  | _ => taken.reverse

/-- The lines of a text whose first line starts with `taken`, in reverse. -/
def linesFrom (taken : List Char) : List Char → List (List Char)
  | [] => if taken.isEmpty then [] else [taken.reverse]
  | c :: rest => if c = '\n' then lineBefore taken :: linesFrom [] rest
      else linesFrom (c :: taken) rest

/-- The lines of a text. A line ends at LF or CRLF; a last line without either is a line too. -/
def lines (text : List Char) : List (List Char) :=
  linesFrom [] text

end Multipart.Text
