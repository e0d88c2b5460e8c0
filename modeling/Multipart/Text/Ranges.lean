/-!
# Ranges of code points

A property of characters as a list of ranges of code points, both ends included.
-/

namespace Multipart.Text

def inRanges (ranges : List (Nat × Nat)) (c : Char) : Bool :=
  ranges.any fun range => range.1 ≤ c.toNat && c.toNat ≤ range.2

def areAscending : List (Nat × Nat) → Bool
  | first :: second :: rest =>
      first.1 ≤ first.2 && first.2 < second.1 && areAscending (second :: rest)
  | [last] => last.1 ≤ last.2
  | [] => true

end Multipart.Text
