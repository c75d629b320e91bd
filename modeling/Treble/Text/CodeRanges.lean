/-!
# Ranges of code points

A property of characters that is given by a table is a list of closed ranges of code points.

## Main definitions

* `CodeRanges` — a table of closed ranges
* `CodeRanges.covers` — whether a character lies in one of them
-/

namespace Treble.Text

/-- Closed ranges of code points, first and last. -/
abbrev CodeRanges := List (Nat × Nat)

/-- A character is covered when some range holds its code point. -/
def CodeRanges.covers (ranges : CodeRanges) (c : Char) : Bool :=
  ranges.any fun range => range.1 ≤ c.toNat && c.toNat ≤ range.2

end Treble.Text
