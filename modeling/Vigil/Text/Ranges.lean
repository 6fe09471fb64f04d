/-!
# Ranges of characters

A character property is a table of code point ranges. Membership is a test
against the table, so each property module holds its table and nothing else.
-/

namespace Vigil.Text

/-- The code point of the character lies in one of the ranges, ends included. -/
def inRanges (table : List (Nat × Nat)) (c : Char) : Bool :=
  table.any fun range => range.1 ≤ c.toNat && c.toNat ≤ range.2

end Vigil.Text
