/-!
# Classes of characters as ranges of code points

A property of characters that the Unicode standard defines by enumeration is a table of closed
ranges of code points, and membership is being inside one of them. The tables are in ascending order
and no two of their ranges touch, so that a table is determined by its property.

All tables of the library are of one version of the standard, 16.0. They have to be: lower-casing a
sigma asks three of them about its neighbours, and a letter that only one of them knows would be
upper case without being cased.
-/

namespace QueryFlow.Text

/-- The code point of `c` lies in one of the closed ranges of `table`. -/
def inRanges (table : Array (Nat × Nat)) (c : Char) : Bool :=
  table.any fun range => range.1 ≤ c.toNat && c.toNat ≤ range.2

end QueryFlow.Text
