/-
# Runs of code points

A character class of Unicode is a list of runs of code points, each given by its first and last
member.
-/

namespace MockSql.Text

/-- Whether a code point lies in one of the runs. -/
def inRanges (ranges : List (Nat × Nat)) (code : Nat) : Bool :=
  ranges.any fun range => range.1 ≤ code && code ≤ range.2

end MockSql.Text
