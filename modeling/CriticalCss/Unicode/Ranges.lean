import CriticalCss.Text.Basic

/-!
# Ranges of code points

A property of code points is a table of ranges in increasing order, each with its first and last member.
-/

namespace CriticalCss.Unicode

/-- The range of a table that holds a code point, when there is one. -/
def rangeOf? (table : Array (Nat × Nat)) (n : Nat) : Option (Nat × Nat) :=
  table.find? fun r => r.1 ≤ n && n ≤ r.2

/-- Whether a code point lies in one of the ranges of a table. -/
def inRanges (table : Array (Nat × Nat)) (n : Nat) : Bool :=
  table.any fun r => r.1 ≤ n && n ≤ r.2

end CriticalCss.Unicode
