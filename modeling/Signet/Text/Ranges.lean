import Signet.Text.CodePoint

/-!
# Ranges of code points

A character class is a list of closed ranges. Classes that hold many characters are
given by such lists; their ASCII part is decided apart, so common characters are
classified without a walk through the list.
-/
namespace Signet

/-- Closed ranges of code point numbers. -/
abbrev Ranges := List (Nat × Nat)

/-- The number lies in one of the ranges. -/
def Ranges.contains (ranges : Ranges) (n : Nat) : Bool :=
  ranges.any fun r => r.1 ≤ n && n ≤ r.2

end Signet
