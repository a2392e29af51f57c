/-!
# Sets of characters given by ranges of code points

A property of characters that a standard defines by enumeration is kept as a list of
ranges, each with its first and last code point. Membership looks at every range, so
nothing depends on the order in which they are listed.
-/

namespace PlaneFigure.Text

/-- Whether some range, both ends included, holds the character's code point. -/
def covered (ranges : List (Nat × Nat)) (c : Char) : Bool :=
  ranges.any fun range => range.1 ≤ c.toNat && c.toNat ≤ range.2

/-- A character is covered exactly when one of the listed ranges holds it. -/
theorem covered_iff (ranges : List (Nat × Nat)) (c : Char) :
    covered ranges c = true ↔ ∃ range ∈ ranges, range.1 ≤ c.toNat ∧ c.toNat ≤ range.2 := by
  simp [covered]

end PlaneFigure.Text
