import PlaneFigure.Text.Ranges

/-!
# Blank characters

The characters that separate the words of a term and have no other meaning there: exactly
the twenty-five of Unicode's White_Space property. The zero-width characters are not blank.
-/

namespace PlaneFigure.Text

/-- The White_Space property. -/
def blankRanges : List (Nat × Nat) :=
  [(0x9, 0xD), (0x20, 0x20), (0x85, 0x85), (0xA0, 0xA0), (0x1680, 0x1680), (0x2000, 0x200A),
   (0x2028, 0x2029), (0x202F, 0x202F), (0x205F, 0x205F), (0x3000, 0x3000)]

/-- Whether a character only separates words. -/
def isBlank (c : Char) : Bool := covered blankRanges c

end PlaneFigure.Text
