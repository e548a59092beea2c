/-!
# Sets of characters and white space

The tables of the character standard list their characters as ranges of code points
(`CodeRanges`).

White space is the property *White_Space* of the character standard.  It holds
of the no-break space and the ideographic space, and not of the zero width
space.  `trim` drops it from both ends of a text.
-/

namespace EntityBinding.Text

/-- A set of characters: inclusive ranges of code points. -/
abbrev CodeRanges := List (Nat × Nat)

/-- Whether a character lies in one of the ranges. -/
def CodeRanges.contains (ranges : CodeRanges) (c : Char) : Bool :=
  ranges.any fun r => decide (r.1 ≤ c.toNat) && decide (c.toNat ≤ r.2)

/-- The characters with the property *White_Space*. -/
def whiteSpaceRanges : CodeRanges := [
  (0x9, 0xD), (0x20, 0x20), (0x85, 0x85), (0xA0, 0xA0), (0x1680, 0x1680), (0x2000, 0x200A),
  (0x2028, 0x2029), (0x202F, 0x202F), (0x205F, 0x205F), (0x3000, 0x3000)]

/-- Whether a character is white space. -/
def isWhiteSpace (c : Char) : Bool := whiteSpaceRanges.contains c

/-- A text without the white space at its end. -/
def trimEnd (cs : List Char) : List Char := (cs.reverse.dropWhile isWhiteSpace).reverse

/-- A text without the white space at its two ends. -/
def trim (cs : List Char) : List Char := trimEnd (cs.dropWhile isWhiteSpace)

/-- Whether a text holds nothing but white space. -/
def isBlank (cs : List Char) : Bool := cs.all isWhiteSpace

end EntityBinding.Text
