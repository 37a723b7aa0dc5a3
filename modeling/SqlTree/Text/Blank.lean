/-!
# Blank characters

The characters with the White_Space property: the line and page controls, the space, and the
separators beyond ASCII. The property has had the same twenty-five members since Unicode 6.3.
-/

namespace SqlTree.Text

/-- Closed ranges of code points, ascending and apart. -/
def blankRanges : List (Nat × Nat) :=
  [(0x09, 0x0D), (0x20, 0x20), (0x85, 0x85), (0xA0, 0xA0), (0x1680, 0x1680), (0x2000, 0x200A),
    (0x2028, 0x2029), (0x202F, 0x202F), (0x205F, 0x205F), (0x3000, 0x3000)]

def inRanges (ranges : List (Nat × Nat)) (code : Nat) : Bool :=
  ranges.any fun range => range.1 ≤ code && code ≤ range.2

/-- A character with the White_Space property. -/
def isBlank (character : Char) : Bool := inRanges blankRanges character.toNat

end SqlTree.Text
