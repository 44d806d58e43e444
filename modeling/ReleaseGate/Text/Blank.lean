/-
# Text.Blank — white space

The characters with the Unicode property White_Space, and what it means to
trim them off both ends of a text.
-/
namespace ReleaseGate.Text

set_option autoImplicit false

/-- Whether one of the closed ranges holds `n`. -/
def inRanges (ranges : List (Nat × Nat)) (n : Nat) : Bool :=
  ranges.any fun range => range.1 ≤ n && n ≤ range.2

/-- The code points of white space. -/
def blankRanges : List (Nat × Nat) :=
  [(0x9, 0xd), (0x20, 0x20), (0x85, 0x85), (0xa0, 0xa0), (0x1680, 0x1680), (0x2000, 0x200a),
    (0x2028, 0x2029), (0x202f, 0x202f), (0x205f, 0x205f), (0x3000, 0x3000)]

/-- Whether a character is white space. -/
def isBlank (c : Char) : Bool := inRanges blankRanges c.toNat

/-- The text without white space at its start. -/
def trimStart (text : List Char) : List Char := text.dropWhile isBlank

/-- The text without white space at either end. -/
def trim (text : List Char) : List Char := (trimStart (trimStart text).reverse).reverse

end ReleaseGate.Text
