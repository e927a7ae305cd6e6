import Transducer.Text.Range

/-!
# Blank characters
-/

namespace Transducer.Text

/-- The blank characters: the ASCII blanks, the four information separators, the next-line control
and the space, line and paragraph separators. -/
def blankRanges : List (Nat × Nat) :=
  [(0x9, 0xd), (0x1c, 0x20), (0x85, 0x85), (0xa0, 0xa0), (0x1680, 0x1680), (0x2000, 0x200a),
    (0x2028, 0x2029), (0x202f, 0x202f), (0x205f, 0x205f), (0x3000, 0x3000)]

/-- Whether the character separates words. -/
def isBlank (c : Char) : Bool := inRanges blankRanges c.toNat

/-- Whether the character is one of the six blanks of ASCII text. -/
def isAsciiBlank (c : Char) : Bool := c.toNat == 0x20 || (0x9 ≤ c.toNat && c.toNat ≤ 0xd)

/-- The text without the characters of a class at either end. -/
def strip (p : Char → Bool) (text : List Char) : List Char :=
  ((text.dropWhile p).reverse.dropWhile p).reverse

end Transducer.Text
