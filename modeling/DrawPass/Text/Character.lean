/-
DrawPass/Text/Character.lean

Character classes of shader text: blanks, word characters and decimal digits, all
in the sense of Unicode.

The ASCII part of each class is written out and answered first; the rest is looked
up in the tables of `DrawPass.Text.Ranges`.
-/
import DrawPass.Text.Ranges

namespace DrawPass.Text

/-- Whether a code point lies in one of the given ranges. -/
def inRanges (ranges : List (Nat × Nat)) (n : Nat) : Bool :=
  ranges.any fun r => decide (r.1 ≤ n) && decide (n ≤ r.2)

/-- The code points with the property White_Space. -/
def blankRanges : List (Nat × Nat) :=
  [(0x09, 0x0D), (0x20, 0x20), (0x85, 0x85), (0xA0, 0xA0), (0x1680, 0x1680), (0x2000, 0x200A),
  (0x2028, 0x2029), (0x202F, 0x202F), (0x205F, 0x205F), (0x3000, 0x3000)]

/-- A blank: a character with the property White_Space. -/
def isBlank (c : Char) : Bool := inRanges blankRanges c.toNat

/-- The ASCII letters and digits and the underscore. -/
def isPlainWord (c : Char) : Bool := c.isAlphanum || c == '_'

/-- A character that may stand in a word. -/
def isWord (c : Char) : Bool :=
  if c.toNat < 0x80 then isPlainWord c else inRanges wordRanges c.toNat

/-- A decimal digit of any script. -/
def isDigit (c : Char) : Bool :=
  if c.toNat < 0x80 then c.isDigit else inRanges digitRanges c.toNat

/-- Remove the blanks at the front. -/
def trimStart (text : List Char) : List Char := text.dropWhile isBlank

/-- Remove the blanks at the end. -/
def trimEnd (text : List Char) : List Char := (text.reverse.dropWhile isBlank).reverse

/-- Remove the blanks at both ends. -/
def trim (text : List Char) : List Char := trimEnd (trimStart text)

end DrawPass.Text
