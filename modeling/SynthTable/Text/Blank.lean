import SynthTable.Text.CodeRange

/-!
# Blanks

White space in the sense of the property White_Space, and removing it from the ends of a text.
-/

namespace SynthTable.Text

/-- Ranges of the property White_Space, in increasing order. -/
def blankRanges : List CodeRange := [
    (0x9, 0xD), (0x20, 0x20), (0x85, 0x85), (0xA0, 0xA0), (0x1680, 0x1680), (0x2000, 0x200A),
    (0x2028, 0x2029), (0x202F, 0x202F), (0x205F, 0x205F), (0x3000, 0x3000)]

/-- Spaces, tabs, line ends and the wide and narrow spaces of other scripts. -/
def isBlank (c : Char) : Bool := inRanges blankRanges c.toNat

/-- The text without the blanks at its start. -/
def trimStart (cs : List Char) : List Char := cs.dropWhile isBlank

/-- The text without the blanks at its end. -/
def trimEnd (cs : List Char) : List Char := (cs.reverse.dropWhile isBlank).reverse

/-- The text without the blanks at either end. -/
def trim (cs : List Char) : List Char := trimEnd (trimStart cs)

/-- `trim` on strings. -/
def trimString (s : String) : String := String.ofList (trim s.toList)

/-- A text of blanks alone, or none at all. -/
def isAllBlank (s : String) : Bool := s.toList.all isBlank

end SynthTable.Text
