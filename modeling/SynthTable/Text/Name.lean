import SynthTable.Text.Alphabetic
import SynthTable.Text.Numeric
import SynthTable.Text.Mark
import SynthTable.Text.Recent

/-!
# Name and word characters

A column reference is a run of name characters. Word characters decide where a keyword ends. The
names and keywords of conditions do not count recent characters.
-/

namespace SynthTable.Text

/-- Letters and numbers of any script, and the underscore. -/
def isNameChar (c : Char) : Bool := isAlphabetic c || isNumeric c || c == '_'

/-- Name characters that are not recent. -/
def isKnownNameChar (c : Char) : Bool := isNameChar c && !isRecent c

/-- Connector punctuation: the underscore and its relatives. -/
def connectorRanges : List CodeRange := [
    (0x5F, 0x5F), (0x203F, 0x2040), (0x2054, 0x2054), (0xFE33, 0xFE34), (0xFE4D, 0xFE4F),
    (0xFF3F, 0xFF3F)]

/-- Letters, combining marks, decimal digits, connectors and the two joiners. -/
def isWordChar (c : Char) : Bool :=
  isAlphabetic c || isMark c || isDecimalDigit c || inRanges connectorRanges c.toNat ||
    c == '\u200c' || c == '\u200d'

/-- Word characters that are not recent. -/
def isKnownWordChar (c : Char) : Bool := isWordChar c && !isRecent c

end SynthTable.Text
