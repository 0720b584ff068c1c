import Signet.Text.Ranges

/-!
# Blanks

The characters that count as white space where texts are trimmed: the Unicode
separators and bidirectional white space, and the four information separators.
-/
namespace Signet

/-- All white space characters. -/
def blankRanges : Ranges :=
  [(0x9, 0xD), (0x1C, 0x20), (0x85, 0x85), (0xA0, 0xA0), (0x1680, 0x1680), (0x2000, 0x200A),
   (0x2028, 0x2029), (0x202F, 0x202F), (0x205F, 0x205F), (0x3000, 0x3000)]

/-- White space of any script. -/
def CodePoint.isBlank (c : CodePoint) : Bool := blankRanges.contains c.val

/-- The six white space characters of ASCII that numbers may be surrounded by. -/
def CodePoint.isAsciiBlank (c : CodePoint) : Bool :=
  c.val == 0x20 || (0x9 ≤ c.val && c.val ≤ 0xD)

/-- The text without white space at its ends. -/
def Text.strip (t : Text) : Text := t.trim CodePoint.isBlank

/-- The text without white space at its end. -/
def Text.stripEnd (t : Text) : Text := t.dropEnd CodePoint.isBlank

end Signet
