import Signet.Text.Hex
import Signet.Text.Printable

/-!
# Quoted texts

A text is quoted with the mark that needs fewer escapes, and everything that cannot be
shown is escaped by its number.
-/
namespace Signet

namespace Quoted

/-- One character of a text between the given quotation marks. -/
def character (mark c : CodePoint) : Text :=
  if c = mark ∨ c = '\\' then ['\\', c]
  else if c = '\t' then "\\t"
  else if c = '\n' then "\\n"
  else if c = '\r' then "\\r"
  else if c.isPrintable then [c]
  else if c.val < 0x100 then "\\x" ++ Hex.fixed 2 c.val
  else if c.val < 0x10000 then "\\u" ++ Hex.fixed 4 c.val
  else "\\U" ++ Hex.fixed 8 c.val

/-- Apostrophes enclose a text, unless it holds an apostrophe and no quotation mark. -/
def mark (t : Text) : CodePoint :=
  if t.contains '\'' && !t.contains '"' then '"' else '\''

end Quoted

/-- The text between quotation marks, with what cannot be shown escaped. -/
def Text.quoted (t : Text) : Text :=
  [Quoted.mark t] ++ t.flatMap (Quoted.character (Quoted.mark t)) ++ [Quoted.mark t]

end Signet
