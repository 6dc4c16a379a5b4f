import Reattempt.Text.Digits
import Reattempt.Text.GraphemeExtend
import Reattempt.Text.Unprintable

/-!
Quoted text for messages: double quotes around it, and an escape for every character that would end
the quotation, could not be seen, or would merge with its neighbour.
-/
namespace Reattempt.Text

/-- One character inside quotation marks. -/
def quoteChar (c : Char) : String :=
  if c = '\x00' then "\\0"
  else if c = '\t' then "\\t"
  else if c = '\n' then "\\n"
  else if c = '\r' then "\\r"
  else if c = '\x22' then "\\\""
  else if c = '\\' then "\\\\"
  else if isGraphemeExtend c || isUnprintable c then "\\u\x7b" ++ hexText c.toNat ++ "\x7d"
  else c.toString

/-- The text in quotation marks. -/
def quote (s : String) : String := "\"" ++ String.join (s.toList.map quoteChar) ++ "\""

end Reattempt.Text
