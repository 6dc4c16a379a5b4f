import Reattempt.Binary64.Layout
import Reattempt.Document.Basic

/-!
Documents as JSON texts without blanks. Entries keep their order, a number that JSON cannot name is
`null`, and only quotes, backslashes and control characters are escaped in strings.
-/
namespace Reattempt.Json

/-- A character inside a JSON string. -/
def writeChar (c : Char) : List Char :=
  if c = '\x22' then ['\\', '\x22']
  else if c = '\\' then ['\\', '\\']
  else if c = '\n' then ['\\', 'n']
  else if c = '\r' then ['\\', 'r']
  else if c = '\t' then ['\\', 't']
  else if c = '\x08' then ['\\', 'b']
  else if c = '\x0c' then ['\\', 'f']
  else if c.toNat < 0x20 then
    ['\\', 'u', '0', '0', Nat.digitChar (c.toNat / 16), Nat.digitChar (c.toNat % 16)]
  else [c]

def writeText (s : String) : List Char :=
  '\x22' :: s.toList.flatMap writeChar ++ ['\x22']

def writeNumber (x : Binary64) : List Char :=
  if x.isFinite then (x.write .json).toList else "null".toList

/-- Texts with a comma between one and the next. -/
def commas : List (List Char) → List Char
  | [] => []
  | [t] => t
  | t :: ts => t ++ ',' :: commas ts

mutual

/-- The text of a datum. A string that is no text is written as an empty one. -/
def chars : Document → List Char
  | .null | .moment => "null".toList
  | .flag b => (if b then "true" else "false").toList
  | .whole n => (toString n).toList
  | .real x => writeNumber (x.getD .nan)
  | .text s => writeText (s.getD "")
  | .list items => '[' :: commas (itemChars items) ++ [']']
  | .table entries => '\x7b' :: commas (entryChars entries) ++ ['\x7d']

def itemChars : List Document → List (List Char)
  | [] => []
  | d :: ds => chars d :: itemChars ds

def entryChars : List (Option String × Document) → List (List Char)
  | [] => []
  | (key, d) :: es => (writeText (key.getD "") ++ ':' :: chars d) :: entryChars es

end

def write (d : Document) : String := String.ofList (chars d)

end Reattempt.Json
