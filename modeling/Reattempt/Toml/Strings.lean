import Reattempt.Text.Digits

/-!
Strings in TOML: quoted or literal, on one line or over several. A scanner is given the characters
after the opening quotes and returns the text with the rest after the closing ones.
-/
namespace Reattempt.Toml

/-- Spaces and tabs. -/
def isBlank (c : Char) : Bool := c = ' ' || c = '\t'

def skipBlanks (cs : List Char) : List Char := cs.dropWhile isBlank

/-- A control character other than the tab. -/
def isControl (c : Char) : Bool := (c.toNat < 0x20 && c != '\t') || c.toNat == 0x7F

/-- The number that hexadecimal digits write. -/
def hexValue? (cs : List Char) : Option Nat :=
  cs.foldlM (fun n c => (Text.hexDigit? c).map (16 * n + ·)) 0

/-- A character by its code point. -/
def charOf? (n : Nat) : Option Char := if n.isValidChar then some (Char.ofNat n) else none

/-- A character written by that many hexadecimal digits, and the rest. -/
def hexChar? (width : Nat) (cs : List Char) : Option (Char × List Char) :=
  let digits := cs.take width
  if digits.length < width then none
  else ((hexValue? digits).bind charOf?).map fun c => (c, cs.drop width)

/-- What stands after a backslash, and the rest. -/
def escape? : List Char → Option (Char × List Char)
  | [] => none
  | c :: r =>
    if c = '\x22' ∨ c = '\\' then some (c, r)
    else if c = 'b' then some ('\x08', r)
    else if c = 'e' then some ('\x1b', r)
    else if c = 'f' then some ('\x0c', r)
    else if c = 'n' then some ('\n', r)
    else if c = 'r' then some ('\r', r)
    else if c = 't' then some ('\t', r)
    else if c = 'x' then hexChar? 2 r
    else if c = 'u' then hexChar? 4 r
    else if c = 'U' then hexChar? 8 r
    else none

/-- Characters and the rest. -/
abbrev Scanned := Option (List Char × List Char)

def push (c : Char) (s : Scanned) : Scanned := s.map fun (cs, r) => (c :: cs, r)

/-- A quoted string on one line. The first argument bounds the work. -/
def basic? : Nat → List Char → Scanned
  | 0, _ | _, [] => none
  | left + 1, c :: r =>
    if c = '\x22' then some ([], r)
    else if c = '\\' then (escape? r).bind fun (c, r) => push c (basic? left r)
    else if isControl c then none
    else push c (basic? left r)

/-- A literal string on one line. -/
def literal? : List Char → Scanned
  | [] => none
  | c :: r =>
    if c = '\x27' then some ([], r)
    else if isControl c then none
    else push c (literal? r)

/-- The closing quotes of a string over several lines, with the one or two quotes before them that
still belong to the string. -/
def closing? (q : Char) (cs : List Char) : Scanned :=
  let quotes := cs.takeWhile (· = q)
  if quotes.length < 3 then none
  else if 5 < quotes.length then none
  else some (quotes.drop 3, cs.drop quotes.length)

/-- The rest after a line break, if there is one. -/
def lineBreak? : List Char → Option (List Char)
  | '\n' :: r => some r
  | '\r' :: '\n' :: r => some r
  | _ => none

/-- The rest after all blanks and line breaks. -/
def skipBreaks : List Char → List Char
  | '\r' :: '\n' :: r => skipBreaks r
  | c :: r => if isBlank c || c = '\n' then skipBreaks r else c :: r
  | [] => []

/-- The rest after a backslash at the end of a line: all blanks and line breaks are left out. -/
def continuation? (cs : List Char) : Option (List Char) :=
  (lineBreak? (skipBlanks cs)).map skipBreaks

/-- A control character in front that stands in no string over several lines. Line breaks of either
form do, and are kept as they are. -/
def endsText (cs : List Char) : Bool := cs.head?.any isControl && (lineBreak? cs).isNone

/-- A quoted string over several lines. -/
def multiBasic? : Nat → List Char → Scanned
  | 0, _ | _, [] => none
  | left + 1, c :: r =>
    if c = '\x22' then
      match closing? '\x22' (c :: r) with
      | some done => some done
      | none => if r.take 5 = List.replicate 5 '\x22' then none else push c (multiBasic? left r)
    else if c = '\\' then
      match continuation? r with
      | some r => multiBasic? left r
      | none => (escape? r).bind fun (c, r) => push c (multiBasic? left r)
    else if endsText (c :: r) then none
    else push c (multiBasic? left r)

/-- A literal string over several lines. -/
def multiLiteral? : Nat → List Char → Scanned
  | 0, _ | _, [] => none
  | left + 1, c :: r =>
    if c = '\x27' then
      match closing? '\x27' (c :: r) with
      | some done => some done
      | none => if r.take 5 = List.replicate 5 '\x27' then none else push c (multiLiteral? left r)
    else if endsText (c :: r) then none
    else push c (multiLiteral? left r)

/-- A line break right after the opening quotes is left out. -/
def afterOpening (cs : List Char) : List Char := (lineBreak? cs).getD cs

/-- A string of any form at the front of a text. -/
def string? : List Char → Scanned
  | '\x22' :: '\x22' :: '\x22' :: r => multiBasic? (r.length + 1) (afterOpening r)
  | '\x27' :: '\x27' :: '\x27' :: r => multiLiteral? (r.length + 1) (afterOpening r)
  | '\x22' :: r => basic? (r.length + 1) r
  | '\x27' :: r => literal? r
  | _ => none

end Reattempt.Toml
