import Reattempt.Json.Number

/-!
Reading JSON texts. Every scanner takes characters from the front and returns the rest. A document
may nest to any depth, and a string may name half of a surrogate pair: it is then read as a string
that is no text, which only a field that needs the text refuses.
-/
namespace Reattempt.Json

def isSpace (c : Char) : Bool := c = ' ' || c = '\t' || c = '\n' || c = '\r'

def skipSpace (cs : List Char) : List Char := cs.dropWhile isSpace

/-- The value of four hexadecimal digits. -/
def hex4? (a b c d : Char) : Option Nat := do
  let a ← Text.hexDigit? a
  let b ← Text.hexDigit? b
  let c ← Text.hexDigit? c
  let d ← Text.hexDigit? d
  return ((a * 16 + b) * 16 + c) * 16 + d

/-- What the character after a backslash stands for. -/
def simpleEscape? (c : Char) : Option Char :=
  if c = '\x22' ∨ c = '\\' ∨ c = '/' then some c
  else if c = 'b' then some '\x08'
  else if c = 'f' then some '\x0c'
  else if c = 'n' then some '\n'
  else if c = 'r' then some '\r'
  else if c = 't' then some '\t'
  else none

/-- The code points of a string up to its closing quote, and the rest. An escape may name half of a
surrogate pair. -/
def scanString? : List Char → Option (List Nat × List Char)
  | '\x22' :: r => some ([], r)
  | '\\' :: 'u' :: a :: b :: c :: d :: r => do
    let n ← hex4? a b c d
    let (ns, r) ← scanString? r
    return (n :: ns, r)
  | '\\' :: c :: r => do
    let c ← simpleEscape? c
    let (ns, r) ← scanString? r
    return (c.toNat :: ns, r)
  | c :: r =>
    if c.toNat < 0x20 ∨ c = '\\' then none
    else do
      let (ns, r) ← scanString? r
      return (c.toNat :: ns, r)
  | [] => none

/-- Joins the halves of surrogate pairs; nothing if a half stands alone. -/
def joinPairs? : List Nat → Option (List Char)
  | [] => some []
  | n :: ns =>
    if 0xD800 ≤ n ∧ n < 0xDC00 then
      match ns with
      | m :: ms =>
        if 0xDC00 ≤ m ∧ m < 0xE000 then
          (joinPairs? ms).map (Char.ofNat (0x10000 + (n - 0xD800) * 0x400 + (m - 0xDC00)) :: ·)
        else none
      | [] => none
    else if 0xDC00 ≤ n ∧ n < 0xE000 then none
    else (joinPairs? ns).map (Char.ofNat n :: ·)

def textOf (points : List Nat) : Option String := (joinPairs? points).map String.ofList

/-- The rest of a text after a word it has to begin with. -/
def expect? (word : List Char) (cs : List Char) : Option (List Char) :=
  if word.isPrefixOf cs then some (cs.drop word.length) else none

mutual

/-- A datum at the front of a text, and the rest. The first argument bounds the work. -/
def scan? : Nat → List Char → Option (Document × List Char)
  | 0, _ => none
  | left + 1, cs =>
    match skipSpace cs with
    | '\x7b' :: r =>
      match skipSpace r with
      | '\x7d' :: r => some (.table [], r)
      | r => (scanEntries? left r).map fun (es, r) => (.table es, r)
    | '[' :: r =>
      match skipSpace r with
      | ']' :: r => some (.list [], r)
      | r => (scanItems? left r).map fun (ds, r) => (.list ds, r)
    | '\x22' :: r => (scanString? r).map fun (ns, r) => (.text (textOf ns), r)
    | 't' :: r => (expect? "rue".toList r).map fun r => (.flag true, r)
    | 'f' :: r => (expect? "alse".toList r).map fun r => (.flag false, r)
    | 'n' :: r => (expect? "ull".toList r).map fun r => (.null, r)
    | r => (scanNumeral? r).map fun (n, r) => (n.document, r)

/-- The items of a list from the first one on, through the closing bracket. -/
def scanItems? : Nat → List Char → Option (List Document × List Char)
  | 0, _ => none
  | left + 1, cs => do
    let (d, r) ← scan? left cs
    match skipSpace r with
    | ',' :: r =>
      let (ds, r) ← scanItems? left r
      return (d :: ds, r)
    | ']' :: r => return ([d], r)
    | _ => none

/-- The entries of a table from the first one on, through the closing brace. -/
def scanEntries? : Nat → List Char → Option (List (Option String × Document) × List Char)
  | 0, _ => none
  | left + 1, cs =>
    match skipSpace cs with
    | '\x22' :: r => do
      let (ns, r) ← scanString? r
      match skipSpace r with
      | ':' :: r =>
        let (d, r) ← scan? left r
        match skipSpace r with
        | ',' :: r =>
          let (es, r) ← scanEntries? left r
          return ((textOf ns, d) :: es, r)
        | '\x7d' :: r => return ([(textOf ns, d)], r)
        | _ => none
      | _ => none
    | _ => none

end

/-- Reads a whole text. Each datum takes at most two steps for every character of it. -/
def read? (s : String) : Option Document := do
  let cs := s.toList
  let (d, r) ← scan? (2 * cs.length + 2) cs
  if (skipSpace r).isEmpty then some d else none

end Reattempt.Json
