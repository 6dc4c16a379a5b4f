import Reattempt.Toml.Scalars
import Reattempt.Toml.Strings
import Reattempt.Toml.Tree

/-!
Reading TOML texts, line by line: headers open tables, and the lines below a header assign to its
table. Every scanner takes characters from the front and returns the rest.
-/
namespace Reattempt.Toml

def isBareKeyChar (c : Char) : Bool := c.isAlphanum || c = '_' || c = '-'

/-- One part of a key. -/
def keyPart? (cs : List Char) : Option (String × List Char) :=
  match cs with
  | '\x22' :: r => (basic? (r.length + 1) r).map fun (s, r) => (String.ofList s, r)
  | '\x27' :: r => (literal? r).map fun (s, r) => (String.ofList s, r)
  | _ =>
    let word := cs.takeWhile isBareKeyChar
    if word.isEmpty then none else some (String.ofList word, cs.dropWhile isBareKeyChar)

/-- How deep lists and inline tables may nest, and how many parts a key may have. -/
def depthLimit : Nat := 80

/-- The parts of a key, between which points stand, and the rest after the blanks behind it. There
may be one part more than the first argument. -/
def keyParts? : Nat → List Char → Option (List String × List Char)
  | left, cs => do
    let (part, r) ← keyPart? (skipBlanks cs)
    match left, skipBlanks r with
    | 0, '.' :: _ => none
    | left + 1, '.' :: r =>
      let (parts, r) ← keyParts? left r
      return (part :: parts, r)
    | _, r => return ([part], r)

/-- A key with its parts, and the rest after the blanks behind it. -/
def key? (cs : List Char) : Option (List String × List Char) := keyParts? (depthLimit - 1) cs

/-- The rest after a comment, which may be missing. -/
def skipComment? (cs : List Char) : Option (List Char) :=
  match cs with
  | '#' :: r =>
    let body := r.takeWhile fun c => c != '\n' && c != '\r'
    if body.any isControl then none else some (r.drop body.length)
  | r => some r

/-- The rest after blanks, comments and line breaks. -/
def skipFiller? : Nat → List Char → Option (List Char)
  | 0, _ => none
  | left + 1, cs => do
    let r ← skipComment? (skipBlanks cs)
    match lineBreak? r with
    | some r => skipFiller? left r
    | none => return r

/-- Ends an unquoted word. -/
def endsWord (c : Char) : Bool :=
  isBlank c || c = '\n' || c = '\r' || c = ',' || c = '=' || c = '[' || c = ']' || c = '\x7b' ||
    c = '\x7d' || c = '#'

/-- An unquoted word, a blank between a date and a time included. -/
def word (cs : List Char) : List Char × List Char :=
  let w := cs.takeWhile (!endsWord ·)
  let r := cs.dropWhile (!endsWord ·)
  match r with
  | ' ' :: c :: rest =>
    if date? w == some [] && Text.isDigit c then
      let w₂ := (c :: rest).takeWhile (!endsWord ·)
      (w ++ ' ' :: w₂, (c :: rest).dropWhile (!endsWord ·))
    else (w, r)
  | _ => (w, r)

mutual

/-- A value at the front of a text, in which lists and tables may nest that deep. The first argument
bounds the work. -/
def value? : Nat → Nat → List Char → Option (Document × List Char)
  | 0, _, _ => none
  | left + 1, depth, cs =>
    match cs with
    | '[' :: r =>
      if depth = 0 then none
      else (items? left (depth - 1) r).map fun (ds, r) => (.list ds, r)
    | '\x7b' :: r =>
      if depth = 0 then none
      else
        (inlineEntries? left (depth - 1) [] r).map fun (es, r) => (.table (entryDocuments es), r)
    | '\x22' :: _ | '\x27' :: _ =>
      (string? cs).map fun (s, r) => (.text (some (String.ofList s)), r)
    | _ =>
      let (w, r) := word cs
      (scalar? w).map (·, r)

/-- The items of a list through its closing bracket. -/
def items? : Nat → Nat → List Char → Option (List Document × List Char)
  | 0, _, _ => none
  | left + 1, depth, cs => do
    match ← skipFiller? (cs.length + 1) cs with
    | ']' :: r => return ([], r)
    | r =>
      let (d, r) ← value? left depth r
      match ← skipFiller? (r.length + 1) r with
      | ',' :: r =>
        let (ds, r) ← items? left depth r
        return (d :: ds, r)
      | ']' :: r => return ([d], r)
      | _ => none

/-- The entries of an inline table through its closing brace, added to those before. Lines may break
anywhere but inside a key. -/
def inlineEntries? : Nat → Nat → Entries → List Char → Option (Entries × List Char)
  | 0, _, _, _ => none
  | left + 1, depth, es, cs => do
    match ← skipFiller? (cs.length + 1) cs with
    | '\x7d' :: r => return (es, r)
    | r =>
      let (keys, r) ← key? r
      let r ← after? '=' (← skipFiller? (r.length + 1) r)
      let (d, r) ← value? left depth (← skipFiller? (r.length + 1) r)
      let es ← assign? keys d es
      match ← skipFiller? (r.length + 1) r with
      | ',' :: r => inlineEntries? left depth es r
      | '\x7d' :: r => return (es, r)
      | _ => none

end

/-- The table that lines assign to, and all tables finished before it. -/
structure Progress where
  root : Entries
  /-- The header of the current table and whether it repeats; nothing before the first header. -/
  header : Option (List String × Bool)
  current : Entries

namespace Progress

def start : Progress := ⟨[], none, []⟩

/-- All tables, the current one finished. -/
def finish? (p : Progress) : Option Entries :=
  match p.header with
  | none => some p.current
  | some (keys, false) => closeTable? keys p.current p.root
  | some (keys, true) => appendTable? keys p.current p.root

def open? (p : Progress) (keys : List String) (repeated : Bool) : Option Progress := do
  let root ← p.finish?
  if repeated then return ⟨root, some (keys, true), []⟩
  else
    let current ← openTable? keys root
    return ⟨root, some (keys, false), current⟩

def assign? (p : Progress) (keys : List String) (d : Document) : Option Progress :=
  (Toml.assign? keys d p.current).map fun es => { p with current := es }

end Progress

/-- The rest after the end of a line: blanks, a comment, and a line break or nothing more. -/
def endLine? (cs : List Char) : Option (List Char) := do
  match ← skipComment? (skipBlanks cs) with
  | [] => return []
  | r => lineBreak? r

/-- One line that is neither blank nor a comment, and the rest after it. -/
def line? (p : Progress) (cs : List Char) : Option (Progress × List Char) :=
  match cs with
  | '[' :: '[' :: r => do
    let (keys, r) ← key? r
    let r ← after? ']' r
    let r ← after? ']' r
    let p ← p.open? keys true
    return (p, ← endLine? r)
  | '[' :: r => do
    let (keys, r) ← key? r
    let r ← after? ']' r
    let p ← p.open? keys false
    return (p, ← endLine? r)
  | _ => do
    let (keys, r) ← key? cs
    let r ← after? '=' r
    let (d, r) ← value? (2 * r.length + 2) depthLimit (skipBlanks r)
    let p ← p.assign? keys d
    return (p, ← endLine? r)

def lines? : Nat → Progress → List Char → Option Progress
  | 0, _, _ => none
  | left + 1, p, cs => do
    match ← skipFiller? (cs.length + 1) cs with
    | [] => return p
    | r =>
      let (p, r) ← line? p r
      lines? left p r

/-- Reads a whole text. A mark of byte order in front of it is passed over. -/
def read? (s : String) : Option Document := do
  let cs :=
    match s.toList with
    | c :: r => if c.toNat = 0xFEFF then r else c :: r
    | [] => []
  let p ← lines? (cs.length + 1) .start cs
  let entries ← p.finish?
  return .table (entryDocuments entries)

end Reattempt.Toml
