import Reattempt.Binary64.Decimal
import Reattempt.Document.Basic

/-!
Unquoted scalars in TOML: flags, integers in four bases, numbers, dates and times. A scalar is read
from a whole word; underscores may stand between two digits. Some words pass for integers and have
no value; they count as numbers without one.
-/
namespace Reattempt.Toml

/-- The digits of a run in which single underscores may stand between digits. -/
def plainDigits? (isDigit : Char → Bool) : List Char → Option (List Char)
  | [] => none
  | [c] => if isDigit c then some [c] else none
  | c :: '_' :: r => if isDigit c then (plainDigits? isDigit r).map (c :: ·) else none
  | c :: r => if isDigit c then (plainDigits? isDigit r).map (c :: ·) else none

/-- Decimal digits without a needless zero in front. -/
def leadingDigits? (cs : List Char) : Option (List Char) :=
  match plainDigits? Text.isDigit cs with
  | some ds => if ds.head? = some '0' ∧ 1 < ds.length then none else some ds
  | none => none

/-- An integer in base sixteen, eight or two. -/
def based? (base : Nat) (cs : List Char) : Option Nat := do
  let ds ← plainDigits? (fun c => (Text.hexDigit? c).any (· < base)) cs
  return ds.foldl (fun n c => base * n + (Text.hexDigit? c).getD 0) 0

/-- The sign in front of a word, and the word. -/
def splitSign : List Char → Option Bool × List Char
  | '-' :: r => (some true, r)
  | '+' :: r => (some false, r)
  | r => (none, r)

/-- An integer of any size. -/
def integer? : List Char → Option Int
  | '0' :: 'x' :: r => (based? 16 r).map Int.ofNat
  | '0' :: 'o' :: r => (based? 8 r).map Int.ofNat
  | '0' :: 'b' :: r => (based? 2 r).map Int.ofNat
  | cs => do
    let (sign, r) := splitSign cs
    let n : Int := Text.digitsValue (← leadingDigits? r)
    return if sign = some true then -n else n

/-- A number with a fraction or an exponent, or a word for infinity or for not a number; nothing in
the place of a number that is too large for the format. -/
def number? (cs : List Char) : Option (Option Binary64) := do
  let (sign, r) := splitSign cs
  let negative := sign = some true
  if r = "inf".toList then return some (.infinity negative)
  if r = "nan".toList then return some .nan
  let whole := r.takeWhile fun c => Text.isDigit c || c = '_'
  let r := r.dropWhile fun c => Text.isDigit c || c = '_'
  let wholeDigits ← leadingDigits? whole
  let (fraction, r) : List Char × List Char ←
    match r with
    | '.' :: r =>
      let part := r.takeWhile fun c => Text.isDigit c || c = '_'
      let ds ← plainDigits? Text.isDigit part
      pure (ds, r.dropWhile fun c => Text.isDigit c || c = '_')
    | r => pure ([], r)
  let e : Int ←
    match r with
    | [] => pure 0
    | c :: r =>
      if c = 'e' ∨ c = 'E' then
        let (sign, r) := splitSign r
        let ds ← plainDigits? Text.isDigit r
        let n : Int := Text.digitsValue ds
        pure (if sign = some true then -n else n)
      else none
  let x := Binary64.ofDecimal negative (Text.digitsValue (wholeDigits ++ fraction)) (e - fraction.length)
  return if x.isFinite then some x else none

/-- Whether underscores stand only between two hexadecimal digits. -/
def underscoresPart (cs : List Char) : Bool :=
  let isHex (c : Char) := (Text.hexDigit? c).isSome
  cs.head? != some '_' && cs.getLast? != some '_' &&
    (cs.zip (cs.drop 1)).all fun (c, d) => (c != '_' || isHex d) && (d != '_' || isHex c)

/-- Whether a word passes for an integer that has no value: a base without digits, or decimal digits
that an underscore parts from something else. With a point, an `e` or an `E` in it, a word is a number
with a fraction or an exponent, or nothing. -/
def isValueless (cs : List Char) : Bool :=
  cs == "0x".toList || cs == "0o".toList || cs == "0b".toList ||
    let r := (splitSign cs).2
    r.head? != some '0' && (r.dropWhile Text.isDigit).head? == some '_' && underscoresPart r &&
      !r.any fun c => c = '.' || c = 'e' || c = 'E'

/-- A number of exactly that many digits within bounds, and the rest. -/
def field? (width low high : Nat) (cs : List Char) : Option (Nat × List Char) :=
  let ds := cs.take width
  let n := Text.digitsValue ds
  if ds.length = width ∧ ds.all Text.isDigit ∧ low ≤ n ∧ n ≤ high then some (n, cs.drop width)
  else none

/-- The rest after one given character. -/
def after? (c : Char) : List Char → Option (List Char)
  | [] => none
  | d :: r => if c = d then some r else none

def daysIn (year month : Nat) : Nat :=
  if month = 2 then
    (if year % 4 = 0 ∧ (year % 100 ≠ 0 ∨ year % 400 = 0) then 29 else 28)
  else if month = 4 ∨ month = 6 ∨ month = 9 ∨ month = 11 then 30 else 31

/-- The rest after a date. -/
def date? (cs : List Char) : Option (List Char) := do
  let (year, r) ← field? 4 0 9999 cs
  let r ← after? '-' r
  let (month, r) ← field? 2 1 12 r
  let r ← after? '-' r
  let (_, r) ← field? 2 1 (daysIn year month) r
  return r

/-- The rest after a time of day; the seconds and their places may be missing. -/
def time? (cs : List Char) : Option (List Char) := do
  let (_, r) ← field? 2 0 23 cs
  let r ← after? ':' r
  let (_, r) ← field? 2 0 59 r
  match r with
  | ':' :: r =>
    let (_, r) ← field? 2 0 60 r
    match r with
    | '.' :: r =>
      if (r.takeWhile Text.isDigit).isEmpty then none else return r.dropWhile Text.isDigit
    | r => return r
  | r => return r

/-- The rest after an offset from universal time, which may be missing. -/
def offset? (cs : List Char) : Option (List Char) :=
  match cs with
  | [] => some []
  | c :: r =>
    if c = 'Z' ∨ c = 'z' then some r
    else if c = '+' ∨ c = '-' then do
      let (_, r) ← field? 2 0 23 r
      let r ← after? ':' r
      let (_, r) ← field? 2 0 59 r
      return r
    else none

/-- Whether a word is a date, a time, or both with or without an offset. -/
def isMoment (cs : List Char) : Bool :=
  match date? cs with
  | some [] => true
  | some (c :: r) =>
    (c = 'T' || c = 't' || c = ' ') && ((time? r).bind offset?) == some []
  | none => time? cs == some []

/-- The datum that an unquoted word stands for. -/
def scalar? (cs : List Char) : Option Document :=
  if cs = "true".toList then some (.flag true)
  else if cs = "false".toList then some (.flag false)
  else
    match integer? cs with
    | some n => some (.whole n)
    | none =>
      match number? cs with
      | some x => some (.real x)
      | none =>
        if isMoment cs then some .moment
        else if isValueless cs then some (.real none)
        else none

end Reattempt.Toml
