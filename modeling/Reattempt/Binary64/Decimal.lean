import Reattempt.Binary64.Arithmetic
import Reattempt.Text.Digits

/-!
Reading decimal numerals. The value is the one nearest to the decimal number; a numeral too large
for the format reads as infinity and one too small as zero.
-/
namespace Reattempt.Binary64

/-- The value nearest to `digits * 10 ^ exponent`. The two bounds only keep the powers of ten
small: past them the value is beyond the format on either side. -/
def ofDecimal (negative : Bool) (digits : Nat) (exponent : Int) : Binary64 :=
  let magnitude : Int := Text.digitCount digits + exponent
  if digits = 0 then zero negative
  else if 310 ≤ magnitude then infinity negative
  else if magnitude ≤ -324 then zero negative
  else ofRatio negative (digits * Nat.pow 10 exponent.toNat) (Nat.pow 10 (-exponent).toNat)

/-- Why a text is no numeral. -/
inductive ReadError where
  | empty
  | malformed
  deriving DecidableEq, Repr

def ReadError.message : ReadError → String
  | .empty => "cannot parse float from empty string"
  | .malformed => "invalid float literal"

/-- The exponent part of a numeral: nothing at all, or a mark, a sign and digits to the end. -/
def readExponent : List Char → Option Int
  | [] => some 0
  | c :: cs =>
    if c = 'e' ∨ c = 'E' then
      let (negative, ds) : Bool × List Char :=
        match cs with
        | '-' :: ds => (true, ds)
        | '+' :: ds => (false, ds)
        | ds => (false, ds)
      if ds.isEmpty || !ds.all Text.isDigit then none
      else
        let n : Int := Text.digitsValue ds
        some (if negative then -n else n)
    else none

/-- A numeral without its sign: digits, a point and digits, at least one digit in all, and an
exponent part. -/
def readMagnitude (negative : Bool) (cs : List Char) : Option Binary64 :=
  let whole := cs.takeWhile Text.isDigit
  let rest := cs.dropWhile Text.isDigit
  let (fraction, rest) : List Char × List Char :=
    match rest with
    | '.' :: r => (r.takeWhile Text.isDigit, r.dropWhile Text.isDigit)
    | r => ([], r)
  if whole.isEmpty && fraction.isEmpty then none
  else (readExponent rest).map fun e =>
    ofDecimal negative (Text.digitsValue (whole ++ fraction)) (e - fraction.length)

/-- A numeral or one of the words for infinity and for not a number, in any case of letters. -/
def readUnsigned (negative : Bool) (cs : List Char) : Option Binary64 :=
  let word := String.ofList (cs.map Char.toLower)
  if word = "inf" ∨ word = "infinity" then some (infinity negative)
  else if word = "nan" then some nan
  else readMagnitude negative cs

/-- Reads a whole text as a number. -/
def read (s : String) : Except ReadError Binary64 :=
  match s.toList with
  | [] => .error .empty
  | '-' :: cs => ((readUnsigned true cs).map .ok).getD (.error .malformed)
  | '+' :: cs => ((readUnsigned false cs).map .ok).getD (.error .malformed)
  | cs => ((readUnsigned false cs).map .ok).getD (.error .malformed)

end Reattempt.Binary64
