import Reattempt.Binary64.Arithmetic
import Reattempt.Failure.Kind

/-!
The data in a configuration document, whatever the notation it was written in: scalars, lists, and
tables whose entries keep their order. Readers turn a datum into a typed value; an integer is also
a number, a number with a fraction or an exponent is never an integer. What a reader passes over
differs from one notation to the other.
-/
namespace Reattempt

/-- A notation for documents. -/
inductive Notation where
  | json
  | toml
  deriving DecidableEq, Repr

/-- A datum. -/
inductive Document where
  | null
  | flag (b : Bool)
  | whole (n : Int)
  /-- A number with a fraction or an exponent; nothing if it is beyond the format, or if what is
  written has no value. -/
  | real (x : Option Binary64)
  /-- A string; nothing if it names a code point that is no character. -/
  | text (s : Option String)
  /-- A date or a time. -/
  | moment
  | list (items : List Document)
  | table (entries : List (Option String × Document))

namespace Document

def flag? : Document → Option Bool
  | flag b => some b
  | _ => none

/-- An integer from zero to a limit. -/
def unsigned? (limit : Nat) : Document → Option Nat
  | whole n => if 0 ≤ n ∧ n ≤ limit then some n.toNat else none
  | _ => none

def u16? (d : Document) : Option UInt16 := (d.unsigned? (2 ^ 16 - 1)).map UInt16.ofNat
def u32? (d : Document) : Option UInt32 := (d.unsigned? (2 ^ 32 - 1)).map UInt32.ofNat
def u64? (d : Document) : Option UInt64 := (d.unsigned? (2 ^ 64 - 1)).map UInt64.ofNat

/-- A span of so many milliseconds. -/
def millis? (d : Document) : Option Duration := (d.unsigned? (2 ^ 64 - 1)).map Duration.ofMillis

/-- A span of so many milliseconds, or none. -/
def millisOrNull? : Document → Option (Option Duration)
  | null => some none
  | d => d.millis?.map some

/-- A number. An integer counts as one if 64 bits hold it. -/
def number? : Document → Option Binary64
  | whole n =>
    if -(2 ^ 63) ≤ n ∧ n < 2 ^ 64 then some (.ofSignedUnits false (n * Binary64.unitsOfOne)) else none
  | real x => x
  | _ => none

def text? : Document → Option String
  | text s => s
  | _ => none

def list? : Document → Option (List Document)
  | list ds => some ds
  | _ => none

/-- Nothing, as a notation writes it: `null` in JSON, and an empty list or table in TOML, which has
no `null`. -/
def isNothing : Notation → Document → Bool
  | .json, null => true
  | .toml, list [] => true
  | .toml, table [] => true
  | _, _ => false

/-- The name of a failure kind, alone or as the only key of a table, with nothing under it. -/
def kind? (n : Notation) : Document → Option FailureKind
  | text (some s) => FailureKind.ofName? s
  | table [(some s, d)] => if d.isNothing n then FailureKind.ofName? s else none
  | _ => none

/-- A list whose items are all of one type. -/
def listOf? {α : Type} (item? : Document → Option α) (d : Document) : Option (List α) :=
  d.list?.bind (·.mapM item?)

/-- The entries of that name, in order. -/
def named (entries : List (Option String × Document)) (name : String) : List Document :=
  entries.filterMap fun (key, d) => if key = some name then some d else none

mutual

/-- Whether every number in a datum has a value: an integer that 128 bits hold, or a number within
the format. -/
def isValued : Document → Bool
  | whole n => -(2 ^ 127) ≤ n && n < 2 ^ 128
  | real x => x.isSome
  | list items => areValued items
  | table entries => entriesValued entries
  | _ => true

def areValued : List Document → Bool
  | [] => true
  | d :: ds => d.isValued && areValued ds

def entriesValued : List (Option String × Document) → Bool
  | [] => true
  | (_, d) :: es => d.isValued && entriesValued es

end

/-- Whether a datum may stand under a name that means nothing. TOML gives every number a value even
there. -/
def isPassable : Notation → Document → Bool
  | .json, _ => true
  | .toml, d => d.isValued

/-- The data of a record with these fields, one place for each field: from a table by name, where
names of no field are passed over, or from a list by position. A field given twice, a name that is
no text, and in JSON an item past the last field are refused. A date or a time counts as a table
without any of the fields. -/
def fields? (n : Notation) (names : List String) : Document → Option (List (Option Document))
  | table entries =>
    if entries.all (fun (key, d) => key.any fun k => names.contains k || d.isPassable n)
        && names.all (fun name => (named entries name).length ≤ 1) then
      some (names.map fun name => (named entries name).head?)
    else none
  | list items =>
    if items.length ≤ names.length || n = .toml then
      some ((List.range names.length).map fun i => items[i]?)
    else none
  | moment => some (names.map fun _ => none)
  | _ => none

/-- A span in whole milliseconds. -/
def ofMillis (d : Duration) : Document := whole d.wholeMillis

/-- A span in whole milliseconds, or nothing. -/
def ofMillisOrNull (d : Option Duration) : Document := (d.map ofMillis).getD null

/-- A table whose keys are all texts. -/
def ofFields (fields : List (String × Document)) : Document :=
  table (fields.map fun (name, d) => (some name, d))

/-- The value of a field that may be missing. -/
def orElse? {α : Type} (read? : Document → Option α) (standard : α) : Option Document → Option α
  | none => some standard
  | some d => read? d

end Document

end Reattempt
