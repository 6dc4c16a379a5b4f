import Reattempt.Text.Quoted

/-!
Structures as text: the name, and the fields in braces. Two points at the end stand for fields that
are not shown.
-/
namespace Reattempt.Text

/-- A structure with the texts of its fields; `more` says that others are left out. -/
def describe (name : String) (fields : List (String × String)) (more : Bool) : String :=
  let shown := fields.map fun (field, text) => field ++ ": " ++ text
  name ++ " \x7b " ++ ", ".intercalate (if more then shown ++ [".."] else shown) ++ " \x7d"

def flagText (b : Bool) : String := if b then "true" else "false"

/-- The members of a set, each one once. -/
def describeSet {α : Type} [BEq α] (text : α → String) (members : List α) : String :=
  "\x7b" ++ ", ".intercalate (members.eraseDups.map text) ++ "\x7d"

end Reattempt.Text
