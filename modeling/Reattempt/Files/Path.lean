/-!
Paths: names with slashes between them. Empty names and single points stand for the directory they
are in, two points for the one above.
-/
namespace Reattempt.Path

/-- The names between the slashes. -/
def names (path : String) : List String := (path.toList.splitOn '/').map String.ofList

/-- The names that lead on or back: all but the empty ones and single points. -/
def steps (path : String) : List String := (names path).filter fun n => n ≠ "" && n ≠ "."

/-- The path below a directory. -/
def join (directory path : String) : String :=
  if directory.isEmpty || directory.endsWith "/" then directory ++ path else directory ++ "/" ++ path

/-- The name of the file, if the path does not end in two points. -/
def fileName? (path : String) : Option String :=
  match (steps path).getLast? with
  | some n => if n = ".." then none else some n
  | none => none

/-- What follows the last point of the file name, unless the name begins with it. -/
def extension? (path : String) : Option String := do
  let name ← fileName? path
  let reversed := name.toList.reverse
  match reversed.dropWhile (· ≠ '.') with
  | _ :: _ :: _ => some (String.ofList (reversed.takeWhile (· ≠ '.')).reverse)
  | _ => none

end Reattempt.Path
