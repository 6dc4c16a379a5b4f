import Reattempt.Files.Path

/-!
A tree of files below one directory. Every place in it is the names on the way there, free of empty
names and points. A directory exists if it was made or if something lies below it; whatever lies
outside the tree does not exist, but for the directories on the way up.
-/
namespace Reattempt

/-- What a path leads to. -/
inductive FileContent where
  | text (s : String)
  /-- Bytes that are no text. -/
  | bytes
  | directory
  deriving DecidableEq, Repr

/-- Files and directories, each with its place; of two at one place the first counts. -/
structure FileTree where
  entries : List (List String × FileContent)

namespace FileTree

/-- The tree with something at a path, in the place of what stood there, and with all directories
that the path passes. -/
def put (t : FileTree) (path : String) (content : FileContent) : FileTree :=
  go [] t.entries (Path.steps path)
where
  go (place : List String) (entries : List (List String × FileContent)) : List String → FileTree
    | [] => ⟨(place, content) :: entries⟩
    | ".." :: rest => go place.dropLast ((place, .directory) :: entries) rest
    | name :: rest => go (place ++ [name]) entries rest

/-- A tree of files and directories, each at its path. -/
def ofPaths (files : List (String × FileContent)) : FileTree :=
  files.foldl (fun t (path, content) => t.put path content) ⟨[]⟩

/-- What stands at a place. -/
def at? (t : FileTree) (place : List String) : Option FileContent :=
  if place.all (· = "..") then some .directory
  else
    match t.entries.lookup place with
    | some content => some content
    | none => if t.entries.any fun (p, _) => place.isPrefixOf p then some .directory else none

/-- Follows names from a place. Only a directory can be left. -/
def follow? (t : FileTree) : List String → List String → Option (List String)
  | place, [] => some place
  | place, name :: rest =>
    if t.at? place = some .directory then
      if name = "" ∨ name = "." then t.follow? place rest
      else if name = ".." ∧ place.any (· ≠ "..") then t.follow? place.dropLast rest
      else t.follow? (place ++ [name]) rest
    else none

/-- What a path leads to. -/
def get? (t : FileTree) (path : String) : Option FileContent :=
  if path.isEmpty || path.startsWith "/" then none
  else (t.follow? [] (Path.names path)).bind t.at?

def contains (t : FileTree) (path : String) : Bool := (t.get? path).isSome

def isFile (t : FileTree) (path : String) : Bool :=
  match t.get? path with
  | some (.text _) | some .bytes => true
  | _ => false

end FileTree

end Reattempt
