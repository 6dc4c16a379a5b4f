import Reattempt.Document.Basic

/-!
Tables under construction. A table is opened by its own header, on the way to a deeper header, or by
a dotted key, and each way allows different additions later: a header may open what was only passed
through, dotted keys may extend only what dotted keys opened, and a finished value takes nothing.
-/
namespace Reattempt.Toml

/-- What opened a table. -/
inductive Opening where
  /-- A header of its own. -/
  | header
  /-- A deeper header. -/
  | passage
  /-- A dotted key. -/
  | dotted
  deriving DecidableEq, Repr

/-- What stands under a key. -/
inductive Node where
  | value (d : Document)
  | branch (opening : Opening) (entries : List (String × Node))
  /-- Tables under one repeated header; the last one is the one meant. -/
  | series (items : List (List (String × Node)))

abbrev Entries := List (String × Node)

mutual

def Node.document : Node → Document
  | .value d => d
  | .branch _ es => .table (entryDocuments es)
  | .series items => .list (itemDocuments items)

def entryDocuments : Entries → List (Option String × Document)
  | [] => []
  | (key, n) :: es => (some key, n.document) :: entryDocuments es

def itemDocuments : List Entries → List Document
  | [] => []
  | es :: rest => .table (entryDocuments es) :: itemDocuments rest

end

/-- Replaces or adds what stands under a key. -/
def alter? (key : String) (f : Option Node → Option Node) : Entries → Option Entries
  | [] => (f none).map fun n => [(key, n)]
  | (k, n) :: es =>
    if k = key then (f (some n)).map fun n => (k, n) :: es
    else (alter? key f es).map ((k, n) :: ·)

/-- Changes the table at a path, given what opened it. Tables on the way that do not exist yet are
opened as `opening` tells; dotted keys pass through no table that has a header. -/
def descend? (opening : Opening) (f : Opening → Entries → Option Entries) :
    List String → Opening → Entries → Option Entries
  | [], reached, es => f reached es
  | key :: path, _, es =>
    alter? key (fun
      | none => (descend? opening f path opening []).map (.branch opening)
      | some (.branch o sub) =>
        if opening = .dotted ∧ o = .header then none
        else (descend? opening f path o sub).map (.branch o)
      | some (.series items) =>
        match items.getLast? with
        | some last =>
          (descend? opening f path .header last).map fun es => .series (items.dropLast ++ [es])
        | none => none
      | some (.value _)  => none) es

/-- Adds a value under a key, which must be new. -/
def insert? (key : String) (n : Node) (es : Entries) : Option Entries :=
  alter? key (fun | none => some n | some _ => none) es

/-- Adds a value under a dotted key. -/
def assign? (keys : List String) (d : Document) (es : Entries) : Option Entries :=
  match keys.getLast? with
  | none => none
  | some key =>
    let path := keys.dropLast
    descend? .dotted (fun reached es =>
      if path.isEmpty || reached = .dotted then insert? key (.value d) es else none) path .header es

/-- Takes out the table that a header opens: an empty one, or one only passed through so far. -/
def openTable? (keys : List String) (root : Entries) : Option Entries :=
  match keys.getLast? with
  | none => none
  | some key => find keys.dropLast key root
where
  find : List String → String → Entries → Option Entries
    | [], key, es =>
      match es.lookup key with
      | none => some []
      | some (.branch .passage sub) => some sub
      | some _ => none
    | k :: path, key, es =>
      match es.lookup k with
      | none => some []
      | some (.branch _ sub) => find path key sub
      | some (.series items) => items.getLast?.bind (find path key)
      | some (.value _) => none

/-- Puts the table of a header back, with all its entries. -/
def closeTable? (keys : List String) (entries root : Entries) : Option Entries :=
  match keys.getLast? with
  | none => none
  | some key =>
    descend? .passage (fun _ es =>
      alter? key (fun
        | none => some (.branch .header entries)
        | some (.branch .passage _) => some (.branch .header entries)
        | some _ => none) es) keys.dropLast .header root

/-- Adds the table of a repeated header. -/
def appendTable? (keys : List String) (entries root : Entries) : Option Entries :=
  match keys.getLast? with
  | none => none
  | some key =>
    descend? .passage (fun _ es =>
      alter? key (fun
        | none => some (.series [entries])
        | some (.series items) => some (.series (items ++ [entries]))
        | some _ => none) es) keys.dropLast .header root

end Reattempt.Toml
