import Telemetry.Toml.Basic
/-!
Tables while a document is read.

A table may come into being in three ways: by a header of its own, on the way to another table
or value, or as a part of a dotted key.  The way decides whether it may be opened again.
-/

namespace Telemetry.Toml

inductive Node where
  | value (contents : Toml)
  /-- A table; `implied` if no header has named it, `dotted` if a dotted key made it. -/
  | table (implied dotted : Bool) (entries : List (String × Node))
  /-- Tables under headers in double brackets, the latest first. -/
  | tables (items : List (List (String × Node)))

structure Scope where
  implied : Bool
  dotted : Bool
  entries : List (String × Node)

namespace Scope

def named (entries : List (String × Node)) : Scope := ⟨false, false, entries⟩

def find? (scope : Scope) (name : String) : Option Node :=
  (scope.entries.find? (·.1 == name)).map (·.2)

def set (scope : Scope) (name : String) (node : Node) : Scope :=
  if scope.entries.any (·.1 == name) then
    { scope with entries := scope.entries.map fun entry =>
        if entry.1 == name then (name, node) else entry }
  else { scope with entries := scope.entries ++ [(name, node)] }

def erase (scope : Scope) (name : String) : Scope :=
  { scope with entries := scope.entries.filter (·.1 != name) }

def toNode (scope : Scope) : Node := .table scope.implied scope.dotted scope.entries

/-- Changes the table at the end of a path.  Tables that are missing on the way are made.  A
dotted key cannot enter a table that a header has named. -/
def change {α : Type} (dotted : Bool) (finish : Scope → Option (Scope × α)) :
    List String → Scope → Option (Scope × α)
  | [], scope => finish scope
  | name :: path, scope =>
      match scope.find? name with
      | none =>
          (change dotted finish path ⟨true, dotted, []⟩).map fun (inner, result) =>
            (scope.set name inner.toNode, result)
      | some (.value _) => none
      | some (.tables []) => none
      | some (.tables (latest :: earlier)) =>
          (change dotted finish path (named latest)).map fun (inner, result) =>
            (scope.set name (.tables (inner.entries :: earlier)), result)
      | some (.table implied wasDotted entries) =>
          if dotted && !implied then none
          else
            (change dotted finish path ⟨implied, wasDotted, entries⟩).map fun (inner, result) =>
              (scope.set name inner.toNode, result)

def insert? (scope : Scope) (path : List String) (name : String) (value : Toml) :
    Option Scope :=
  (scope.change true (fun target =>
    if target.dotted == path.isEmpty then none
    else if (target.find? name).isSome then none
    else some (target.set name (.value value), ())) path).map (·.1)

/-- Prepares the table of a header: gives the entries it has already, from headers of tables
inside it, and takes it out of the document. -/
def openTable? (scope : Scope) (path : List String) (name : String) :
    Option (Scope × List (String × Node)) :=
  scope.change false (fun target =>
    match target.find? name with
    | none => some (target, [])
    | some (.table true false entries) => some (target.erase name, entries)
    | some _ => none) path

def openTables? (scope : Scope) (path : List String) (name : String) : Option Scope :=
  (scope.change false (fun target =>
    match target.find? name with
    | none => some (target.set name (.tables []), ())
    | some (.tables _) => some (target, ())
    | some _ => none) path).map (·.1)

def closeTable? (scope : Scope) (path : List String) (name : String)
    (entries : List (String × Node)) : Option Scope :=
  (scope.change false (fun target => some (target.set name (.table false false entries), ()))
    path).map (·.1)

def closeTables? (scope : Scope) (path : List String) (name : String)
    (entries : List (String × Node)) : Option Scope :=
  (scope.change false (fun target =>
    match target.find? name with
    | none => some (target.set name (.tables [entries]), ())
    | some (.tables earlier) => some (target.set name (.tables (entries :: earlier)), ())
    | some _ => none) path).map (·.1)

end Scope

mutual

def Node.toToml : Node → Toml
  | .value contents => contents
  | .table _ _ entries => .table (entriesToToml entries)
  | .tables items => .list (tablesToToml items).reverse

def entriesToToml : List (String × Node) → List (String × Toml)
  | [] => []
  | (name, node) :: rest => (name, node.toToml) :: entriesToToml rest

def tablesToToml : List (List (String × Node)) → List Toml
  | [] => []
  | entries :: rest => .table (entriesToToml entries) :: tablesToToml rest

end

end Telemetry.Toml
