import ReverseProxy.Node

/-! # Tables that are written piece by piece -/

namespace ReverseProxy.Toml

mutual

/-- What a key of a table stands for. -/
inductive Entry where
  /-- A value, which is complete where it is written. -/
  | value (node : Node)
  | table (table : Table)
  /-- One table for each double-bracketed header, in order. -/
  | tables (tables : List Table)

/-- The entries in order of first mention, and how the table came to be. -/
inductive Table where
  | mk (implicit dotted : Bool) (entries : List (String × Entry))

end

namespace Table

/-- A table is implicit if only a longer path mentions it so far. -/
def implicit : Table → Bool
  | mk i _ _ => i

/-- A table is dotted if a dotted key of a value made it. -/
def dotted : Table → Bool
  | mk _ d _ => d

def entries : Table → List (String × Entry)
  | mk _ _ e => e

def empty : Table := mk false false []

def find? (t : Table) (key : String) : Option Entry := t.entries.lookup key

/-- Puts a new key behind all others. -/
def push (t : Table) (key : String) (entry : Entry) : Table :=
  mk t.implicit t.dotted (t.entries ++ [(key, entry)])

/-- Changes what a key stands for and leaves it in its place. -/
def replace (t : Table) (key : String) (entry : Entry) : Table :=
  mk t.implicit t.dotted (t.entries.map fun (k, e) => if k = key then (k, entry) else (k, e))

def erase (t : Table) (key : String) : Table :=
  mk t.implicit t.dotted (t.entries.filter (·.1 ≠ key))

/--
Changes the table at the end of a path, and makes the tables on the way that are missing. Of an array of
tables the path goes through the last one. A dotted key must not reach into a table that has a header.
-/
def change (dotted : Bool) : List String → (Table → Option Table) → Table → Option Table
  | [], f, t => f t
  | key :: path, f, t =>
    match t.find? key with
    | none => do return t.push key (.table (← change dotted path f (mk true dotted [])))
    | some (.value _) => none
    | some (.tables []) => none
    | some (.tables (first :: rest)) => do
      let last := (first :: rest).getLast (by simp)
      return t.replace key (.tables ((first :: rest).dropLast ++ [← change dotted path f last]))
    | some (.table inner) =>
      if dotted && !inner.implicit then none
      else do return t.replace key (.table (← change dotted path f inner))

/-- Gives a key its value. The tables on the way to it must be dotted too. -/
def assign (path : List String) (key : String) (node : Node) (t : Table) : Option Table :=
  t.change true path fun inner =>
    if inner.dotted = path.isEmpty ∨ (inner.find? key).isSome then none
    else some (inner.push key (.value node))

/-- A header in single brackets. It may define a table that is only implicit so far. -/
def openTable (path : List String) (key : String) (t : Table) : Option Table :=
  t.change false path fun parent =>
    match parent.find? key with
    | none => some (parent.push key (.table empty))
    | some (.table inner) =>
      if inner.implicit ∧ !inner.dotted then
        some ((parent.erase key).push key (.table (mk false false inner.entries)))
      else none
    | some _ => none

/-- A header in double brackets adds a table to an array of tables. -/
def openArray (path : List String) (key : String) (t : Table) : Option Table :=
  t.change false path fun parent =>
    match parent.find? key with
    | none => some (parent.push key (.tables [empty]))
    | some (.tables tables) => some (parent.replace key (.tables (tables ++ [empty])))
    | some _ => none

end Table

mutual

def Entry.toNode : Entry → Node
  | .value node => node
  | .table t => t.toNode
  | .tables ts => .sequence (tablesToNodes ts) true

def Table.toNode : Table → Node
  | .mk _ _ entries => .mapping (entriesToNodes entries) true

def tablesToNodes : List Table → List Node
  | [] => []
  | t :: rest => t.toNode :: tablesToNodes rest

def entriesToNodes : List (String × Entry) → List (Node × Node)
  | [] => []
  | (key, entry) :: rest => (.text key, entry.toNode) :: entriesToNodes rest

end

end ReverseProxy.Toml
