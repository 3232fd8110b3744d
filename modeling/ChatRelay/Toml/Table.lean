/-!
# Tables under construction

A configuration text defines a tree of tables piece by piece: by headers, by
keys with several parts, and by values. What may be added to a table depends on
how it came about, so that no table is defined twice and no value that was
complete is changed. `Table.put?` and `Table.openPath?` add what may be added.
-/

namespace ChatRelay.Toml

/-- A complete value. -/
inductive Value where
  | text (s : String)
  | integer (n : Int)
  | float
  | boolean (b : Bool)
  | date
  | list (items : List Value)
  | table (members : List (String × Value))
  deriving Inhabited

/-- How a table came about. -/
inductive Origin where
  /-- By a header of its own. -/
  | header
  /-- On the way to the table of another header. -/
  | implied
  /-- By a key with several parts. -/
  | dotted
  deriving DecidableEq, Repr

/-- A node of the tree. -/
inductive Node where
  | value (v : Value)
  | table (origin : Origin) (members : List (String × Node))
  /-- Tables with the same header. There is at least one; later ones come first. -/
  | tables (last : List (String × Node)) (earlier : List (List (String × Node)))
  deriving Inhabited

/-- A table under construction. -/
abbrev Table := List (String × Node)

/-- Changes the node with this key, or adds one. -/
def Table.change? (key : String) (f : Option Node → Option Node) : Table → Option Table
  | [] => (f none).map fun n => [(key, n)]
  | (k, n) :: rest =>
    if k = key then (f (some n)).map fun n => (k, n) :: rest
    else (Table.change? key f rest).map ((k, n) :: ·)

/-- Changes the table at the end of a path. Tables on the way that are not there yet come about as
`origin` says. A key with several parts does not lead into a table that has a header. The change is
told how the table at the end came about. -/
def Table.changeAt? (origin : Origin) (f : Origin → Table → Option Table) (here : Origin) :
    List String → Table → Option Table
  | [], t => f here t
  | key :: path, t =>
    t.change? key fun
      | none => (Table.changeAt? origin f origin path []).map (.table origin)
      | some (.value _) => none
      | some (.tables last earlier) =>
        (Table.changeAt? origin f .header path last).map (.tables · earlier)
      | some (.table o members) =>
        if origin = .dotted ∧ o = .header then none
        else (Table.changeAt? origin f o path members).map (.table o)

/-- Adds a value under a key whose parts are `path` and `key`. -/
def Table.put? (path : List String) (key : String) (v : Value) (here : Origin) (t : Table) :
    Option Table :=
  t.changeAt? .dotted (fun o t =>
    if path ≠ [] ∧ o ≠ .dotted then none
    else t.change? key fun
      | none => some (.value v)
      | some _ => none) here path

/-- Opens the table with a header: a new one, or one that was implied. -/
def Table.openPath? (path : List String) (key : String) (t : Table) : Option Table :=
  t.changeAt? .implied (fun _ t => t.change? key fun
    | none => some (.table .header [])
    | some (.table .implied members) => some (.table .header members)
    | some _ => none) .header path

/-- Opens the next of the tables with a header in double brackets. -/
def Table.openNext? (path : List String) (key : String) (t : Table) : Option Table :=
  t.changeAt? .implied (fun _ t => t.change? key fun
    | none => some (.tables [] [])
    | some (.tables last earlier) => some (.tables [] (last :: earlier))
    | some _ => none) .header path

/-- Adds a value to the table of the header `header`. -/
def Table.putUnder? (header path : List String) (key : String) (v : Value) (t : Table) :
    Option Table :=
  t.changeAt? .implied (fun o t => t.put? path key v o) .header header

mutual

/-- The value of a node that nothing is added to any more. -/
def Node.close : Node → Value
  | .value v => v
  | .table _ members => .table (closeMembers members)
  | .tables last earlier => .list ((closeTables earlier).reverse ++ [.table (closeMembers last)])

def closeMembers : List (String × Node) → List (String × Value)
  | [] => []
  | (key, n) :: rest => (key, n.close) :: closeMembers rest

def closeTables : List (List (String × Node)) → List Value
  | [] => []
  | t :: ts => .table (closeMembers t) :: closeTables ts

end

end ChatRelay.Toml
