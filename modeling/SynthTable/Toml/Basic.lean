import SynthTable.Number.Double

/-!
# TOML documents

The values of a document of settings, and how keys are added to its tables. A table remembers how it
came about, and that decides what may be added to it: a table with a header of its own gets no keys
by dotted ones, and a table between braces gets none at all.
-/

namespace SynthTable

/-- How a table came about. -/
inductive TableOrigin where
  /-- By a header of its own. -/
  | header
  /-- As a parent in the header of another table. -/
  | parent
  /-- As a parent in a dotted key. -/
  | dotted
  /-- As a value between braces. -/
  | braces
  deriving DecidableEq, Repr

/-- A value of a document. -/
inductive Toml where
  | string (s : String)
  | integer (n : Int)
  | float (x : Double)
  | bool (b : Bool)
  /-- A date, a time of day or both. -/
  | moment (text : String)
  | array (items : List Toml)
  | table (origin : TableOrigin) (members : List (String × Toml))
  /-- The tables of one header in double brackets. -/
  | tables (items : List (List (String × Toml)))

namespace Toml

/-- The keys of a table with their values. -/
abbrev Members := List (String × Toml)

namespace Members

/-- The members with another value at a key. -/
def replace (members : Members) (key : String) (v : Toml) : Members :=
  members.map fun (k, old) => (k, if k = key then v else old)

/-- Adds a value at a key that has none. -/
def add? (members : Members) (key : String) (v : Toml) : Option Members :=
  match members.lookup key with
  | none => some (members ++ [(key, v)])
  | some _ => none

/-- Changes the table at the end of a path. A table that is missing on the way is made as `made`; a
table that is there is entered if `admits` its origin, a list of tables at its last one. -/
def within (made : TableOrigin) (admits : TableOrigin → Bool)
    (change : TableOrigin → Members → Option Members) :
    (origin : TableOrigin) → (path : List String) → Members → Option Members
  | origin, [], members => change origin members
  | _, key :: path, members =>
    match members.lookup key with
    | none => do
      let inner ← within made admits change made path []
      some (members ++ [(key, .table made inner)])
    | some (.table origin inner) =>
      if admits origin then do
        let inner ← within made admits change origin path inner
        some (members.replace key (.table origin inner))
      else none
    | some (.tables items) => do
      let last ← within made admits change .header path (← items.getLast?)
      some (members.replace key (.tables (items.dropLast ++ [last])))
    | some _ => none

/-- Adds a value at a dotted key. The tables on the way are made by dotted keys, too. -/
def addDotted? (path : List String) (key : String) (v : Toml) (members : Members) :
    Option Members :=
  within .dotted (fun origin => origin = .parent || origin = .dotted)
    (fun origin members =>
      if path.isEmpty || origin = .dotted then members.add? key v else none)
    .header path members

/-- Changes the members of a table that a header leads to. -/
def underHeader (path : List String) (change : Members → Option Members) (members : Members) :
    Option Members :=
  within .parent (· ≠ .braces) (fun _ => change) .header path members

/-- Opens the table of a header; it may be there only as the parent of others. -/
def openTable? (key : String) (members : Members) : Option Members :=
  match members.lookup key with
  | none => some (members ++ [(key, .table .header [])])
  | some (.table .parent inner) => some (members.replace key (.table .header inner))
  | some _ => none

/-- Opens one table more of a header in double brackets. -/
def openNext? (key : String) (members : Members) : Option Members :=
  match members.lookup key with
  | none => some (members ++ [(key, .tables [[]])])
  | some (.tables items) => some (members.replace key (.tables (items ++ [[]])))
  | some _ => none

end Members

end Toml

end SynthTable
