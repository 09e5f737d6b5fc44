/-!
# Sorted lists

Sets are lists in increasing order without repetition, and maps from names are lists in the order of
the code points of the names. Inserting keeps that order.
-/

namespace SynthTable

namespace Ascending

variable {α : Type} [LT α] [DecidableLT α] [DecidableEq α]

/-- The set with one element more. -/
def insert (x : α) : List α → List α
  | [] => [x]
  | y :: rest =>
    if x < y then x :: y :: rest
    else if x = y then y :: rest
    else y :: insert x rest

@[simp] theorem mem_insert {x y : α} {xs : List α} : y ∈ insert x xs ↔ y = x ∨ y ∈ xs := by
  induction xs with
  | nil => simp [insert]
  | cons z rest ih =>
    unfold insert
    split
    · simp
    · split
      · next h => simp [h]
      · rw [List.mem_cons, ih, List.mem_cons]
        exact or_left_comm

end Ascending

/-- A set of names in increasing order. -/
abbrev Names := List String

namespace Names

/-- The set with the names of a list. -/
def insertAll (names : Names) (more : List String) : Names :=
  more.foldl (fun set name => Ascending.insert name set) names

/-- The set of the names of a list. -/
def ofList (names : List String) : Names := insertAll [] names

theorem mem_insertAll {names : Names} {more : List String} {n : String} :
    n ∈ insertAll names more ↔ n ∈ names ∨ n ∈ more := by
  induction more generalizing names with
  | nil => simp [insertAll]
  | cons m rest ih =>
    show n ∈ insertAll (Ascending.insert m names) rest ↔ _
    rw [ih, Ascending.mem_insert, List.mem_cons, or_assoc, or_left_comm]

/-- The set of a list has the names of the list. -/
@[simp] theorem mem_ofList {names : List String} {n : String} : n ∈ ofList names ↔ n ∈ names := by
  simp [ofList, mem_insertAll]

end Names

/-- A map from names in increasing order of the names. -/
abbrev NameMap (α : Type) := List (String × α)

namespace NameMap

variable {α : Type}

/-- The map that takes `name` to `value` and is the same elsewhere. -/
def insert (name : String) (value : α) : NameMap α → NameMap α
  | [] => [(name, value)]
  | (n, v) :: rest =>
    if name < n then (name, value) :: (n, v) :: rest
    else if name = n then (name, value) :: rest
    else (n, v) :: insert name value rest

/-- The map of a list of pairs; the last pair of a name counts. -/
def ofList (pairs : List (String × α)) : NameMap α :=
  pairs.foldl (fun map pair => insert pair.1 pair.2 map) []

/-- The value of a name. -/
def get? (name : String) : NameMap α → Option α
  | [] => none
  | (n, v) :: rest => if n = name then some v else get? name rest

/-- The map with the value of one name changed, or set if it has none. -/
def update (name : String) (change : Option α → α) (map : NameMap α) : NameMap α :=
  insert name (change (get? name map)) map

end NameMap

end SynthTable
