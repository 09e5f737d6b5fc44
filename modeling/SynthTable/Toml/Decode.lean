import SynthTable.Toml.Basic

/-!
# Decoding TOML values

Readers of single values, and of records. The fields of a record are the keys of a table or the
items of an array in their order; keys and items that are no fields are passed over, and a date or
time has none of the fields.
-/

namespace SynthTable.Toml

/-- A string. -/
def string? : Toml → Option String
  | .string s => some s
  | _ => none

/-- A truth value. -/
def bool? : Toml → Option Bool
  | .bool b => some b
  | _ => none

/-- An integer that is not negative. -/
def nat? : Toml → Option Nat
  | .integer n => if 0 ≤ n then some n.toNat else none
  | _ => none

/-- The values of the fields of a record, in the order of `names`; missing ones as nothing. -/
def fields? (names : List String) : Toml → Option (List (Option Toml))
  | .table _ members => some (names.map fun n => members.lookup n)
  | .array items => some (positional items)
  | .tables items => some (positional (items.map (.table .header)))
  | .moment _ => some (positional [])
  | _ => none
where
  /-- The values of the fields by their places. -/
  positional (items : List Toml) : List (Option Toml) :=
    (List.range names.length).map (items[·]?)

/-- A field with a value for its absence. -/
def orDefault? {α : Type} (read : Toml → Option α) (default : α) : Option Toml → Option α
  | none => some default
  | some v => read v

/-- A field that may be missing. -/
def optional? {α : Type} (read : Toml → Option α) : Option Toml → Option (Option α)
  | none => some none
  | some v => (read v).map some

end SynthTable.Toml
