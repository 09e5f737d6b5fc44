import SynthTable.Random.Range

/-!
# Pick lists

A pick list behaves as if each entry were repeated as often as its weight says and one position of
the long list were drawn. Only the ends of the repetitions are kept, so weights cost no memory. The
length of the long list stops at the largest number of 64 bits.
-/

namespace SynthTable

/-- Entries with the positions where their repetitions end, in order. -/
structure PickList (α : Type) where
  entries : List (α × Nat)

namespace PickList

variable {α : Type}

/-- The largest length of the long list. -/
def longest : Nat := UInt64.size - 1

/-- The length of the long list. -/
def length (list : PickList α) : Nat :=
  match list.entries.getLast? with
  | some (_, stop) => stop
  | none => 0

/-- The ends of the repetitions of weighted entries, the first of which begins at `start`. -/
def endsFrom (start : Nat) : List (α × Nat) → List (α × Nat)
  | [] => []
  | (entry, weight) :: rest =>
    let stop := min (start + weight) longest
    (entry, stop) :: endsFrom stop rest

/-- The list of entries with their weights. -/
def ofCounts (weighted : List (α × Nat)) : PickList α := ⟨endsFrom 0 weighted⟩

/-- The entries of positive weight. -/
def ofWeights (weighted : List (α × Int64)) : PickList α :=
  ofCounts (weighted.filterMap fun (entry, weight) =>
    if 0 < weight then some (entry, weight.toInt.toNat) else none)

/-- Each entry once. -/
def uniform (entries : List α) : PickList α := ofCounts (entries.map (·, 1))

/-- The least magnitude of the entries, but at least one. -/
def leastMagnitude (magnitude : α → UInt64) (entries : List α) : Nat :=
  match (entries.map fun e => (magnitude e).toNat).min? with
  | some least => max least 1
  | none => 1

/-- Each entry once more than its magnitude contains the least one. -/
def byMagnitude (magnitude : α → UInt64) (entries : List α) : PickList α :=
  let least := leastMagnitude magnitude entries
  ofCounts (entries.map fun e => (e, min ((magnitude e).toNat / least + 1) longest))

/-- Whether there are no entries. -/
def isEmpty (list : PickList α) : Bool := list.entries.isEmpty

/-- The number of entries. -/
def distinct (list : PickList α) : Nat := list.entries.length

/-- The entry at a position of the long list. -/
def get? (list : PickList α) (position : Nat) : Option α :=
  (list.entries.find? fun (_, stop) => position < stop).map (·.1)

/-- Weights from ends, the first after `previous`. -/
def weightsFrom (previous : Nat) : List (α × Nat) → List (α × Nat)
  | [] => []
  | (entry, stop) :: rest => (entry, stop - previous) :: weightsFrom stop rest

/-- The entries with their weights. -/
def weights (list : PickList α) : List (α × Nat) := weightsFrom 0 list.entries

/-- A drawn entry; nothing is drawn from an empty list. -/
def draw {σ : Type} [RandomSource σ] (list : PickList α) (s : σ) : Option α × σ :=
  if list.isEmpty then (none, s)
  else
    let (position, s) := Random.below64 list.length s
    (list.get? position, s)

end PickList

end SynthTable
