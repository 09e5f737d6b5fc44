import SynthTable.Calendar.DateTime
import SynthTable.Order.Sorted
import SynthTable.Random.Source

/-!
# What generation changes

Generating a cell draws from the source of random words, and some cells move a counter or read the
clock. Counters and clock are shared by all rows; each row has a source of its own.
-/

namespace SynthTable

/-- Readings of the present time, one after another. -/
structure Clock where
  reading : Nat → DateTime
  /-- The number of readings taken. -/
  taken : Nat

/-- What all rows share: the last values of the counters by the names of their columns, and the
clock. -/
structure Shared where
  counters : NameMap Int64
  clock : Clock

/-- A source of random words and what all rows share. -/
structure World (σ : Type) where
  source : σ
  shared : Shared

/-- The end of generation by something that is no error of a cell; not every one has a text. -/
structure Crash where
  text? : Option String
  deriving DecidableEq, Repr

/-- The text of a crash. -/
def Crash.message (c : Crash) : String := c.text?.getD "panic during generation"

namespace Shared

/-- The next number of the counter of a column that starts after `start`. -/
def count (column : String) (start : Int64) (s : Shared) : Int64 × Shared :=
  let next := (s.counters.get? column).getD start + 1
  (next, { s with counters := s.counters.insert column next })

/-- The present time. -/
def now (s : Shared) : DateTime × Shared :=
  (s.clock.reading s.clock.taken, { s with clock := { s.clock with taken := s.clock.taken + 1 } })

end Shared

namespace World

variable {σ : Type}

/-- Draws from the source. -/
def draw {α : Type} (f : σ → α × σ) (w : World σ) : α × World σ :=
  let (a, source) := f w.source
  (a, { w with source })

/-- Takes from what is shared. -/
def take {α : Type} (f : Shared → α × Shared) (w : World σ) : α × World σ :=
  let (a, shared) := f w.shared
  (a, { w with shared })

end World

end SynthTable
