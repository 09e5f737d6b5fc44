import SynthTable.Number.Double
import SynthTable.Random.Source

/-!
# Uniform draws from a range

A word is scaled to the range by multiplication: the high half of the product is the draw, and a
second word corrects it when the low half is near its end. Draws of numbers between two bounds and
of fair coins are built on single words.
-/

namespace SynthTable.Random

variable {σ : Type} [RandomSource σ]

/-- The next 32-bit word as a number. -/
def number32 (s : σ) : Nat × σ :=
  let (w, s) := RandomSource.next32 s
  (w.toNat, s)

/-- The next 64-bit word as a number. -/
def number64 (s : σ) : Nat × σ :=
  let (w, s) := RandomSource.next64 s
  (w.toNat, s)

/-- A draw from `0, …, count - 1` by words below `size`, for `0 < count ≤ size`. -/
def scaledDraw (size : Nat) (next : σ → Nat × σ) (count : Nat) (s : σ) : Nat × σ :=
  let (x, s) := next s
  if count = size then (x, s)
  else
    let product := x * count
    let high := product / size
    let low := product % size
    if size - count < low then
      let (y, s) := next s
      (if size ≤ low + y * count / size then high + 1 else high, s)
    else (high, s)

/-- A draw below `count` by 32-bit words. -/
def below32 (count : Nat) (s : σ) : Nat × σ := scaledDraw UInt32.size number32 count s

/-- A draw below `count` by 64-bit words. -/
def below64 (count : Nat) (s : σ) : Nat × σ := scaledDraw UInt64.size number64 count s

/-- A draw between two 64-bit integers, both included; of the whole range it is the word itself,
read as a signed integer. -/
def int64Between (low high : Int64) (s : σ) : Int64 × σ :=
  let count := (high.toInt - low.toInt + 1).toNat
  let (offset, s) := below64 count s
  (if count = UInt64.size then .ofNat offset else .ofInt (low.toInt + offset), s)

/-- A number from 0 up to but not including 1, in steps of 2^-53. -/
def fraction (s : σ) : Double × σ :=
  let (x, s) := number64 s
  (.ofRatio false (x / Nat.pow 2 11) (Nat.pow 2 53), s)

/-- A number between two bounds, in steps of 2^-52 of their distance. -/
def doubleBetween (low high : Double) (s : σ) : Double × σ :=
  let (x, s) := number64 s
  let part := Double.ofRatio false (x / Nat.pow 2 12) (Nat.pow 2 52)
  ((part.mul (high.sub low)).add low, s)

/-- A fair coin. -/
def coin (s : σ) : Bool × σ :=
  let (x, s) := number64 s
  (x < Nat.pow 2 63, s)

/-- An element of a list, drawn by 32-bit words; the default of an empty list. -/
def element {α : Type} (list : List α) (default : α) (s : σ) : α × σ :=
  let (i, s) := below32 list.length s
  (list.getD i default, s)

end SynthTable.Random
