/-!
# Double precision numbers

The numbers of the binary64 format, each in one form: an integer below 2^53 times a power of two,
an infinity, or the one value that is no number. Arithmetic is exact arithmetic on integers
followed by one rounding to the nearest number, ties to the even one.
-/

namespace SynthTable

/-- `m · 2^e` in its one form: a full mantissa of 53 bits, or the least exponent. -/
def IsDoubleForm (m : Nat) (e : Int) : Prop :=
  m < Nat.pow 2 53 ∧ -1074 ≤ e ∧ e ≤ 971 ∧ (Nat.pow 2 52 ≤ m ∨ e = -1074)

instance (m : Nat) (e : Int) : Decidable (IsDoubleForm m e) := by
  unfold IsDoubleForm; infer_instance

/-- A number of the binary64 format. Zero has two signs. -/
inductive Double where
  | nan
  | infinite (negative : Bool)
  | finite (negative : Bool) (mantissa : Nat) (exponent : Int)
      (form : IsDoubleForm mantissa exponent)
deriving DecidableEq

namespace Double

/-- The number with the given parts; parts beyond the largest exponent make an infinity. -/
def ofParts (negative : Bool) (m : Nat) (e : Int) : Double :=
  if h : IsDoubleForm m e then .finite negative m e h else .infinite negative

/-- The zero of a sign. -/
def zero (negative : Bool) : Double := .finite negative 0 (-1074) (by decide)

instance : Inhabited Double := ⟨zero false⟩

/-- `n / d` rounded to an integer, ties to the even one. -/
def roundHalfEven (n d : Nat) : Nat :=
  let q := n / d
  let r := n % d
  if 2 * r < d then q
  else if d < 2 * r then q + 1
  else if q % 2 = 0 then q else q + 1

/-- The fraction `n / d · 2^(-e)` as numerator and denominator. -/
def shiftRatio (n d : Nat) (e : Int) : Nat × Nat :=
  if 0 ≤ e then (n, d * Nat.pow 2 e.toNat) else (n * Nat.pow 2 (-e).toNat, d)

/-- The exponent of the last place of the double nearest to `n / d`, both positive. -/
def placeOf (n d : Nat) : Int :=
  let e : Int := (Nat.log2 n : Int) - (Nat.log2 d : Int) - 52
  let (a, b) := shiftRatio n d e
  max (-1074) (if a < b * Nat.pow 2 52 then e - 1 else e)

/-- The double nearest to `n / d` with the given sign; `d` is positive. -/
def ofRatio (negative : Bool) (n d : Nat) : Double :=
  if n = 0 then zero negative
  else
    let e := placeOf n d
    let (a, b) := shiftRatio n d e
    let m := roundHalfEven a b
    if m = Nat.pow 2 53 then ofParts negative (Nat.pow 2 52) (e + 1) else ofParts negative m e

/-- The double nearest to `m · 2^e`. -/
def ofScaled (negative : Bool) (m : Nat) (e : Int) : Double :=
  if 0 ≤ e then ofRatio negative (m * Nat.pow 2 e.toNat) 1
  else ofRatio negative m (Nat.pow 2 (-e).toNat)

/-- The double nearest to an integer. -/
def ofInt (n : Int) : Double := ofRatio (n < 0) n.natAbs 1

/-- The double nearest to a natural number. -/
def ofNat (n : Nat) : Double := ofRatio false n 1

/-- Neither an infinity nor the value that is no number. -/
def isFinite : Double → Bool
  | .finite .. => true
  | _ => false

/-- The number with the other sign. -/
def neg : Double → Double
  | .nan => .nan
  | .infinite s => .infinite (!s)
  | .finite s m e h => .finite (!s) m e h

/-- The number without its sign. -/
def abs : Double → Double
  | .nan => .nan
  | .infinite _ => .infinite false
  | .finite _ m e h => .finite false m e h

/-- A signed mantissa. -/
def signed (negative : Bool) (m : Nat) : Int := if negative then -(m : Int) else m

/-- `m · 2^e` as a multiple of `2^place`, for a place not above `e`. -/
def atPlace (m : Nat) (e place : Int) : Nat := m * Nat.pow 2 (e - place).toNat

/-- Sum, exact and then rounded. Opposite infinities have none. -/
def add : Double → Double → Double
  | .nan, _ => .nan
  | _, .nan => .nan
  | .infinite s, .infinite t => if s = t then .infinite s else .nan
  | .infinite s, .finite .. => .infinite s
  | .finite .., .infinite t => .infinite t
  | .finite s m e _, .finite t n f _ =>
    let place := min e f
    let total := signed s (atPlace m e place) + signed t (atPlace n f place)
    if total = 0 then zero (s && t) else ofScaled (total < 0) total.natAbs place

/-- Difference. -/
def sub (x y : Double) : Double := add x (neg y)

/-- Product, exact and then rounded. Zero times an infinity has none. -/
def mul : Double → Double → Double
  | .nan, _ => .nan
  | _, .nan => .nan
  | .infinite s, .infinite t => .infinite (s != t)
  | .infinite s, .finite t n _ _ => if n = 0 then .nan else .infinite (s != t)
  | .finite s m _ _, .infinite t => if m = 0 then .nan else .infinite (s != t)
  | .finite s m e _, .finite t n f _ => ofScaled (s != t) (m * n) (e + f)

/-- Quotient, exact and then rounded; a number over zero is an infinity. -/
def div : Double → Double → Double
  | .nan, _ => .nan
  | _, .nan => .nan
  | .infinite _, .infinite _ => .nan
  | .infinite s, .finite t _ _ _ => .infinite (s != t)
  | .finite s _ _ _, .infinite t => zero (s != t)
  | .finite s m e _, .finite t n f _ =>
    if n = 0 then (if m = 0 then .nan else .infinite (s != t))
    else
      let shift := e - f
      if 0 ≤ shift then ofRatio (s != t) (m * Nat.pow 2 shift.toNat) n
      else ofRatio (s != t) m (n * Nat.pow 2 (-shift).toNat)

/-- Remainder of the division that truncates toward zero; it has the sign of the dividend. -/
def rem : Double → Double → Double
  | .nan, _ => .nan
  | _, .nan => .nan
  | .infinite _, _ => .nan
  | .finite s m e h, .infinite _ => .finite s m e h
  | .finite s m e _, .finite _ n f _ =>
    if n = 0 then .nan
    else
      let place := min e f
      ofScaled s (atPlace m e place % atPlace n f place) place

/-- The order of numbers. The two zeros are equal, and nothing compares with what is no number. -/
def compare? : Double → Double → Option Ordering
  | .nan, _ => none
  | _, .nan => none
  | .infinite s, .infinite t =>
    some (if s = t then .eq else if s then .lt else .gt)
  | .infinite s, .finite .. => some (if s then .lt else .gt)
  | .finite .., .infinite t => some (if t then .gt else .lt)
  | .finite s m e _, .finite t n f _ =>
    let place := min e f
    some (compare (signed s (atPlace m e place)) (signed t (atPlace n f place)))

/-- Equality as numbers. -/
def equal (x y : Double) : Bool := compare? x y == some .eq

/-- Strictly below. -/
def less (x y : Double) : Bool := compare? x y == some .lt

/-- A whole number. -/
def isWhole : Double → Bool
  | .finite _ m e _ => 0 ≤ e || m % Nat.pow 2 (-e).toNat == 0
  | _ => false

/-- Whether the size is below a natural number. -/
def sizeBelow (x : Double) (n : Nat) : Bool := less (abs x) (ofNat n)

/-- The whole part, toward zero; none of an infinity or of what is no number. -/
def truncate? : Double → Option Int
  | .finite s m e _ =>
    some (signed s (if 0 ≤ e then m * Nat.pow 2 e.toNat else m / Nat.pow 2 (-e).toNat))
  | _ => none

/-- The whole part as a 64-bit integer: numbers beyond its ends give the ends, and what is no
number gives zero. -/
def toInt64 : Double → Int64
  | .nan => 0
  | .infinite s => if s then Int64.minValue else Int64.maxValue
  | .finite s m e h =>
    match truncate? (.finite s m e h) with
    | none => 0
    | some n =>
      if n < Int64.minValue.toInt then Int64.minValue
      else if Int64.maxValue.toInt < n then Int64.maxValue
      else Int64.ofInt n

/-- The nearest number between two bounds. -/
def clamp (x low high : Double) : Double :=
  if less x low then low else if less high x then high else x

end Double

end SynthTable
