import SynthTable.Number.Double

/-!
# Decimal text of doubles

The digits of a double are the fewest that read back as it, and of those the nearest to it. Three
records say which of two equally near ones is taken and how the digits are laid out: in texts, in
documents and in messages. Reading a text gives the double nearest to the written number.
-/

namespace SynthTable

/-- A positive decimal number `digits · 10^exponent`. -/
structure Decimal where
  digits : Nat
  exponent : Int
deriving DecidableEq, Repr

/-- Which of two equally near decimals stands for a number. -/
inductive DecimalTie where
  /-- The one with an even last digit. -/
  | even
  /-- The one farther from zero. -/
  | away
deriving DecidableEq, Repr

/-- A fraction compared with a multiple of a power of ten: `n · 10^k` against `a / b`. -/
def Decimal.scaled (n : Nat) (k : Int) (b : Nat) : Nat × Nat :=
  if 0 ≤ k then (n * Nat.pow 10 k.toNat * b, 1) else (n * b, Nat.pow 10 (-k).toNat)

/-- A positive double with the interval of the reals that round to it, in units of a quarter of
its last place: `low ≤ value ≤ high`, over `scale`. -/
structure RoundingInterval where
  low : Nat
  value : Nat
  high : Nat
  scale : Nat
  /-- Whether the ends of the interval round to the double too. -/
  closed : Bool

namespace RoundingInterval

/-- The interval of `m · 2^e`; it is narrower below a power of two. -/
def ofParts (m : Nat) (e : Int) : RoundingInterval :=
  let below := if m = Nat.pow 2 52 ∧ -1074 < e then 1 else 2
  let f := e - 2
  let up := if 0 ≤ f then Nat.pow 2 f.toNat else 1
  let down := if 0 ≤ f then 1 else Nat.pow 2 (-f).toNat
  ⟨(4 * m - below) * up, 4 * m * up, (4 * m + 2) * up, down, m % 2 == 0⟩

/-- Whether `n · 10^k` lies in the interval. -/
def holds (r : RoundingInterval) (n : Nat) (k : Int) : Bool :=
  let (x, d) := Decimal.scaled n k r.scale
  if r.closed then r.low * d ≤ x && x ≤ r.high * d else r.low * d < x && x < r.high * d

/-- The multiple of `10^k` just below the value, or the value itself. -/
def floorAt (r : RoundingInterval) (k : Int) : Nat :=
  if 0 ≤ k then r.value / (r.scale * Nat.pow 10 k.toNat)
  else r.value * Nat.pow 10 (-k).toNat / r.scale

/-- Whether the multiple `n` of `10^k` is farther below the value than `n + 1` is above it, or as
far and the tie goes to `n + 1`. -/
def prefersNext (tie : DecimalTie) (r : RoundingInterval) (n : Nat) (k : Int) : Bool :=
  let (x, d) := Decimal.scaled (2 * n + 1) k r.scale
  let v := 2 * r.value * d
  x < v || (x == v && (tie == .away || n % 2 == 1))

/-- The multiple of `10^k` that stands for the value, if one lies in the interval. -/
def pick? (tie : DecimalTie) (r : RoundingInterval) (k : Int) : Option Nat :=
  let n := r.floorAt k
  let here := r.holds n k
  let next := r.holds (n + 1) k
  if here && next then some (if r.prefersNext tie n k then n + 1 else n)
  else if here then some n
  else if next then some (n + 1)
  else none

/-- Goes to finer and finer grids until one meets the interval. -/
def search (tie : DecimalTie) (r : RoundingInterval) : (fuel : Nat) → Int → Decimal
  | 0, k => ⟨r.floorAt k, k⟩
  | fuel + 1, k =>
    match r.pick? tie k with
    | some n => ⟨n, k⟩
    | none => search tie r fuel (k - 1)

/-- The power of ten just above the value. -/
def topPlace (r : RoundingInterval) : Int :=
  let estimate : Int := ((Nat.log2 r.value : Int) - (Nat.log2 r.scale : Int)) * 30103 / 100000
  estimate + 2

end RoundingInterval

/-- A decimal without zeros at the end of its digits. -/
def Decimal.stripZeros : (fuel : Nat) → Decimal → Decimal
  | 0, d => d
  | fuel + 1, d =>
    if d.digits ≠ 0 ∧ d.digits % 10 = 0 then stripZeros fuel ⟨d.digits / 10, d.exponent + 1⟩ else d

/-- The shortest decimal that rounds to `m · 2^e`, the nearest one of that length. -/
def Decimal.shortest (tie : DecimalTie) (m : Nat) (e : Int) : Decimal :=
  if m = 0 then ⟨0, 0⟩
  else
    let r := RoundingInterval.ofParts m e
    Decimal.stripZeros 40 (r.search tie 40 r.topPlace)

/-- How a double is laid out as text. -/
structure DoubleLayout where
  /-- Least decimal point position written in exponent form at the small end, if any. -/
  smallest : Option Int
  /-- Greatest decimal point position written without exponent at the large end, if any. -/
  largest : Option Int
  /-- Whether a whole number gets a zero after a point. -/
  pointZero : Bool
  /-- Whether a positive exponent has a sign. -/
  plusExponent : Bool
  /-- Which of two equally near decimals is written. -/
  tie : DecimalTie

namespace DoubleLayout

/-- Texts never use an exponent and show whole numbers without a point; ties go away from zero. -/
def text : DoubleLayout := ⟨none, none, false, false, .away⟩

/-- Documents use an exponent from 10^16 up and below 10^-5, with a sign; whole numbers keep a
point. Ties go to the even digit. -/
def document : DoubleLayout := ⟨some (-5), some 16, true, true, .even⟩

/-- Messages use an exponent from 10^16 up and below 10^-4, without a sign; whole numbers keep a
point. Ties go away from zero. -/
def message : DoubleLayout := ⟨some (-4), some 16, true, false, .away⟩

/-- Digits and decimal point position: the number is `0.d₁d₂… · 10^point`. -/
def lay (layout : DoubleLayout) (digits : List Char) (point : Int) : List Char :=
  let tooSmall := match layout.smallest with | some p => decide (point ≤ p) | none => false
  let tooLarge := match layout.largest with | some p => decide (p < point) | none => false
  let ending : List Char := if layout.pointZero then ['.', '0'] else []
  if tooSmall || tooLarge then
    let exponent := point - 1
    let mantissa := match digits with
      | [] => ['0']
      | [d] => [d]
      | d :: ds => d :: '.' :: ds
    let sign := if exponent < 0 then ['-'] else if layout.plusExponent then ['+'] else []
    mantissa ++ 'e' :: sign ++ Nat.toDigits 10 exponent.natAbs
  else if point ≤ 0 then
    '0' :: '.' :: List.replicate (-point).toNat '0' ++ digits
  else if (digits.length : Int) ≤ point then
    digits ++ List.replicate (point - digits.length).toNat '0' ++ ending
  else digits.take point.toNat ++ '.' :: digits.drop point.toNat

end DoubleLayout

namespace Double

/-- The text of a double in a layout. -/
def format (layout : DoubleLayout) : Double → String
  | .nan => "NaN"
  | .infinite s => if s then "-inf" else "inf"
  | .finite s m e _ =>
    let sign : List Char := if s then ['-'] else []
    let body :=
      if m = 0 then layout.lay ['0'] 1
      else
        let d := Decimal.shortest layout.tie m e
        let digits := Nat.toDigits 10 d.digits
        layout.lay digits (d.exponent + digits.length)
    String.ofList (sign ++ body)

/-- The text of a double in rows and templates. -/
def toText (x : Double) : String := x.format .text

/-- The double nearest to `digits · 10^exponent`; numbers far outside the range are not computed. -/
def ofDecimal (negative : Bool) (digits : Nat) (exponent : Int) : Double :=
  if digits = 0 then zero negative
  else
    let size : Int := ((Nat.toDigits 10 digits).length : Int) + exponent
    if 400 < size then .infinite negative
    else if size < -400 then zero negative
    else if 0 ≤ exponent then ofRatio negative (digits * Nat.pow 10 exponent.toNat) 1
    else ofRatio negative digits (Nat.pow 10 (-exponent).toNat)

end Double

namespace Numeral

/-- The ASCII digits only. -/
def isDigit (c : Char) : Bool := '0' ≤ c && c ≤ '9'

/-- The value of a digit. -/
def digitValue (c : Char) : Nat := c.toNat - 48

/-- The number written by a run of digits. -/
def value (digits : List Char) : Nat := digits.foldl (fun n c => 10 * n + digitValue c) 0

/-- A sign, if there is one, and the rest. -/
def sign : List Char → Bool × List Char
  | '-' :: rest => (true, rest)
  | '+' :: rest => (false, rest)
  | cs => (false, cs)

/-- The exponent after a mantissa: nothing, or `e` and an integer. -/
def exponent? : List Char → Option Int
  | [] => some 0
  | c :: rest =>
    if c = 'e' ∨ c = 'E' then
      let (negative, digits) := sign rest
      if digits ≠ [] ∧ digits.all isDigit then
        some (if negative then -(value digits : Int) else value digits)
      else none
    else none

/-- Digits with an optional point among them, at least one digit, and an optional exponent. -/
def decimal? (negative : Bool) (cs : List Char) : Option Double :=
  let whole := cs.takeWhile isDigit
  let afterWhole := cs.dropWhile isDigit
  let (fraction, rest) := match afterWhole with
    | '.' :: more => (more.takeWhile isDigit, more.dropWhile isDigit)
    | _ => ([], afterWhole)
  if whole = [] ∧ fraction = [] then none
  else
    (exponent? rest).map fun e =>
      Double.ofDecimal negative (value (whole ++ fraction)) (e - fraction.length)

/-- Lower case of an ASCII letter, for the names of the special values. -/
def plainLower (c : Char) : Char := if 'A' ≤ c ∧ c ≤ 'Z' then Char.ofNat (c.toNat + 32) else c

/-- The double a text writes: a decimal number, or an infinity or no number by name. Nothing
else may stand in the text, not even blanks. -/
def double? (cs : List Char) : Option Double :=
  let (negative, rest) := sign cs
  let name := rest.map plainLower
  if name = ['i', 'n', 'f'] ∨ name = ['i', 'n', 'f', 'i', 'n', 'i', 't', 'y'] then
    some (.infinite negative)
  else if name = ['n', 'a', 'n'] then some .nan
  else decimal? negative rest

/-- The integer a text writes: an optional sign and digits. -/
def integer? (cs : List Char) : Option Int :=
  let (negative, digits) := sign cs
  if digits ≠ [] ∧ digits.all isDigit then
    some (if negative then -(value digits : Int) else value digits)
  else none

/-- A text as a 64-bit integer. -/
def int64? (cs : List Char) : Option Int64 := do
  let n ← integer? cs
  if Int64.minValue.toInt ≤ n ∧ n ≤ Int64.maxValue.toInt then some (Int64.ofInt n) else none

/-- A text as an unsigned 64-bit integer: a plus sign may stand before the digits, a minus sign
may not. -/
def uint64? (cs : List Char) : Option UInt64 :=
  let digits := match cs with
    | '+' :: rest => rest
    | _ => cs
  if digits ≠ [] ∧ digits.all isDigit ∧ value digits < UInt64.size then some (value digits).toUInt64
  else none

end Numeral

end SynthTable
