import SynthTable.Calendar.Date
import SynthTable.Number.Decimal
import SynthTable.Text.Hex
import SynthTable.Text.Split
import SynthTable.Toml.Basic

/-!
# Scalars of TOML documents

Words that stand for numbers, truth values, dates and times. Digits may have an underscore between
two of them; numbers in base ten have no zeros in front.
-/

namespace SynthTable.Toml

/-- Digits with single underscores between them, without the underscores. -/
def digits? (isDigit : Char → Bool) (cs : List Char) : Option (List Char) :=
  let parts := Text.splitOn '_' cs
  if parts.all fun part => !part.isEmpty && part.all isDigit then some parts.flatten else none

/-- Whether a digit of a base is meant. -/
def isDigitOf (base : Nat) (c : Char) : Bool := (Text.hexValue? c).any (· < base)

/-- The value of digits of a base. -/
def valueOf (base : Nat) (cs : List Char) : Nat :=
  cs.foldl (fun n c => base * n + (Text.hexValue? c).getD 0) 0

/-- The digits of a number in base ten, without zeros in front. -/
def plainDigits? (cs : List Char) : Option (List Char) := do
  let digits ← digits? Numeral.isDigit cs
  if 1 < digits.length && digits.head? == some '0' then none else some digits

/-- An integer that fits into 64 bits. -/
def fitting? (n : Int) : Option Toml :=
  if Int64.minValue.toInt ≤ n ∧ n ≤ Int64.maxValue.toInt then some (.integer n) else none

/-- An integer in base sixteen, eight or two. -/
def basedInteger? (base : Nat) (cs : List Char) : Option Toml := do
  fitting? (valueOf base (← digits? (isDigitOf base) cs))

/-- An integer. -/
def integer? : List Char → Option Toml
  | '0' :: 'x' :: cs => basedInteger? 16 cs
  | '0' :: 'o' :: cs => basedInteger? 8 cs
  | '0' :: 'b' :: cs => basedInteger? 2 cs
  | cs => do
    let (negative, cs) := Numeral.sign cs
    let n : Int := Numeral.value (← plainDigits? cs)
    fitting? (if negative then -n else n)

/-- The exponent after its letter, without underscores. -/
def exponentText? (cs : List Char) : Option (List Char) := do
  let (negative, cs) := Numeral.sign cs
  let digits ← digits? Numeral.isDigit cs
  some ('e' :: (if negative then ['-'] else []) ++ digits)

/-- What follows the digits before the point, without underscores: a fraction, an exponent or
both. -/
def tailText? (cs : List Char) : Option (List Char) :=
  let isExponent (c : Char) : Bool := c == 'e' || c == 'E'
  match cs with
  | '.' :: rest => do
    let digits ← digits? Numeral.isDigit (rest.takeWhile (!isExponent ·))
    match rest.dropWhile (!isExponent ·) with
    | [] => some ('.' :: digits)
    | _ :: exponent => some ('.' :: digits ++ (← exponentText? exponent))
  | c :: rest => if isExponent c then exponentText? rest else none
  | [] => none

/-- A number with a fraction or an exponent, an infinity or no number. A number beyond the doubles
is refused unless it is negative. -/
def float? (cs : List Char) : Option Toml :=
  let (negative, unsigned) := Numeral.sign cs
  if unsigned = ['i', 'n', 'f'] then some (.float (.infinite negative))
  else if unsigned = ['n', 'a', 'n'] then some (.float .nan)
  else do
    let isWhole (c : Char) : Bool := Numeral.isDigit c || c == '_'
    let whole ← plainDigits? (unsigned.takeWhile isWhole)
    let tail ← tailText? (unsigned.dropWhile isWhole)
    let x ← Numeral.double? ((if negative then ['-'] else []) ++ whole ++ tail)
    if x.isFinite || negative then some (.float x) else none

/-- A number of as many digits as given. -/
def fixedNumber? (width : Nat) (cs : List Char) : Option (Nat × List Char) :=
  let digits := cs.take width
  if digits.length = width ∧ digits.all Numeral.isDigit then
    some (Numeral.value digits, cs.drop width)
  else none

/-- A number of two digits up to a greatest one, after a character. -/
def numberAfter? (lead : Char) (greatest : Nat) : List Char → Option (Nat × List Char)
  | [] => none
  | c :: cs => do
    let (n, rest) ← fixedNumber? 2 cs
    if c = lead ∧ n ≤ greatest then some (n, rest) else none

/-- What follows a date. -/
def afterDate? (cs : List Char) : Option (List Char) := do
  let (year, rest) ← fixedNumber? 4 cs
  let (month, rest) ← numberAfter? '-' 12 rest
  let (day, rest) ← numberAfter? '-' 31 rest
  if 1 ≤ day ∧ day ≤ Calendar.monthLength year month then some rest else none

/-- What follows a time of day. -/
def afterTime? (cs : List Char) : Option (List Char) := do
  let (_, rest) ← numberAfter? ':' 23 (':' :: cs)
  let (_, rest) ← numberAfter? ':' 59 rest
  let (_, rest) ← numberAfter? ':' 60 rest
  match rest with
  | '.' :: fraction =>
    if (fraction.takeWhile Numeral.isDigit).isEmpty then none
    else some (fraction.dropWhile Numeral.isDigit)
  | rest => some rest

/-- Whether a text is the distance of a clock from the common one. -/
def isOffset : List Char → Bool
  | ['Z'] | ['z'] => true
  | '+' :: cs | '-' :: cs =>
    match (numberAfter? ':' 23 (':' :: cs)).bind fun (_, rest) => numberAfter? ':' 59 rest with
    | some (_, rest) => rest.isEmpty
    | none => false
  | _ => false

/-- Whether a text is a time of day with or without an offset. -/
def isTimeWithOffset (cs : List Char) : Bool :=
  match afterTime? cs with
  | some rest => rest.isEmpty || isOffset rest
  | none => false

/-- Whether a text is a time of day. -/
def isTime (cs : List Char) : Bool := (afterTime? cs).any (·.isEmpty)

/-- Whether a text is a date. -/
def isDate (cs : List Char) : Bool := (afterDate? cs).any (·.isEmpty)

/-- A date, a time of day, or both with a letter between them. -/
def moment? (cs : List Char) : Option Toml :=
  let isMoment : Bool :=
    match afterDate? cs with
    | some [] => true
    | some ('T' :: rest) | some ('t' :: rest) => isTimeWithOffset rest
    | some _ => false
    | none => isTime cs
  if isMoment then some (.moment (String.ofList cs)) else none

/-- The value of a word. -/
def scalar? (word : List Char) : Option Toml :=
  if word = ['t', 'r', 'u', 'e'] then some (.bool true)
  else if word = ['f', 'a', 'l', 's', 'e'] then some (.bool false)
  else (moment? word).orElse fun _ => (float? word).orElse fun _ => integer? word

end SynthTable.Toml
