import SynthTable.Text.Cased
import SynthTable.Text.CaseTable

/-!
# Letter case

Full case conversion of texts. A capital sigma becomes the final form at the end of a word and the
inner form elsewhere; every other character is converted on its own. Comparison that ignores the
case of the letters A to Z alone is kept apart.
-/

namespace SynthTable.Text

/-- The image of a code point under a table of runs, if some run holds it. -/
def runImage? : List CaseRun → Nat → Option Nat
  | [], _ => none
  | r :: rest, n =>
    if n < r.first then none
    else if n ≤ r.last && (n - r.first) % r.step == 0 then some (n + r.shift).toNat
    else runImage? rest n

/-- Conversion of one character: a long mapping if there is one, else a run, else itself. -/
def mapCase (long : List (Nat × List Nat)) (runs : List CaseRun) (c : Char) : List Char :=
  match long.find? (·.1 == c.toNat) with
  | some (_, image) => image.map Char.ofNat
  | none =>
    match runImage? runs c.toNat with
    | some n => [Char.ofNat n]
    | none => [c]

/-- Lower case of one character out of context. -/
def lowerChar (c : Char) : List Char := mapCase longLower lowerRuns c

/-- Upper case of one character. -/
def upperChar (c : Char) : List Char := mapCase longUpper upperRuns c

/-- Whether the first character that is not case-ignorable is cased. -/
def nextIsCased (cs : List Char) : Bool :=
  match cs.dropWhile isCaseIgnorable with
  | [] => false
  | c :: _ => isCased c

/-- Lower case with the characters before the current one at hand, nearest first. -/
def lowerFrom (before : List Char) : List Char → List Char
  | [] => []
  | c :: rest =>
    let image :=
      if c == 'Σ' then
        if nextIsCased before && !nextIsCased rest then ['ς'] else ['σ']
      else lowerChar c
    image ++ lowerFrom (c :: before) rest

/-- Lower case of a text. -/
def lower (cs : List Char) : List Char := lowerFrom [] cs

/-- Upper case of a text. -/
def upper (cs : List Char) : List Char := cs.flatMap upperChar

/-- Lower case of the letters A to Z only. -/
def asciiLower (c : Char) : Char :=
  if 'A' ≤ c ∧ c ≤ 'Z' then Char.ofNat (c.toNat + 32) else c

/-- Equality up to the case of the letters A to Z. -/
def equalIgnoringAsciiCase (a b : List Char) : Bool := a.map asciiLower == b.map asciiLower

end SynthTable.Text
