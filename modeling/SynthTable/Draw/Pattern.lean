import SynthTable.Number.Decimal
import SynthTable.Random.Range
import SynthTable.Text.Split

/-!
# Patterns of texts

A pattern is literal text with groups `[choices]{n}`. A group stands for `n` characters, each drawn
from the choices: single characters and ranges such as `a-z`. Groups without a number or without
choices are left out and reported. The slots of a pattern lie in memory one after the other, and a
text with more of them than can be laid out has no pattern.
-/

namespace SynthTable

/-- One character of a text. -/
inductive Slot where
  | literal (c : Char)
  /-- One of the characters. -/
  | choice (candidates : List Char)
  deriving DecidableEq, Repr

/-- Why a group is left out. -/
inductive GroupFault where
  /-- The number of repetitions, as it is written, is none. -/
  | repetition (count : List Char)
  | noCandidates
  deriving DecidableEq, Repr

/-- The text of a fault. -/
def GroupFault.message : GroupFault → String
  | .repetition count =>
    "repetition '\x7b" ++ String.ofList count ++ "\x7d' is not a number"
  | .noCandidates => "group has no candidate characters"

/-- A group that is left out. -/
structure MalformedGroup where
  text : List Char
  fault : GroupFault
  deriving DecidableEq, Repr

/-- A pattern cut into slots. -/
structure Pattern where
  slots : List Slot
  malformed : List MalformedGroup
  deriving DecidableEq, Repr

namespace Pattern

/-- A group of a pattern: what stands between the brackets and between the braces. -/
structure Group where
  interior : List Char
  count : List Char
  deriving DecidableEq, Repr

/-- A group as it is written. -/
def Group.text (g : Group) : List Char :=
  '[' :: g.interior ++ [']', '{'] ++ g.count ++ ['}']

/-- Reads a group after its opening bracket. -/
def readGroup? (cs : List Char) : Option (Group × List Char) :=
  match cs.dropWhile (· != ']') with
  | ']' :: '{' :: rest =>
    match rest.dropWhile Numeral.isDigit with
    | '}' :: after => some (⟨cs.takeWhile (· != ']'), rest.takeWhile Numeral.isDigit⟩, after)
    | _ => none
  | _ => none

/-- Whether two characters are small letters, capital letters or digits, both of one kind. -/
def sameClass (a b : Char) : Bool :=
  (a.isLower && b.isLower) || (a.isUpper && b.isUpper) || (a.isDigit && b.isDigit)

/-- The characters that ranges are cut from, in their order. -/
def alphabet : List Char :=
  "abcdefghijklmnopqrstuvwxyzABCDEFGHIJKLMNOPQRSTUVWXYZ0123456789".toList

/-- The characters of the alphabet from `a` to `b`, if they make a range. -/
def range? (a b : Char) : Option (List Char) :=
  if sameClass a b && a ≤ b then
    match alphabet.idxOf? a, alphabet.idxOf? b with
    | some first, some last => some ((alphabet.drop first).take (last + 1 - first))
    | _, _ => none
  else none

/-- The characters of the ranges of an interior, and what is left of it without them. -/
def expandRanges : List Char → List Char × List Char
  | a :: '-' :: b :: rest =>
    match range? a b with
    | some chars =>
      let (expanded, left) := expandRanges rest
      (chars ++ expanded, left)
    | none =>
      let (expanded, left) := expandRanges ('-' :: b :: rest)
      (expanded, a :: left)
  | a :: rest =>
    let (expanded, left) := expandRanges rest
    (expanded, a :: left)
  | [] => ([], [])

/-- The characters that an interior gives to choose from: those of the ranges, then the others but
for the commas. -/
def candidates (interior : List Char) : List Char :=
  let (expanded, left) := expandRanges interior
  expanded ++ left.filter (· != ',')

/-- The number of repetitions. -/
def repetitions? (count : List Char) : Option Nat := (Numeral.uint64? count).map (·.toNat)

/-- The characters of a group to choose from, and how often it stands for one of them. -/
def Group.choices (g : Group) : Except GroupFault (List Char × Nat) :=
  match repetitions? g.count with
  | none => .error (.repetition g.count)
  | some n =>
    match candidates g.interior with
    | [] => .error .noCandidates
    | chars => .ok (chars, n)

theorem length_readGroup {cs rest : List Char} {g : Group} (h : readGroup? cs = some (g, rest)) :
    rest.length < cs.length := by
  unfold readGroup? at h
  split at h
  · next after hd =>
    split at h
    · next tail ht =>
      have h1 := (List.dropWhile_sublist (l := cs) (· != ']')).length_le
      have h2 := (List.dropWhile_sublist (l := after) Numeral.isDigit).length_le
      rw [hd] at h1
      rw [ht] at h2
      simp only [Option.some.injEq, Prod.mk.injEq] at h
      rw [← h.2]
      simp at h1 h2
      omega
    · simp at h
  · simp at h

/-- The largest number of slots: each takes 16 bytes, and one stretch of memory has fewer than 2^63. -/
def maxSlots : Nat := 9223372036854775807 / 16

/-- What comes of reading a text. -/
structure Reading where
  /-- The slots, unless there is no room for them. -/
  slots? : Option (List Slot)
  /-- The groups left out; where there is no room, those before that place. -/
  malformed : List MalformedGroup
  deriving DecidableEq, Repr

namespace Reading

/-- No slots, as there is no room for them. -/
def noRoom : Reading := ⟨none, []⟩

/-- The reading with a slot before the others, `n` times. -/
def prepend (n : Nat) (slot : Slot) (r : Reading) : Reading :=
  { r with slots? := r.slots?.map (List.replicate n slot ++ ·) }

/-- The reading with a group left out before the others. -/
def report (g : MalformedGroup) (r : Reading) : Reading := { r with malformed := g :: r.malformed }

/-- The pattern that was read. -/
def pattern? (r : Reading) : Option Pattern := r.slots?.map (⟨·, r.malformed⟩)

end Reading

/-- Reads a text where there is room for `room` slots: at each bracket a group if there is one, else
the character. -/
def readFrom (room : Nat) : List Char → Reading
  | [] => ⟨some [], []⟩
  | c :: cs =>
    match h : (if c = '[' then readGroup? cs else none) with
    | none => if room = 0 then .noRoom else (readFrom (room - 1) cs).prepend 1 (.literal c)
    | some (g, rest) =>
      have : rest.length < cs.length := by
        split at h
        · exact length_readGroup h
        · simp at h
      match g.choices with
      | .ok (chars, n) =>
        if room < n then .noRoom else (readFrom (room - n) rest).prepend n (.choice chars)
      | .error fault => (readFrom room rest).report ⟨g.text, fault⟩
termination_by cs => cs.length

/-- Reads a text. -/
def read (text : String) : Reading := readFrom maxSlots text.toList

/-- The pattern of a text, unless it has too many slots. -/
def ofText? (text : String) : Option Pattern := (read text).pattern?

/-- A character for a slot; nothing is drawn where there is no choice. -/
def Slot.render {σ : Type} [RandomSource σ] (s : σ) : Slot → Char × σ
  | .literal c => (c, s)
  | .choice [c] => (c, s)
  | .choice candidates => Random.element candidates ' ' s

/-- Characters for slots. -/
def renderSlots {σ : Type} [RandomSource σ] : List Slot → σ → List Char × σ
  | [], s => ([], s)
  | slot :: rest, s =>
    let (c, s) := Slot.render s slot
    let (cs, s) := renderSlots rest s
    (c :: cs, s)

/-- A text of the pattern. -/
def render {σ : Type} [RandomSource σ] (p : Pattern) (s : σ) : String × σ :=
  let (cs, s) := renderSlots p.slots s
  (String.ofList cs, s)

end Pattern

end SynthTable
