import SynthTable.Random.Source

/-!
# A list of words as a source

The words of a list, one after another, from the first again after the last.
-/

namespace SynthTable.Random

/-- A list of words and the position of the next one. -/
structure WordCycle where
  words : List UInt64
  position : Nat

namespace WordCycle

/-- The list from its first word on. -/
def ofList (words : List UInt64) : WordCycle := ⟨words, 0⟩

/-- The next word; an empty list gives zeros. -/
def word (s : WordCycle) : UInt64 × WordCycle :=
  (s.words.getD (s.position % s.words.length) 0, { s with position := s.position + 1 })

/-- The low half of the next word. -/
def halfWord (s : WordCycle) : UInt32 × WordCycle :=
  let (w, s) := s.word
  (w.toUInt32, s)

/-- Bytes of whole words while more than four are wanted, then of one word or of half a word. -/
def bytes (count : Nat) (s : WordCycle) : List UInt8 × WordCycle :=
  if 8 ≤ count then
    let (w, s) := s.word
    let (rest, s) := bytes (count - 8) s
    (bytes64 w ++ rest, s)
  else if 4 < count then
    let (w, s) := s.word
    ((bytes64 w).take count, s)
  else if 0 < count then
    let (w, s) := s.halfWord
    ((bytes32 w).take count, s)
  else ([], s)

end WordCycle

instance : RandomSource WordCycle where
  next32 := WordCycle.halfWord
  next64 := WordCycle.word
  nextBytes := WordCycle.bytes

end SynthTable.Random
