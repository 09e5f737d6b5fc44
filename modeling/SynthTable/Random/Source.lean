/-!
# Sources of random words

Everything random is drawn from a source of words, which is a value that each draw replaces. Two
sources are given elsewhere: the stream of a seed, and a list of words repeated for ever.
-/

namespace SynthTable

/-- Words drawn one after another from a state. -/
class RandomSource (σ : Type) where
  /-- The next 32-bit word. -/
  next32 : σ → UInt32 × σ
  /-- The next 64-bit word. -/
  next64 : σ → UInt64 × σ
  /-- The next `count` bytes. -/
  nextBytes : (count : Nat) → σ → List UInt8 × σ

namespace Random

/-- Bytes of a 32-bit word, lowest first. -/
def bytes32 (w : UInt32) : List UInt8 :=
  [w.toUInt8, (w >>> 8).toUInt8, (w >>> 16).toUInt8, (w >>> 24).toUInt8]

/-- Bytes of a 64-bit word, lowest first. -/
def bytes64 (w : UInt64) : List UInt8 := bytes32 w.toUInt32 ++ bytes32 (w >>> 32).toUInt32

end Random

end SynthTable
