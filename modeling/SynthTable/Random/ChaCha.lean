import SynthTable.Random.Source

/-!
# The ChaCha8 stream of a seed

A seed of 64 bits is spread into a key of eight words by a multiplicative generator with a permuted
output; the stream is the key's sequence of ChaCha blocks of eight rounds, block numbers counted
from zero.
-/

namespace SynthTable.Random

/-- The sixteen words of a block. -/
abbrev Block := Vector UInt32 16

/-- Rotation to the left by `k` bits, `0 < k < 32`. -/
def rotateLeft (x k : UInt32) : UInt32 := (x <<< k) ||| (x >>> (32 - k))

/-- Adds, exclusive-ors and rotates four words of a block. -/
def quarterRound (s : Block) (a b c d : Fin 16) : Block :=
  let s := s.set a (s[a] + s[b])
  let s := s.set d (rotateLeft (s[d] ^^^ s[a]) 16)
  let s := s.set c (s[c] + s[d])
  let s := s.set b (rotateLeft (s[b] ^^^ s[c]) 12)
  let s := s.set a (s[a] + s[b])
  let s := s.set d (rotateLeft (s[d] ^^^ s[a]) 8)
  let s := s.set c (s[c] + s[d])
  s.set b (rotateLeft (s[b] ^^^ s[c]) 7)

/-- A round over the columns and a round over the diagonals. -/
def doubleRound (s : Block) : Block :=
  let s := quarterRound s 0 4 8 12
  let s := quarterRound s 1 5 9 13
  let s := quarterRound s 2 6 10 14
  let s := quarterRound s 3 7 11 15
  let s := quarterRound s 0 5 10 15
  let s := quarterRound s 1 6 11 12
  let s := quarterRound s 2 7 8 13
  quarterRound s 3 4 9 14

/-- The first state of a block: constants, key, block number and a zero nonce. -/
def firstState (key : Vector UInt32 8) (number : UInt64) : Block :=
  #v[0x61707865, 0x3320646e, 0x79622d32, 0x6b206574,
    key[0], key[1], key[2], key[3], key[4], key[5], key[6], key[7],
    number.toUInt32, (number >>> 32).toUInt32, 0, 0]

/-- The output words of a block: the state after eight rounds added to the state before. -/
def blockWords (key : Vector UInt32 8) (number : UInt64) : List UInt32 :=
  let s := firstState key number
  let t := doubleRound (doubleRound (doubleRound (doubleRound s)))
  (s.zipWith (· + ·) t).toList

/-- The step of the generator that spreads a seed. -/
def seedStep (s : UInt64) : UInt64 := s * 6364136223846793005 + 11634580027462260723

/-- The output of the generator that spreads a seed: a rotation by the five highest bits. -/
def seedWord (s : UInt64) : UInt32 :=
  let x := (((s >>> 18) ^^^ s) >>> 27).toUInt32
  let k := (s >>> 59).toUInt32
  if k = 0 then x else (x >>> k) ||| (x <<< (32 - k))

/-- `count` key words from a seed. -/
def seedWords : (count : Nat) → UInt64 → List UInt32
  | 0, _ => []
  | count + 1, s => let s := seedStep s; seedWord s :: seedWords count s

/-- The key of a seed. -/
def keyOfSeed (seed : UInt64) : Vector UInt32 8 :=
  let words := seedWords 8 seed
  Vector.ofFn fun i => words.getD i 0

/-- A place in a stream: words of the current block not yet drawn, and the number of the next
block. -/
structure Stream where
  key : Vector UInt32 8
  next : UInt64
  pending : List UInt32

namespace Stream

/-- The start of the stream of a seed. -/
def ofSeed (seed : UInt64) : Stream := ⟨keyOfSeed seed, 0, []⟩

/-- The next word; a new block is computed when none is pending. -/
def word (s : Stream) : UInt32 × Stream :=
  match s.pending with
  | w :: rest => (w, { s with pending := rest })
  | [] =>
    match blockWords s.key s.next with
    | w :: rest => (w, { s with next := s.next + 1, pending := rest })
    | [] => (0, s)

/-- The next two words as one, low half first. -/
def doubleWord (s : Stream) : UInt64 × Stream :=
  let (low, s) := s.word
  let (high, s) := s.word
  (low.toUInt64 ||| (high.toUInt64 <<< 32), s)

/-- Bytes of the next `count` words. -/
def wordBytes : (count : Nat) → Stream → List UInt8 × Stream
  | 0, s => ([], s)
  | count + 1, s =>
    let (w, s) := s.word
    let (rest, s) := wordBytes count s
    (bytes32 w ++ rest, s)

/-- The next `count` bytes; what is left of the last word is lost. -/
def bytes (count : Nat) (s : Stream) : List UInt8 × Stream :=
  let (all, s) := wordBytes ((count + 3) / 4) s
  (all.take count, s)

end Stream

instance : RandomSource Stream where
  next32 := Stream.word
  next64 := Stream.doubleWord
  nextBytes := Stream.bytes

end SynthTable.Random
