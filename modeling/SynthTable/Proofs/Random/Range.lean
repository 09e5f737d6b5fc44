import SynthTable.Random.Range
import SynthTable.Random.WordCycle

/-!
# Draws stay in their range and fill it

Whatever the words are, a draw from `count` numbers is one of them (`scaledDraw_lt`). The correction
by a second word adds one to a draw only where its low half is so large that the next number is in
the range, too. And each of the numbers is drawn for some words (`exists_words_below64`): for each
there is a first word whose product has it as its high half and a low half that needs no correction
by a second word of zero. So a draw between two integers gives just the integers between them
(`int64Between_mem`, `exists_words_int64Between`), also where they are all there are and the number
of them is no word.
-/

namespace SynthTable.Random

variable {σ : Type}

/-- The high half of a product of a word. -/
theorem high_lt {size count x : Nat} (hx : x < size) (hcount : 0 < count) :
    x * count / size < count := by
  rw [Nat.div_lt_iff_lt_mul (Nat.zero_lt_of_lt hx), Nat.mul_comm count]
  exact Nat.mul_lt_mul_of_pos_right hx hcount

/-- Above a low half that is near its end, there is a number more in the range. -/
theorem high_succ_lt {size count x : Nat} (hx : x < size) (hlow : size - count < x * count % size) :
    x * count / size + 1 < count := by
  have hproduct : size * (x * count / size) + x * count % size = x * count :=
    Nat.div_add_mod (x * count) size
  have hbound : (x + 1) * count ≤ size * count := Nat.mul_le_mul_right count hx
  rw [Nat.succ_mul] at hbound
  have hnext : size * (x * count / size + 1) < size * count := by
    rw [Nat.mul_succ]
    omega
  exact Nat.lt_of_mul_lt_mul_left hnext

theorem scaledDraw_lt {size count : Nat} {next : σ → Nat × σ} (hnext : ∀ s, (next s).1 < size)
    (hcount : 0 < count) (s : σ) : (scaledDraw size next count s).1 < count := by
  have hx := hnext s
  rcases hdraw : next s with ⟨x, s'⟩
  rw [hdraw] at hx
  simp only [scaledDraw, hdraw]
  split
  · next heq => rwa [heq]
  · split
    · next hlow =>
      split
      · exact high_succ_lt hx hlow
      · exact high_lt hx hcount
    · exact high_lt hx hcount

variable [RandomSource σ]

theorem number32_lt (s : σ) : (number32 s).1 < UInt32.size :=
  (RandomSource.next32 s).1.toNat_lt

theorem number64_lt (s : σ) : (number64 s).1 < UInt64.size :=
  (RandomSource.next64 s).1.toNat_lt

theorem below32_lt {count : Nat} (hcount : 0 < count) (s : σ) : (below32 count s).1 < count :=
  scaledDraw_lt number32_lt hcount s

theorem below64_lt {count : Nat} (hcount : 0 < count) (s : σ) : (below64 count s).1 < count :=
  scaledDraw_lt number64_lt hcount s

/-! ## Each number is drawn -/

/-- Each number of a range is the high half of the product of a word, and the low half is small. -/
theorem exists_word {size count k : Nat} (hk : k < count) (hcount : count ≤ size) :
    ∃ x < size, x * count / size = k ∧ x * count % size < count := by
  have hpos : 0 < count := Nat.zero_lt_of_lt hk
  -- the least word whose product reaches the multiple of the size
  let x := (size * k + (count - 1)) / count
  have hlow : size * k ≤ x * count := by
    have hnext := Nat.lt_div_mul_add (a := size * k + (count - 1)) hpos
    simp only [x]
    omega
  have hhigh : x * count < size * k + count := by
    have hself := Nat.div_mul_le_self (size * k + (count - 1)) count
    simp only [x]
    omega
  have hlast : size * (k + 1) ≤ size * count := Nat.mul_le_mul_left size hk
  rw [Nat.mul_succ] at hlast
  obtain ⟨low, hproduct⟩ := Nat.exists_eq_add_of_le hlow
  have hrest : low < size := by omega
  refine ⟨x, ?_, ?_, ?_⟩
  · refine Nat.lt_of_mul_lt_mul_right (a := count) ?_
    omega
  · rw [hproduct, Nat.mul_add_div (by omega), Nat.div_eq_of_lt hrest, Nat.add_zero]
  · rw [hproduct, Nat.mul_add_mod, Nat.mod_eq_of_lt hrest]
    omega

theorem number64_cycle (s : WordCycle) (h : s.position < s.words.length) :
    number64 s = (s.words[s.position].toNat, { s with position := s.position + 1 }) := by
  simp [number64, RandomSource.next64, WordCycle.word, Nat.mod_eq_of_lt h, h]

/-- Each number below a count is drawn for some words. -/
theorem exists_words_below64 {count k : Nat} (hk : k < count) (hcount : count ≤ UInt64.size) :
    ∃ words, (below64 count (WordCycle.ofList words)).1 = k := by
  obtain ⟨x, hx, hhigh, hlow⟩ := exists_word hk hcount
  have hword : (UInt64.ofNat x).toNat = x := UInt64.toNat_ofNat_of_lt hx
  -- a second word of zero never corrects the draw
  refine ⟨[.ofNat x, 0], ?_⟩
  rw [below64, scaledDraw, number64_cycle _ (by simp [WordCycle.ofList])]
  simp only [WordCycle.ofList, List.getElem_cons_zero, hword, hhigh]
  split
  · next hall =>
    rw [← hall, Nat.mul_div_cancel _ (by omega)] at hhigh
    exact hhigh
  · split
    · rw [number64_cycle _ (by simp)]
      simp
      omega
    · rfl

/-! ## Draws between two integers -/

/-- The number of integers between two. -/
theorem count_between {low high : Int64} (h : low ≤ high) :
    ((high.toInt - low.toInt + 1).toNat : Int) = high.toInt - low.toInt + 1 ∧
      0 < (high.toInt - low.toInt + 1).toNat ∧
      (high.toInt - low.toInt + 1).toNat ≤ UInt64.size := by
  have hle := Int64.le_iff_toInt_le.1 h
  have hlow := low.le_toInt
  have hhigh := high.toInt_lt
  have hsize : UInt64.size = 2 ^ 64 := rfl
  omega

/-- A draw is an integer between the two. -/
theorem int64Between_mem {low high : Int64} (h : low ≤ high) (s : σ) :
    low ≤ (int64Between low high s).1 ∧ (int64Between low high s).1 ≤ high := by
  obtain ⟨hcount, hpos, hsize⟩ := count_between h
  have hlow := low.le_toInt
  have hhigh := high.toInt_lt
  have hoffset := below64_lt hpos s
  rw [int64Between]
  rcases hdraw : below64 (high.toInt - low.toInt + 1).toNat s with ⟨offset, s'⟩
  rw [hdraw] at hoffset
  dsimp only at hoffset ⊢
  rw [Int64.le_iff_toInt_le, Int64.le_iff_toInt_le]
  split
  · next hall =>
    have hleast := (Int64.ofNat offset).le_toInt
    have hmost := (Int64.ofNat offset).toInt_lt
    have hword : UInt64.size = 2 ^ 64 := rfl
    omega
  · rw [Int64.toInt_ofInt_of_le (by omega) (by omega)]
    omega

/-- Each integer between the two is drawn for some words. -/
theorem exists_words_int64Between {low high n : Int64} (hlow : low ≤ n) (hhigh : n ≤ high) :
    ∃ words, (int64Between low high (WordCycle.ofList words)).1 = n := by
  rw [Int64.le_iff_toInt_le] at hlow hhigh
  obtain ⟨hcount, hpos, hsize⟩ := count_between (Int64.le_iff_toInt_le.2 (Int.le_trans hlow hhigh))
  by_cases hall : (high.toInt - low.toInt + 1).toNat = UInt64.size
  · obtain ⟨words, hwords⟩ := exists_words_below64 (k := n.toUInt64.toNat) n.toUInt64.toNat_lt
      (Nat.le_refl _)
    refine ⟨words, ?_⟩
    rw [int64Between]
    simp only [hall, if_true, hwords]
    exact congrArg UInt64.toInt64 UInt64.ofNat_toNat
  · obtain ⟨words, hwords⟩ := exists_words_below64 (k := (n.toInt - low.toInt).toNat)
      (by omega) hsize
    refine ⟨words, ?_⟩
    rw [int64Between]
    simp only [hall, if_false, hwords]
    rw [Int.toNat_of_nonneg (by omega), Int.add_comm, Int.sub_add_cancel, Int64.ofInt_toInt]

end SynthTable.Random
