import Mathlib.Algebra.Order.Group.Abs
import SynthTable.Proofs.Number.Rounding

/-!
# The numbers that doubles are

A finite double is a rational number, and its comparisons and its whole part are those of this
number. The double nearest to a number is no farther from it than any other
(`Double.abs_sub_le_of_ofRat`), a number that is a double is its own nearest one
(`Double.value?_ofRat`), and rounding keeps the order of numbers (`Double.ofRat_mono`). Only the
numbers from the overflow on have none (`Double.value?_ofRat_eq_none_iff`). The double nearest to an
integer is an integer (`Double.exists_intCast_ofInt`), which is the integer itself up to 2^53
(`Double.value?_ofInt`).
-/

namespace SynthTable.Double

variable {x y : Double} {n d m : Nat} {e : Int} {q v w : ℚ}

/-- The number that a finite double is. -/
def value? : Double → Option ℚ
  | .finite s m e _ => some (signed s m * unit e)
  | _ => none

theorem natAbs_signed (s : Bool) (m : Nat) : (signed s m).natAbs = m := by
  cases s <;> simp [signed]

theorem abs_signed_mul (s : Bool) (m : Nat) (hq : 0 < q) : |signed s m * q| = m * q := by
  rw [abs_mul, abs_of_pos hq]
  cases s <;> simp [signed]

theorem abs_value (s : Bool) (m : Nat) (e : Int) : |signed s m * unit e| = m * unit e :=
  abs_signed_mul s m (unit_pos e)

theorem exists_of_value? (h : x.value? = some v) :
    ∃ s m e hform, x = .finite s m e hform ∧ v = signed s m * unit e := by
  cases x with
  | finite s m e hform =>
    cases h
    exact ⟨s, m, e, hform, rfl, rfl⟩
  | nan | infinite => cases h

theorem isFinite_of_value? (h : x.value? = some v) : x.isFinite = true := by
  obtain ⟨s, m, e, -, rfl, -⟩ := exists_of_value? h
  rfl

theorem isFinite_eq_isSome (x : Double) : x.isFinite = x.value?.isSome := by
  cases x <;> rfl

theorem signed_mul (s : Bool) (m k : Nat) : signed s (m * k) = signed s m * k := by
  cases s <;> simp [signed]

theorem signed_atPlace {s : Bool} {place : Int} (h : place ≤ e) :
    (signed s (atPlace m e place) : ℚ) * unit place = signed s m * unit e := by
  cases s <;> simp [signed, atPlace_mul_unit h]

/-- One double is less than another just if its number is. -/
theorem less_iff (hx : x.value? = some v) (hy : y.value? = some w) :
    less x y = true ↔ v < w := by
  obtain ⟨s, m, e, -, rfl, rfl⟩ := exists_of_value? hx
  obtain ⟨t, n, f, -, rfl, rfl⟩ := exists_of_value? hy
  rw [← signed_atPlace (Int.min_le_left e f), ← signed_atPlace (Int.min_le_right e f),
    mul_lt_mul_iff_left₀ (unit_pos _), Int.cast_lt]
  simp [less, compare?, compare_lt_iff_lt]

theorem less_eq_false_iff_le (hx : x.value? = some v) (hy : y.value? = some w) :
    less x y = false ↔ w ≤ v := by
  rw [← not_lt, ← less_iff hx hy, Bool.not_eq_true]

theorem equal_iff (hx : x.value? = some v) (hy : y.value? = some w) :
    equal x y = true ↔ v = w := by
  obtain ⟨s, m, e, -, rfl, rfl⟩ := exists_of_value? hx
  obtain ⟨t, n, f, -, rfl, rfl⟩ := exists_of_value? hy
  rw [← signed_atPlace (Int.min_le_left e f), ← signed_atPlace (Int.min_le_right e f),
    mul_left_inj' (unit_pos _).ne', Int.cast_inj]
  simp [equal, compare?]

theorem value?_abs (h : x.value? = some v) : (abs x).value? = some |v| := by
  obtain ⟨s, m, e, -, rfl, rfl⟩ := exists_of_value? h
  rw [abs_value]
  simp [abs, value?, signed]

theorem sizeBelow_iff (hx : x.value? = some v) (hn : (ofNat n).value? = some (n : ℚ)) :
    x.sizeBelow n = true ↔ |v| < n :=
  less_iff (value?_abs hx) hn

theorem unit_mul_pow_neg (h : e < 0) : unit e * 2 ^ (-e).toNat = 1 := by
  rw [mul_comm, two_pow_mul_unit, Int.toNat_of_nonneg (by omega), Int.add_right_neg]
  rfl

/-- A number with places below the point is whole if these are zeros. -/
theorem eq_intCast_iff {s : Bool} {k : Int} (he : e < 0) : (signed s m : ℚ) * unit e = k ↔
    ∃ c, m = c * 2 ^ (-e).toNat ∧ k = signed s c := by
  have hpow : (0 : ℚ) < 2 ^ (-e).toNat := by positivity
  have hscaled : (signed s m : ℚ) * unit e = k ↔ signed s m = k * (2 ^ (-e).toNat : Nat) := by
    rw [← mul_left_inj' hpow.ne', mul_assoc, unit_mul_pow_neg he, mul_one]
    exact_mod_cast Iff.rfl
  rw [hscaled]
  constructor
  · intro h
    have hdvd : 2 ^ (-e).toNat ∣ m := by
      rw [← natAbs_signed s m, h, Int.natAbs_mul, Int.natAbs_natCast]
      exact Nat.dvd_mul_left _ _
    obtain ⟨c, rfl⟩ := hdvd
    refine ⟨c, Nat.mul_comm _ c, ?_⟩
    rw [Nat.mul_comm, signed_mul] at h
    have hne : ((2 ^ (-e).toNat : Nat) : Int) ≠ 0 := by positivity
    exact (mul_right_cancel₀ hne h).symm
  · rintro ⟨c, rfl, rfl⟩
    exact signed_mul s c _

theorem isWhole_iff (h : x.value? = some v) : x.isWhole = true ↔ ∃ k : Int, v = k := by
  obtain ⟨s, m, e, -, rfl, rfl⟩ := exists_of_value? h
  simp only [isWhole, Bool.or_eq_true, decide_eq_true_eq, beq_iff_eq, Nat.pow_eq]
  by_cases he : 0 ≤ e
  · refine iff_of_true (.inl he) ⟨signed s m * 2 ^ e.toNat, ?_⟩
    rw [unit_toNat he]
    push_cast
    rfl
  · simp only [or_iff_right he, eq_intCast_iff (not_le.1 he), ← Nat.dvd_iff_mod_eq_zero]
    constructor
    · rintro ⟨c, rfl⟩
      exact ⟨_, c, Nat.mul_comm _ c, rfl⟩
    · rintro ⟨-, c, rfl, -⟩
      exact Nat.dvd_mul_left _ c

theorem isWhole_iff_exists : x.isWhole = true ↔ ∃ k : Int, x.value? = some (k : ℚ) := by
  constructor
  · intro h
    cases x with
    | nan | infinite => cases h
    | finite s m e hform =>
      obtain ⟨k, hk⟩ := (isWhole_iff rfl).1 h
      exact ⟨k, congrArg some hk⟩
  · rintro ⟨k, hk⟩
    exact (isWhole_iff hk).2 ⟨k, rfl⟩

theorem truncate?_of_value? {k : Int} (h : x.value? = some (k : ℚ)) : x.truncate? = some k := by
  obtain ⟨s, m, e, -, rfl, hk⟩ := exists_of_value? h
  rw [truncate?, Nat.pow_eq, Nat.pow_eq]
  split_ifs with he
  · rw [unit_toNat he] at hk
    rw [signed_mul]
    exact congrArg some (by exact_mod_cast hk.symm)
  · obtain ⟨c, rfl, rfl⟩ := (eq_intCast_iff (not_le.1 he)).1 hk.symm
    rw [Nat.mul_div_cancel _ (by positivity)]

theorem toInt_toInt64 {k : Int} (h : x.value? = some (k : ℚ)) :
    x.toInt64.toInt = max Int64.minValue.toInt (min k Int64.maxValue.toInt) := by
  have hmin := Int64.toInt_minValue
  have hmax := Int64.toInt_maxValue
  have hwhole := truncate?_of_value? h
  cases x with
  | nan | infinite => cases h
  | finite s m e hform =>
    rw [toInt64, hwhole]
    dsimp only
    split_ifs with hlow hhigh
    · omega
    · omega
    · rw [Int64.toInt_ofInt_of_le (by omega) (by omega)]
      omega

/-! ## The nearest double -/

/-- The double nearest to a number. -/
def ofRat (q : ℚ) : Double := ofRatio (decide (q < 0)) q.num.natAbs q.den

theorem natAbs_num_div_den (q : ℚ) : (q.num.natAbs : ℚ) / q.den = |q| := by
  rw [Rat.abs_def, Rat.divInt_eq_div]
  rfl

theorem ofRat_intCast (n : Int) : ofRat n = ofInt n := by
  simp [ofRat, ofInt]

theorem ofRatio_eq_ofRat (hd : 0 < d) (h : (n : ℚ) / d = |q|) :
    ofRatio (decide (q < 0)) n d = ofRat q :=
  ofRatio_congr hd q.den_pos (h.trans (natAbs_num_div_den q).symm)

theorem abs_value_sub (q : ℚ) (m : Nat) (e : Int) :
    |signed (decide (q < 0)) m * unit e - q| = |(m * unit e - |q| : ℚ)| := by
  by_cases h : q < 0
  · rw [abs_of_neg h, decide_eq_true h, ← abs_neg]
    congr 1
    simp [signed]
    ring
  · rw [abs_of_nonneg (not_lt.1 h), decide_eq_false h]
    simp [signed]

/-- No double is closer to a number than the nearest one. -/
theorem abs_sub_le_of_ofRat (hx : (ofRat q).value? = some v) (hy : y.value? = some w) :
    |v - q| ≤ |w - q| := by
  obtain ⟨s, m, e, hform, hfinite, rfl⟩ := exists_of_value? hx
  obtain ⟨t, k, f, hform', -, rfl⟩ := exists_of_value? hy
  obtain ⟨rfl, hnearest⟩ := (ofRatio_eq_finite_iff q.den_pos).1 hfinite
  rw [natAbs_num_div_den] at hnearest
  rw [abs_value_sub]
  have hsizes := abs_abs_sub_abs_le (signed t k * unit f) q
  rw [abs_value] at hsizes
  exact (hnearest.abs_sub_le hform hform').trans hsizes

/-- A number that is a double is nearest to itself. -/
theorem value?_ofRat (hx : x.value? = some q) : (ofRat q).value? = some q := by
  obtain ⟨s, m, e, hform, -, rfl⟩ := exists_of_value? hx
  have hsize := natAbs_num_div_den (signed s m * unit e)
  rw [abs_value] at hsize
  rw [ofRat, ofRatio_of_eq (Rat.den_pos _) hform hsize, value?, Option.some_inj, ← sub_eq_zero,
    ← abs_eq_zero, abs_value_sub, abs_value, sub_self, abs_zero]

/-- The rounding does not go past a double. -/
theorem le_of_ofRat (hx : (ofRat q).value? = some v) (hy : y.value? = some w) :
    (w ≤ q → w ≤ v) ∧ (q ≤ w → v ≤ w) := by
  have hclosest := abs_sub_le_of_ofRat hx hy
  constructor
  · intro hle
    rw [abs_of_nonpos (sub_nonpos.2 hle)] at hclosest
    linarith [neg_le_abs (v - q)]
  · intro hle
    rw [abs_of_nonneg (sub_nonneg.2 hle)] at hclosest
    linarith [le_abs_self (v - q)]

/-- The rounding keeps the order of numbers. -/
theorem ofRat_mono {q' : ℚ} (hq : q ≤ q') (hv : (ofRat q).value? = some v)
    (hw : (ofRat q').value? = some w) : v ≤ w := by
  rcases hq.eq_or_lt with rfl | hlt
  · rw [hv] at hw
    exact (Option.some.inj hw).le
  by_contra hgt
  rw [not_le] at hgt
  -- the lower number would lie above the middle of the two doubles, and the upper one below it
  have habove : v + w ≤ 2 * q := by
    have hsquares := sq_le_sq.2 (abs_sub_le_of_ofRat hv hw)
    nlinarith
  have hbelow : 2 * q' ≤ v + w := by
    have hsquares := sq_le_sq.2 (abs_sub_le_of_ofRat hw hv)
    nlinarith
  linarith

theorem overflow_le_unit : overflow ≤ unit 1024 := by
  have htop : unit 1024 = 2 ^ 53 * unit 971 := (two_pow_mul_unit 53 971).symm
  have hunit := unit_pos 971
  rw [overflow, htop]
  linarith

/-- The midpoint above a double is not beyond the overflow. -/
theorem midpoint_le_overflow (hform : IsDoubleForm m e) : (m + 1 / 2) * unit e ≤ overflow := by
  have hm : (m : ℚ) + 1 / 2 ≤ 2 ^ 53 - 1 / 2 := by linarith [natCast_lt_pow hform]
  calc (m + 1 / 2) * unit e ≤ (m + 1 / 2) * unit 971 :=
        mul_le_mul_of_nonneg_left (unit_le_unit hform.2.2.1) (by positivity)
    _ ≤ overflow := mul_le_mul_of_nonneg_right hm (unit_pos 971).le

/-- Only the midpoint above the largest double is as far as the overflow, and the mantissa of this
double is odd. -/
theorem odd_of_overflow_le (hform : IsDoubleForm m e) (h : overflow ≤ (m + 1 / 2) * unit e) :
    m % 2 = 1 := by
  have hm : (0 : ℚ) ≤ m + 1 / 2 := by positivity
  have hlast : overflow ≤ (m + 1 / 2) * unit 971 :=
    h.trans (mul_le_mul_of_nonneg_left (unit_le_unit hform.2.2.1) hm)
  have hmax : (2 : ℚ) ^ 53 - 1 / 2 ≤ m + 1 / 2 := le_of_mul_le_mul_right hlast (unit_pos 971)
  have hcount : m + 1 = 2 ^ 53 := by
    have hcast : (m : ℚ) + 1 = 2 ^ 53 := by linarith [natCast_lt_pow hform]
    exact_mod_cast hcast
  omega

/-- The numbers without a nearest double are those from the overflow on. -/
theorem value?_ofRat_eq_none_iff : (ofRat q).value? = none ↔ overflow ≤ |q| := by
  rw [← natAbs_num_div_den]
  constructor
  · intro hnone
    by_contra hbelow
    obtain ⟨m, e, hform, hfinite⟩ :=
      exists_ofRatio_eq_finite (decide (q < 0)) q.den_pos (not_le.1 hbelow)
    rw [ofRat, hfinite] at hnone
    cases hnone
  · intro habove
    by_contra hsome
    obtain ⟨v, hv⟩ := Option.ne_none_iff_exists'.1 hsome
    obtain ⟨s, m, e, hform, hfinite, -⟩ := exists_of_value? hv
    obtain ⟨-, -, hhigh, hodd⟩ := (ofRatio_eq_finite_iff q.den_pos).1 hfinite
    have hmiddle := le_antisymm hhigh ((midpoint_le_overflow hform).trans habove)
    exact (hodd (odd_of_overflow_le hform (habove.trans hhigh))).2 hmiddle

/-- The double nearest to a number very close to zero is zero. -/
theorem value?_ofRat_eq_zero (h : |q| ≤ unit (-1075)) : (ofRat q).value? = some 0 := by
  have hnearest : Nearest 0 (-1074) |q| := by
    have hbelow : placeBelow 0 (-1074) = 1 / 2 := if_neg (by decide)
    have hhalf : unit (-1074) = 2 * unit (-1075) := by rw [← unit_succ]; rfl
    have hunit := unit_pos (-1075)
    have hq := abs_nonneg q
    refine ⟨?_, ?_, nofun⟩ <;> rw [hhalf] <;> push_cast
    · rw [hbelow]
      linarith
    · linarith
  rw [← natAbs_num_div_den] at hnearest
  have hform : IsDoubleForm 0 (-1074) := by decide
  rw [ofRat, (ofRatio_eq_finite_iff q.den_pos (h := hform)).2 ⟨rfl, hnearest⟩]
  simp [value?, signed]

/-! ## Integers -/

theorem log2_le (hn : 0 < n) (h : n < 2 ^ 53) : Nat.log2 n ≤ 52 := by
  by_contra hgt
  have hpow : 2 ^ 53 ≤ 2 ^ Nat.log2 n := Nat.pow_le_pow_right (by decide) (by omega)
  have hlow := Nat.log2_self_le hn.ne'
  omega

theorem isDoubleForm_natCast (hn : 0 < n) (h : n < 2 ^ 53) :
    IsDoubleForm (n * 2 ^ (52 - Nat.log2 n)) ((Nat.log2 n : Int) - 52) := by
  have hlow := Nat.log2_self_le hn.ne'
  have hhigh := Nat.lt_log2_self (n := n)
  have hlog := log2_le hn h
  rw [isDoubleForm_iff]
  refine ⟨?_, by omega, by omega, .inl ?_⟩
  · calc n * 2 ^ (52 - Nat.log2 n) < 2 ^ (Nat.log2 n + 1) * 2 ^ (52 - Nat.log2 n) :=
          Nat.mul_lt_mul_of_pos_right hhigh (by positivity)
      _ = 2 ^ 53 := by rw [← pow_add]; congr 1; omega
  · calc 2 ^ 52 = 2 ^ Nat.log2 n * 2 ^ (52 - Nat.log2 n) := by rw [← pow_add]; congr 1; omega
      _ ≤ n * 2 ^ (52 - Nat.log2 n) := Nat.mul_le_mul_right _ hlow

theorem exists_value?_natCast (h : n ≤ 2 ^ 53) : ∃ x : Double, x.value? = some (n : ℚ) := by
  rcases Nat.eq_zero_or_pos n with rfl | hn
  · exact ⟨zero false, by simp [zero, value?, signed]⟩
  rcases Nat.lt_or_eq_of_le h with hlt | rfl
  · refine ⟨.finite false _ _ (isDoubleForm_natCast hn hlt), congrArg some ?_⟩
    have hlog := log2_le hn hlt
    have hunit : 2 ^ (52 - Nat.log2 n) * unit ((Nat.log2 n : Int) - 52) = 1 := by
      rw [two_pow_mul_unit, show (Nat.log2 n : Int) - 52 + (52 - Nat.log2 n : Nat) = 0 by omega]
      rfl
    simp [signed, mul_assoc, hunit]
  · exact ⟨.finite false (2 ^ 52) 1 (by decide), by norm_num [value?, signed, unit]⟩

theorem value?_neg (h : x.value? = some v) : (neg x).value? = some (-v) := by
  obtain ⟨s, m, e, -, rfl, rfl⟩ := exists_of_value? h
  cases s <;> simp [neg, value?, signed]

/-- Up to 2^53 integers are doubles. -/
theorem value?_ofInt {k : Int} (h : k.natAbs ≤ 2 ^ 53) : (ofInt k).value? = some (k : ℚ) := by
  have hvalue : ∃ x : Double, x.value? = some (k : ℚ) := by
    obtain ⟨x, hx⟩ := exists_value?_natCast h
    rcases Int.natAbs_eq k with hk | hk <;> rw [hk]
    · exact ⟨x, hx⟩
    · rw [Int.cast_neg]
      exact ⟨neg x, value?_neg hx⟩
  obtain ⟨x, hx⟩ := hvalue
  rw [← ofRat_intCast]
  exact value?_ofRat hx

theorem ofInt_natCast (n : Nat) : ofInt n = ofNat n := by
  have hnonneg : ¬ (n : Int) < 0 := by omega
  rw [ofInt, ofNat, decide_eq_false hnonneg, Int.natAbs_natCast]

/-- A double beyond 2^53 is an integer. -/
theorem exists_intCast_of_large (h : x.value? = some v) (hlarge : 2 ^ 53 ≤ |v|) :
    ∃ k : Int, v = k := by
  obtain ⟨s, m, e, hform, rfl, rfl⟩ := exists_of_value? h
  rw [abs_value] at hlarge
  have hm := natCast_lt_pow hform
  have he : 0 ≤ e := by
    by_contra hneg
    have hunit := unit_le_unit (show e ≤ 0 by omega)
    have hone : unit 0 = 1 := rfl
    have hpos := unit_pos e
    nlinarith
  refine ⟨signed s m * 2 ^ e.toNat, ?_⟩
  rw [unit_toNat he]
  push_cast
  rfl

theorem exists_value?_ofInt {k : Int} (h : k.natAbs < 2 ^ 64) :
    ∃ v, (ofInt k).value? = some v := by
  have hbound : (k.natAbs : ℚ) / (1 : Nat) < overflow := by
    have hpow : unit 64 ≤ unit 971 := unit_le_unit (by decide)
    have hunit := unit_pos 971
    have hk : (k.natAbs : ℚ) < unit 64 := by
      rw [show (64 : Int) = (64 : Nat) from rfl, unit_natCast]
      exact_mod_cast h
    rw [Nat.cast_one, div_one, overflow]
    linarith
  obtain ⟨m, e, hform, hfinite⟩ :=
    exists_ofRatio_eq_finite (decide (k < 0)) Nat.one_pos hbound
  exact ⟨_, by rw [ofInt, hfinite, value?]⟩

theorem natAbs_toInt_le (n : Int64) : n.toInt.natAbs ≤ 2 ^ 63 := by
  have hlow := n.le_toInt
  have hhigh := n.toInt_lt
  omega

theorem natAbs_toInt_lt (n : Int64) : n.toInt.natAbs < 2 ^ 64 :=
  (natAbs_toInt_le n).trans_lt (by decide)

/-- The size of an integer and that of the double nearest to it are on the same side of each
double. -/
theorem abs_of_ofInt {k : Int} (hv : (ofInt k).value? = some v) (hy : y.value? = some (n : ℚ)) :
    (n ≤ k.natAbs → (n : ℚ) ≤ |v|) ∧ (k.natAbs ≤ n → |v| ≤ n) := by
  rw [← ofRat_intCast] at hv
  obtain ⟨habove, hbelow⟩ := le_of_ofRat hv hy
  obtain ⟨habove', hbelow'⟩ := le_of_ofRat hv (value?_neg hy)
  constructor
  · intro hle
    rcases Int.le_total 0 k with hk | hk
    · exact (habove (by exact_mod_cast (by omega : (n : Int) ≤ k))).trans (le_abs_self v)
    · have hneg := hbelow' (by exact_mod_cast (by omega : k ≤ -(n : Int)))
      linarith [neg_le_abs v]
  · intro hle
    exact abs_le.2 ⟨habove' (by exact_mod_cast (by omega : -(n : Int) ≤ k)),
      hbelow (by exact_mod_cast (by omega : k ≤ n))⟩

/-- The double nearest to an integer is an integer. -/
theorem exists_intCast_ofInt {k : Int} (h : k.natAbs < 2 ^ 64) :
    ∃ l : Int, (ofInt k).value? = some (l : ℚ) := by
  rcases Nat.lt_or_ge (2 ^ 53) k.natAbs with hlarge | hsmall
  · obtain ⟨v, hv⟩ := exists_value?_ofInt h
    obtain ⟨x, hx⟩ := exists_value?_natCast (Nat.le_refl (2 ^ 53))
    have habs := (abs_of_ofInt hv hx).1 hlarge.le
    push_cast at habs
    obtain ⟨l, rfl⟩ := exists_intCast_of_large hv habs
    exact ⟨l, hv⟩
  · exact ⟨k, value?_ofInt hsmall⟩

end SynthTable.Double
