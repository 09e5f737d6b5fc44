import Mathlib.Algebra.Order.Field.Power
import Mathlib.Algebra.Order.Field.Rat
import Mathlib.Tactic.FieldSimp
import Mathlib.Tactic.Linarith
import Mathlib.Tactic.NormNum
import Mathlib.Tactic.Positivity
import Mathlib.Tactic.Ring
import SynthTable.Number.Double

/-!
# Rounding to doubles

The rounding of a fraction is described without the way it is computed: the result is `m · 2^e`
just if the fraction lies between the midpoints to the neighbours of this double, where a midpoint
belongs to the neighbour with the even mantissa (`Double.ofRatio_eq_finite_iff`). So it depends on
the fraction alone (`Double.ofRatio_congr`), a double is rounded to itself
(`Double.ofRatio_of_eq`), no fraction below the overflow is rounded to an infinity
(`Double.exists_ofRatio_eq_finite`), and no double is closer (`Double.Nearest.abs_sub_le`).
-/

namespace SynthTable.Double

variable {n d m : Nat} {e : Int} {q : ℚ}

theorem isDoubleForm_iff : IsDoubleForm m e ↔
    m < 2 ^ 53 ∧ -1074 ≤ e ∧ e ≤ 971 ∧ (2 ^ 52 ≤ m ∨ e = -1074) := Iff.rfl

/-- A power of two. -/
def unit (e : Int) : ℚ := 2 ^ e

theorem unit_pos (e : Int) : 0 < unit e := zpow_pos (by norm_num) e

theorem unit_add (e f : Int) : unit (e + f) = unit e * unit f := zpow_add₀ (by norm_num) e f

theorem unit_natCast (k : Nat) : unit k = (2 : ℚ) ^ k := zpow_natCast 2 k

theorem unit_succ (e : Int) : unit (e + 1) = 2 * unit e := by
  rw [unit_add, mul_comm]
  rfl

theorem unit_le_unit {f : Int} (h : e ≤ f) : unit e ≤ unit f :=
  zpow_le_zpow_right₀ (by norm_num) h

theorem unit_toNat (h : 0 ≤ e) : unit e = (2 : ℚ) ^ e.toNat := by
  rw [← unit_natCast, Int.toNat_of_nonneg h]

/-! ## Rounding to an integer -/

/-- A number is nearest to the integer `m`; the midpoints to the neighbours are so if `m` is
even. -/
def NearInt (m : Nat) (t : ℚ) : Prop :=
  m - 1 / 2 ≤ t ∧ t ≤ m + 1 / 2 ∧ (m % 2 = 1 → m - 1 / 2 ≠ t ∧ t ≠ m + 1 / 2)

theorem nearInt_div_iff (hd : 0 < d) : NearInt m ((n : ℚ) / d) ↔
    2 * m * d ≤ 2 * n + d ∧ 2 * n ≤ 2 * m * d + d ∧
      (m % 2 = 1 → 2 * m * d ≠ 2 * n + d ∧ 2 * n ≠ 2 * m * d + d) := by
  have hpos : (0 : ℚ) < d := by exact_mod_cast hd
  have hlow : (m : ℚ) - 1 / 2 ≤ n / d ↔ 2 * m * d ≤ 2 * n + d := by
    rw [le_div_iff₀ hpos, ← Nat.cast_le (α := ℚ)]
    push_cast
    constructor <;> intro h <;> linarith
  have hhigh : (n : ℚ) / d ≤ m + 1 / 2 ↔ 2 * n ≤ 2 * m * d + d := by
    rw [div_le_iff₀ hpos, ← Nat.cast_le (α := ℚ)]
    push_cast
    constructor <;> intro h <;> linarith
  have hlow' : (m : ℚ) - 1 / 2 = n / d ↔ 2 * m * d = 2 * n + d := by
    rw [eq_div_iff hpos.ne', ← Nat.cast_inj (R := ℚ)]
    push_cast
    constructor <;> intro h <;> linarith
  have hhigh' : (n : ℚ) / d = m + 1 / 2 ↔ 2 * n = 2 * m * d + d := by
    rw [div_eq_iff hpos.ne', ← Nat.cast_inj (R := ℚ)]
    push_cast
    constructor <;> intro h <;> linarith
  rw [NearInt, hlow, hhigh, ne_eq, hlow', ne_eq, hhigh']

theorem nearInt_roundHalfEven (n : Nat) (hd : 0 < d) :
    NearInt (roundHalfEven n d) ((n : ℚ) / d) := by
  rw [nearInt_div_iff hd, roundHalfEven]
  have hdiv := Nat.div_add_mod n d
  have hmod := Nat.mod_lt n hd
  rw [Nat.mul_comm] at hdiv
  generalize n / d = q at *
  generalize n % d = r at *
  have hproduct : 2 * q * d = 2 * (q * d) := Nat.mul_assoc 2 q d
  have hnext : 2 * (q + 1) * d = 2 * (q * d) + 2 * d := by ring
  split_ifs <;> omega

/-- A number is nearest to one integer only. -/
theorem NearInt.unique {m' : Nat} {t : ℚ} (h : NearInt m t) (h' : NearInt m' t) : m = m' := by
  -- of two neighbours one is odd, and an odd one has not the midpoint
  have hnot {k l : Nat} (hk : NearInt k t) (hl : NearInt l t) : ¬ k < l := by
    intro hlt
    obtain ⟨-, hhigh, hodd⟩ := hk
    obtain ⟨hlow, -, hodd'⟩ := hl
    have hnext : (k : ℚ) + 1 ≤ l := by exact_mod_cast hlt
    have hmid : t = k + 1 / 2 := by linarith
    have hsucc : l = k + 1 := by
      have : (l : ℚ) = k + 1 := by linarith
      exact_mod_cast this
    rcases Nat.mod_two_eq_zero_or_one k with heven | hkodd
    · refine (hodd' (by omega)).1 ?_
      rw [hsucc, hmid]
      push_cast
      ring
    · exact (hodd hkodd).2 hmid
  exact Nat.le_antisymm (not_lt.1 (hnot h' h)) (not_lt.1 (hnot h h'))

/-! ## The place of a number -/

/-- The exponent of the last place of the doubles next to `q`. -/
def IsPlace (e : Int) (q : ℚ) : Prop :=
  -1074 ≤ e ∧ q < 2 ^ 53 * unit e ∧ (2 ^ 52 * unit e ≤ q ∨ e = -1074)

theorem IsPlace.unique {f : Int} (h : IsPlace e q) (h' : IsPlace f q) : e = f := by
  have hnot {k l : Int} (hk : IsPlace k q) (hl : IsPlace l q) : ¬ k < l := by
    intro hlt
    obtain ⟨hleast, hhigh, -⟩ := hk
    obtain ⟨-, -, hlow | hlow⟩ := hl
    · have hnext := unit_le_unit (Int.add_one_le_of_lt hlt)
      rw [unit_succ] at hnext
      linarith
    · omega
  have hle := hnot h h'
  have hge := hnot h' h
  omega

theorem shiftRatio_spec (n : Nat) (hd : 0 < d) (e : Int) : 0 < (shiftRatio n d e).2 ∧
    ((shiftRatio n d e).1 : ℚ) / (shiftRatio n d e).2 = n / d / unit e := by
  have hpos : (0 : ℚ) < d := by exact_mod_cast hd
  unfold shiftRatio
  split
  · next he =>
    refine ⟨Nat.mul_pos hd (Nat.pow_pos (by decide)), ?_⟩
    rw [unit_toNat he]
    simp only [Nat.pow_eq]
    push_cast
    rw [div_div]
  · next he =>
    have hunit : unit e = ((2 : ℚ) ^ (-e).toNat)⁻¹ := by
      rw [← unit_toNat (by omega), unit, unit, zpow_neg, inv_inv]
    refine ⟨hd, ?_⟩
    rw [hunit, div_inv_eq_mul]
    simp only [Nat.pow_eq]
    push_cast
    ring

theorem log2_bounds (hn : 0 < n) : unit (Nat.log2 n) ≤ n ∧ (n : ℚ) < unit (Nat.log2 n + 1) := by
  constructor
  · rw [unit_natCast]
    exact_mod_cast Nat.log2_self_le hn.ne'
  · rw [show ((Nat.log2 n : Int) + 1) = ((Nat.log2 n + 1 : Nat) : Int) from rfl, unit_natCast]
    exact_mod_cast Nat.lt_log2_self

/-- The logarithms of numerator and denominator give the size of a fraction up to a factor of
two. -/
theorem ratio_bounds (hn : 0 < n) (hd : 0 < d) :
    unit ((Nat.log2 n : Int) - Nat.log2 d - 1) < (n : ℚ) / d ∧
      (n : ℚ) / d < unit ((Nat.log2 n : Int) - Nat.log2 d + 1) := by
  obtain ⟨hnlow, hnhigh⟩ := log2_bounds hn
  obtain ⟨hdlow, hdhigh⟩ := log2_bounds hd
  have hpos : (0 : ℚ) < d := by exact_mod_cast hd
  rw [lt_div_iff₀ hpos, div_lt_iff₀ hpos]
  generalize (Nat.log2 n : Int) = k at *
  generalize (Nat.log2 d : Int) = l at *
  constructor
  · calc unit (k - l - 1) * d < unit (k - l - 1) * unit (l + 1) :=
          mul_lt_mul_of_pos_left hdhigh (unit_pos _)
      _ = unit k := by rw [← unit_add]; congr 1; ring
      _ ≤ n := hnlow
  · calc (n : ℚ) < unit (k + 1) := hnhigh
      _ = unit (k - l + 1) * unit l := by rw [← unit_add]; congr 1; ring
      _ ≤ unit (k - l + 1) * d := mul_le_mul_of_nonneg_left hdlow (unit_pos _).le

theorem two_pow_mul_unit (k : Nat) (e : Int) : 2 ^ k * unit e = unit (e + k) := by
  rw [unit_add, unit_natCast, mul_comm]

/-- A number with 53 bits before a place has this as its place, or the least one. -/
theorem isPlace_max (hlow : 2 ^ 52 * unit e ≤ q) (hhigh : q < 2 ^ 53 * unit e) :
    IsPlace (max (-1074) e) q := by
  have hle := unit_le_unit (Int.le_max_right (-1074) e)
  refine ⟨Int.le_max_left _ _, by linarith, ?_⟩
  rcases Int.le_total e (-1074) with h | h
  · exact .inr (Int.max_eq_left h)
  · rw [Int.max_eq_right h]
    exact .inl hlow

theorem isPlace_placeOf (hn : 0 < n) (hd : 0 < d) : IsPlace (placeOf n d) ((n : ℚ) / d) := by
  obtain ⟨hlow, hhigh⟩ := ratio_bounds hn hd
  unfold placeOf
  dsimp only
  generalize (Nat.log2 n : Int) - Nat.log2 d = size at *
  obtain ⟨hb, hratio⟩ := shiftRatio_spec n hd (size - 52)
  have hbq : (0 : ℚ) < (shiftRatio n d (size - 52)).2 := by exact_mod_cast hb
  have hsmall : (shiftRatio n d (size - 52)).1 < (shiftRatio n d (size - 52)).2 * Nat.pow 2 52 ↔
      (n : ℚ) / d < 2 ^ 52 * unit (size - 52) := by
    rw [← div_lt_iff₀ (unit_pos _), ← hratio, div_lt_iff₀ hbq, mul_comm, Nat.pow_eq]
    exact_mod_cast Iff.rfl
  have htop : unit (size + 1) = 2 ^ 53 * unit (size - 52) := by
    rw [two_pow_mul_unit]
    congr 1
    omega
  have hmiddle : 2 ^ 52 * unit (size - 52) = 2 ^ 53 * unit (size - 52 - 1) := by
    rw [two_pow_mul_unit, two_pow_mul_unit]
    congr 1
    omega
  have hbottom : unit (size - 1) = 2 ^ 52 * unit (size - 52 - 1) := by
    rw [two_pow_mul_unit]
    congr 1
    omega
  split_ifs with h
  · rw [hsmall, hmiddle] at h
    exact isPlace_max (hbottom ▸ hlow.le) h
  · rw [hsmall] at h
    exact isPlace_max (not_lt.1 h) (htop ▸ hhigh)

/-! ## Rounding to a double -/

/-- The part of a last place that lies between `m · 2^e` and the midpoint to the double below it;
below a power of two the places are half as wide. -/
def placeBelow (m : Nat) (e : Int) : ℚ := if m = 2 ^ 52 ∧ -1074 < e then 1 / 4 else 1 / 2

/-- A number is nearest to `m · 2^e` among the doubles: it lies between the midpoints to the
neighbours, or it is one of them and `m` is even. -/
def Nearest (m : Nat) (e : Int) (q : ℚ) : Prop :=
  (m - placeBelow m e) * unit e ≤ q ∧ q ≤ (m + 1 / 2) * unit e ∧
    (m % 2 = 1 → (m - placeBelow m e) * unit e ≠ q ∧ q ≠ (m + 1 / 2) * unit e)

theorem placeBelow_cases (m : Nat) (e : Int) :
    placeBelow m e = 1 / 2 ∨ placeBelow m e = 1 / 4 ∧ m = 2 ^ 52 ∧ -1074 < e := by
  unfold placeBelow
  split_ifs with h
  · exact .inr ⟨rfl, h⟩
  · exact .inl rfl

theorem placeBelow_le (m : Nat) (e : Int) : placeBelow m e ≤ 1 / 2 := by
  rcases placeBelow_cases m e with h | ⟨h, -⟩ <;> rw [h]
  norm_num

theorem nearInt_div_unit_iff : NearInt m (q / unit e) ↔ (m - 1 / 2) * unit e ≤ q ∧
    q ≤ (m + 1 / 2) * unit e ∧
      (m % 2 = 1 → (m - 1 / 2) * unit e ≠ q ∧ q ≠ (m + 1 / 2) * unit e) := by
  have hunit := unit_pos e
  rw [NearInt, le_div_iff₀ hunit, div_le_iff₀ hunit, ne_eq, eq_div_iff hunit.ne', ne_eq,
    div_eq_iff hunit.ne']

theorem ofRatio_eq_of_shiftRatio {s : Bool} {a b : Nat} (hn : n ≠ 0)
    (h : shiftRatio n d (placeOf n d) = (a, b)) :
    ofRatio s n d =
      if roundHalfEven a b = Nat.pow 2 53 then ofParts s (Nat.pow 2 52) (placeOf n d + 1)
      else ofParts s (roundHalfEven a b) (placeOf n d) := by
  rw [ofRatio, if_neg hn]
  extract_lets e
  split
  next a' b' h' =>
    obtain ⟨rfl, rfl⟩ := Prod.mk.inj (h.symm.trans h')
    rfl

/-- Rounding at the place of a number and moving to the next place where the mantissa is full. -/
theorem ofRatio_eq {s : Bool} (hn : 0 < n) (hd : 0 < d) :
    ∃ e m, IsPlace e ((n : ℚ) / d) ∧ NearInt m ((n : ℚ) / d / unit e) ∧
      ofRatio s n d =
        if m = Nat.pow 2 53 then ofParts s (Nat.pow 2 52) (e + 1) else ofParts s m e := by
  obtain ⟨hb, hratio⟩ := shiftRatio_spec n hd (placeOf n d)
  rcases hshift : shiftRatio n d (placeOf n d) with ⟨a, b⟩
  rw [hshift] at hb hratio
  refine ⟨placeOf n d, roundHalfEven a b, isPlace_placeOf hn hd, ?_,
    ofRatio_eq_of_shiftRatio hn.ne' hshift⟩
  rw [← hratio]
  exact nearInt_roundHalfEven a hb

theorem ofParts_eq_finite_iff {s s' : Bool} {m' : Nat} {e' : Int} {h' : IsDoubleForm m' e'} :
    ofParts s m e = .finite s' m' e' h' ↔ s = s' ∧ m = m' ∧ e = e' := by
  unfold ofParts
  split_ifs with h
  · simp
  · simp only [false_iff]
    rintro ⟨-, rfl, rfl⟩
    exact h h'

theorem nearest_of_nearInt (h : IsPlace e q) (hm : NearInt m (q / unit e)) (hne : m ≠ 2 ^ 53) :
    Nearest m e q := by
  obtain ⟨hlow, hhigh, hodd⟩ := nearInt_div_unit_iff.1 hm
  rcases placeBelow_cases m e with hbelow | ⟨hbelow, rfl, hplace⟩
  · rw [Nearest, hbelow]
    exact ⟨hlow, hhigh, hodd⟩
  · obtain ⟨-, -, hfull | hleast⟩ := h
    · refine ⟨?_, hhigh, nofun⟩
      have hunit := unit_pos e
      rw [hbelow]
      push_cast
      linarith
    · omega

theorem ofParts_of_form {s : Bool} (h : IsDoubleForm m e) : ofParts s m e = .finite s m e h :=
  dif_pos h

theorem nearest_zero_iff (h : IsDoubleForm m e) : Nearest m e 0 ↔ m = 0 ∧ e = -1074 := by
  have hunit := unit_pos e
  constructor
  · rintro ⟨hlow, -, -⟩
    have hm : (m : ℚ) - placeBelow m e ≤ 0 := nonpos_of_mul_nonpos_left hlow hunit
    have hzero : m = 0 := by
      have : (m : ℚ) < 1 := by rcases placeBelow_cases m e with h | ⟨h, -⟩ <;> linarith
      exact Nat.lt_one_iff.1 (by exact_mod_cast this)
    obtain ⟨-, -, -, hfull | hleast⟩ := isDoubleForm_iff.1 h
    · omega
    · exact ⟨hzero, hleast⟩
  · rintro ⟨rfl, rfl⟩
    refine ⟨?_, ?_, nofun⟩
    · have hbelow : placeBelow 0 (-1074) = 1 / 2 := if_neg (by decide)
      rw [hbelow]
      push_cast
      linarith
    · push_cast
      linarith

/-- A full mantissa is the least one of the next place. -/
theorem nearest_of_nearInt_full (h : IsPlace e q) (hm : NearInt (2 ^ 53) (q / unit e)) :
    Nearest (2 ^ 52) (e + 1) q := by
  obtain ⟨hlow, -, -⟩ := nearInt_div_unit_iff.1 hm
  obtain ⟨hleast, hhigh, -⟩ := h
  have hunit := unit_pos e
  have hbelow : placeBelow (2 ^ 52) (e + 1) = 1 / 4 := if_pos ⟨rfl, by omega⟩
  rw [Nearest, hbelow, unit_succ]
  push_cast at hlow ⊢
  exact ⟨by linarith, by linarith, fun h => absurd h (by decide)⟩

/-- A number is nearest to a double at its own place, or it is so close below a power of two that
it is nearest to that power. -/
theorem nearest_cases (h : IsDoubleForm m e) (hq : Nearest m e q) :
    IsPlace e q ∧ NearInt m (q / unit e) ∧ m ≠ 2 ^ 53 ∨
      m = 2 ^ 52 ∧ IsPlace (e - 1) q ∧ NearInt (2 ^ 53) (q / unit (e - 1)) := by
  obtain ⟨hm, hleast, -, hfull⟩ := isDoubleForm_iff.1 h
  obtain ⟨hlow, hhigh, hodd⟩ := hq
  have hunit := unit_pos e
  have hmq : (m : ℚ) + 1 ≤ 2 ^ 53 := by exact_mod_cast hm
  have htop : q < 2 ^ 53 * unit e := by nlinarith
  by_cases hplace : 2 ^ 52 * unit e ≤ q ∨ e = -1074
  · refine .inl ⟨⟨hleast, htop, hplace⟩, nearInt_div_unit_iff.2 ?_, hm.ne⟩
    rcases placeBelow_cases m e with hbelow | ⟨-, rfl, hnot⟩
    · rw [hbelow] at hlow hodd
      exact ⟨hlow, hhigh, hodd⟩
    · refine ⟨?_, hhigh, nofun⟩
      rcases hplace with hplace | hplace
      · push_cast
        linarith
      · omega
  · obtain ⟨hsmall, hnot⟩ := not_or.1 hplace
    rw [not_le] at hsmall
    have hleastm : 2 ^ 52 ≤ m := hfull.resolve_right hnot
    have hm52 : m = 2 ^ 52 := by
      have hbelow := placeBelow_le m e
      have : (m : ℚ) < 2 ^ 52 + 1 := by
        have : ((m : ℚ) - placeBelow m e) < 2 ^ 52 :=
          lt_of_mul_lt_mul_right (hlow.trans_lt hsmall) hunit.le
        linarith
      have : m < 2 ^ 52 + 1 := by exact_mod_cast this
      omega
    subst hm52
    have hbelow : placeBelow (2 ^ 52) e = 1 / 4 := if_pos ⟨rfl, by omega⟩
    have hhalf : unit e = 2 * unit (e - 1) := by rw [← unit_succ, Int.sub_add_cancel]
    have hunit' := unit_pos (e - 1)
    rw [hbelow] at hlow
    push_cast at hlow
    refine .inr ⟨rfl, ⟨by omega, by linarith, .inl (by linarith)⟩, nearInt_div_unit_iff.2 ?_⟩
    push_cast
    exact ⟨by linarith, by linarith, fun h => absurd h (by decide)⟩

/-- The rounding gives the double that a number is nearest to, where there is one. -/
theorem ofRatio_eq_finite_iff {s s' : Bool} (hd : 0 < d) {h : IsDoubleForm m e} :
    ofRatio s n d = .finite s' m e h ↔ s = s' ∧ Nearest m e ((n : ℚ) / d) := by
  rcases Nat.eq_zero_or_pos n with rfl | hn
  · rw [Nat.cast_zero, zero_div, nearest_zero_iff h]
    simp [ofRatio, zero, eq_comm]
  · obtain ⟨e₀, m₀, hplace, hm₀, heq⟩ := ofRatio_eq (s := s) hn hd
    rw [heq, Nat.pow_eq, Nat.pow_eq]
    constructor
    · split_ifs with hfull
      · rw [ofParts_eq_finite_iff]
        rintro ⟨rfl, rfl, rfl⟩
        subst hfull
        exact ⟨rfl, nearest_of_nearInt_full hplace hm₀⟩
      · rw [ofParts_eq_finite_iff]
        rintro ⟨rfl, rfl, rfl⟩
        exact ⟨rfl, nearest_of_nearInt hplace hm₀ hfull⟩
    · rintro ⟨rfl, hq⟩
      rcases nearest_cases h hq with ⟨hplace', hm, hne⟩ | ⟨rfl, hplace', hm⟩
      · obtain rfl := hplace.unique hplace'
        obtain rfl := hm₀.unique hm
        rw [if_neg hne, ofParts_of_form h]
      · obtain rfl := hplace.unique hplace'
        obtain rfl := hm₀.unique hm
        rw [if_pos rfl, ofParts_eq_finite_iff]
        exact ⟨rfl, rfl, by omega⟩

theorem nearest_self (m : Nat) (e : Int) : Nearest m e (m * unit e) := by
  have hunit := unit_pos e
  have hbelow : 0 < placeBelow m e := by
    rcases placeBelow_cases m e with h | ⟨h, -⟩ <;> rw [h] <;> norm_num
  have hlow : (m - placeBelow m e) * unit e < m * unit e :=
    mul_lt_mul_of_pos_right (by linarith) hunit
  have hhigh : (m : ℚ) * unit e < (m + 1 / 2) * unit e :=
    mul_lt_mul_of_pos_right (by linarith) hunit
  exact ⟨hlow.le, hhigh.le, fun _ => ⟨hlow.ne, hhigh.ne⟩⟩

/-- The numbers that are nearest to a double lie without gaps. -/
theorem Nearest.between {a b c : ℚ} (ha : Nearest m e a) (hc : Nearest m e c) (hab : a ≤ b)
    (hbc : b ≤ c) : Nearest m e b := by
  obtain ⟨hlow, -, hodd⟩ := ha
  obtain ⟨-, hhigh, hodd'⟩ := hc
  refine ⟨hlow.trans hab, hbc.trans hhigh, fun h => ⟨?_, ?_⟩⟩
  · exact ((lt_of_le_of_ne hlow (hodd h).1).trans_le hab).ne
  · exact (hbc.trans_lt (lt_of_le_of_ne hhigh (hodd' h).2)).ne

/-- A double is rounded to itself. -/
theorem ofRatio_of_eq {s : Bool} (hd : 0 < d) (h : IsDoubleForm m e)
    (hq : (n : ℚ) / d = m * unit e) : ofRatio s n d = .finite s m e h :=
  (ofRatio_eq_finite_iff hd).2 ⟨rfl, hq ▸ nearest_self m e⟩

theorem ofParts_cases (s : Bool) (m : Nat) (e : Int) :
    ofParts s m e = .infinite s ∨ ∃ h, ofParts s m e = .finite s m e h := by
  unfold ofParts
  split_ifs with h
  · exact .inr ⟨h, rfl⟩
  · exact .inl rfl

theorem ofRatio_cases (s : Bool) (n : Nat) (hd : 0 < d) :
    ofRatio s n d = .infinite s ∨ ∃ m e h, ofRatio s n d = .finite s m e h := by
  rcases Nat.eq_zero_or_pos n with rfl | hn
  · exact .inr ⟨0, -1074, by decide, rfl⟩
  · obtain ⟨e, m, -, -, heq⟩ := ofRatio_eq (s := s) hn hd
    rw [heq]
    split_ifs
    · rcases ofParts_cases s (Nat.pow 2 52) (e + 1) with h | ⟨h, hfinite⟩
      · exact .inl h
      · exact .inr ⟨_, _, h, hfinite⟩
    · rcases ofParts_cases s m e with h | ⟨h, hfinite⟩
      · exact .inl h
      · exact .inr ⟨_, _, h, hfinite⟩

/-- The rounding depends on the fraction only. -/
theorem ofRatio_congr {s : Bool} {n' d' : Nat} (hd : 0 < d) (hd' : 0 < d')
    (h : (n : ℚ) / d = n' / d') : ofRatio s n d = ofRatio s n' d' := by
  rcases ofRatio_cases s n hd with hinfinite | ⟨m, e, hform, hfinite⟩
  · rcases ofRatio_cases s n' hd' with hinfinite' | ⟨m, e, hform, hfinite⟩
    · rw [hinfinite, hinfinite']
    · rw [hfinite, ofRatio_eq_finite_iff hd, h]
      exact (ofRatio_eq_finite_iff hd').1 hfinite
  · rw [hfinite, eq_comm, ofRatio_eq_finite_iff hd', ← h]
    exact (ofRatio_eq_finite_iff hd).1 hfinite

/-- The least size that is rounded to an infinity: half a last place above the largest double. -/
def overflow : ℚ := (2 ^ 53 - 1 / 2) * unit 971

/-- A number below the overflow is not rounded to an infinity. -/
theorem exists_ofRatio_eq_finite (s : Bool) (hd : 0 < d) (h : (n : ℚ) / d < overflow) :
    ∃ m e hform, ofRatio s n d = .finite s m e hform := by
  rcases Nat.eq_zero_or_pos n with rfl | hn
  · exact ⟨0, -1074, by decide, rfl⟩
  · obtain ⟨e, m, hplace, hm, heq⟩ := ofRatio_eq (s := s) hn hd
    obtain ⟨hlow, hhigh, -⟩ := nearInt_div_unit_iff.1 hm
    obtain ⟨hleast, htop, hfull⟩ := hplace
    have hunit := unit_pos e
    rw [overflow] at h
    have he : e ≤ 971 := by
      rcases hfull with hfull | hfull
      · by_contra hgt
        have hunit' := unit_le_unit (show 971 + 1 ≤ e by omega)
        have hunit971 := unit_pos 971
        rw [unit_succ] at hunit'
        linarith
      · omega
    have hm : m ≤ 2 ^ 53 := by
      have : (m : ℚ) < 2 ^ 53 + 1 := by
        have : (m - 1 / 2 : ℚ) < 2 ^ 53 := lt_of_mul_lt_mul_right (hlow.trans_lt htop) hunit.le
        linarith
      exact Nat.lt_succ_iff.1 (by exact_mod_cast this)
    rw [heq, Nat.pow_eq, Nat.pow_eq]
    split_ifs with hne
    · -- at the last place a full mantissa would be that of an overflow
      have hlast : e ≠ 971 := by
        rintro rfl
        rw [hne] at hlow
        push_cast at hlow
        linarith
      exact ⟨_, _, ⟨by decide, by omega, by omega, .inl (by decide)⟩, ofParts_of_form _⟩
    · refine ⟨_, _, isDoubleForm_iff.2 ⟨by omega, hleast, by omega, ?_⟩, ofParts_of_form _⟩
      rcases hfull with hfull | hfull
      · left
        have : (2 : ℚ) ^ 52 < m + 1 := by
          have : (2 : ℚ) ^ 52 ≤ m + 1 / 2 := le_of_mul_le_mul_right (hfull.trans hhigh) hunit
          linarith
        exact Nat.lt_succ_iff.1 (by exact_mod_cast this)
      · exact .inr hfull

/-! ## Neighbours -/

theorem natCast_lt_pow (h : IsDoubleForm m e) : (m : ℚ) + 1 ≤ 2 ^ 53 := by
  exact_mod_cast h.1

theorem pow_le_natCast (h : IsDoubleForm m e) (he : -1074 < e) : (2 : ℚ) ^ 52 ≤ m := by
  obtain ⟨-, -, -, hfull | hleast⟩ := isDoubleForm_iff.1 h
  · exact_mod_cast hfull
  · omega

theorem atPlace_mul_unit (h : e ≤ f) : (atPlace k f e : ℚ) * unit e = k * unit f := by
  rw [atPlace, Nat.pow_eq]
  push_cast
  rw [mul_assoc, two_pow_mul_unit, Int.toNat_of_nonneg (by omega)]
  congr 2
  omega

/-- Above a double there is none before the next place. -/
theorem add_one_mul_unit_le (h : IsDoubleForm m e) (h' : IsDoubleForm k f)
    (hlt : m * unit e < k * unit f) : (m + 1) * unit e ≤ k * unit f := by
  have hunit := unit_pos e
  rcases Int.lt_or_le f e with hfe | hef
  · have hnext := unit_le_unit (Int.add_one_le_of_lt hfe)
    rw [unit_succ] at hnext
    have hm := pow_le_natCast h (by have := h'.2.1; omega)
    have hk := natCast_lt_pow h'
    have hunit' := unit_pos f
    nlinarith
  · rw [← atPlace_mul_unit hef] at hlt ⊢
    have hm : m < atPlace k f e := by exact_mod_cast lt_of_mul_lt_mul_right hlt hunit.le
    exact mul_le_mul_of_nonneg_right (by exact_mod_cast hm) hunit.le

/-- Below a double there is none before the last place, or before half of it below a power of
two. -/
theorem le_sub_mul_unit (h : IsDoubleForm m e) (h' : IsDoubleForm k f)
    (hlt : k * unit f < m * unit e) : k * unit f ≤ (m - 2 * placeBelow m e) * unit e := by
  have hunit := unit_pos e
  rcases Int.lt_or_le f e with hfe | hef
  · have hleast := h'.2.1
    have hnext := unit_le_unit (Int.add_one_le_of_lt hfe)
    rw [unit_succ] at hnext
    have hm := pow_le_natCast h (by omega)
    have hk := natCast_lt_pow h'
    have hunit' := unit_pos f
    rcases placeBelow_cases m e with hbelow | ⟨hbelow, rfl, -⟩
    · have hne : m ≠ 2 ^ 52 := by
        rintro rfl
        rw [placeBelow, if_pos ⟨rfl, by omega⟩] at hbelow
        norm_num at hbelow
      have hgreater : (2 : ℚ) ^ 52 + 1 ≤ m := by
        have : 2 ^ 52 < m := lt_of_le_of_ne (by exact_mod_cast hm) hne.symm
        exact_mod_cast this
      rw [hbelow]
      nlinarith
    · rw [hbelow]
      push_cast
      nlinarith
  · have hhalf := placeBelow_le m e
    rw [← atPlace_mul_unit hef] at hlt ⊢
    have hm : atPlace k f e < m := by exact_mod_cast lt_of_mul_lt_mul_right hlt hunit.le
    have hm' : (atPlace k f e : ℚ) + 1 ≤ m := by exact_mod_cast hm
    exact mul_le_mul_of_nonneg_right (by linarith) hunit.le

/-- No double is closer to a number than the one that it is nearest to. -/
theorem Nearest.abs_sub_le (h : IsDoubleForm m e) (h' : IsDoubleForm k f) (hq : Nearest m e q) :
    |m * unit e - q| ≤ |k * unit f - q| := by
  obtain ⟨hlow, hhigh, -⟩ := hq
  have hunit := unit_pos e
  rcases lt_trichotomy (k * unit f) (m * unit e) with hlt | heq | hgt
  · have hbelow := le_sub_mul_unit h h' hlt
    have hdistance := neg_le_abs (k * unit f - q)
    exact abs_le.2 ⟨by linarith, by linarith⟩
  · rw [heq]
  · have habove := add_one_mul_unit_le h h' hgt
    have hdistance := le_abs_self (k * unit f - q)
    exact abs_le.2 ⟨by linarith, by linarith⟩

end SynthTable.Double
