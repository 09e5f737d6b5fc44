import SynthTable.Proofs.Number.Digits
import SynthTable.Proofs.Number.Values

/-!
# The shortest digits of whole numbers

The digits of a double are searched on finer and finer decimal grids, from one that is coarser than
the number, until a decimal is met that is rounded to the double. The decimals of a grid that are
tried lie in the interval just if the double is the nearest one to them
(`RoundingInterval.holds_iff`), and if any of the grid does, the one nearest to the double is taken
(`RoundingInterval.pick?_spec`). So the text of a whole double is that of an integer that is
rounded to it and ends in as many zeros as any such integer (`Double.exists_isShortest`). Up to
2^53 this is the number itself (`Double.isShortest_ofInt`).
-/

namespace SynthTable

open Double

variable {m n : Nat} {e k : Int} {q : ℚ}

/-! ## The interval of a double -/

theorem Decimal.scaled_spec (n : Nat) (k : Int) (b : Nat) :
    0 < (Decimal.scaled n k b).2 ∧
      ((Decimal.scaled n k b).1 : ℚ) / (Decimal.scaled n k b).2 = n * (10 : ℚ) ^ k * b := by
  unfold Decimal.scaled
  split
  · next hk =>
    refine ⟨Nat.one_pos, ?_⟩
    rw [Nat.pow_eq]
    push_cast
    rw [div_one, ← zpow_natCast, Int.toNat_of_nonneg hk]
  · next hk =>
    refine ⟨Nat.pow_pos (by decide), ?_⟩
    rw [Nat.pow_eq]
    push_cast
    rw [← zpow_natCast, Int.toNat_of_nonneg (by omega), zpow_neg, div_inv_eq_mul]
    ring

/-- A decimal written over `b` compares with the numbers that are whole numbers over `b`. -/
theorem Decimal.scaled_le_iff {b y : Nat} (hb : 0 < b) (hy : (y : ℚ) = q * b) :
    ((Decimal.scaled n k b).1 ≤ y * (Decimal.scaled n k b).2 ↔ n * (10 : ℚ) ^ k ≤ q) ∧
      (y * (Decimal.scaled n k b).2 ≤ (Decimal.scaled n k b).1 ↔ q ≤ n * (10 : ℚ) ^ k) := by
  obtain ⟨hd, hratio⟩ := Decimal.scaled_spec n k b
  generalize Decimal.scaled n k b = fraction at *
  have hd' : (0 : ℚ) < fraction.2 := by exact_mod_cast hd
  have hb' : (0 : ℚ) < b := by exact_mod_cast hb
  have hfirst : (fraction.1 : ℚ) = n * (10 : ℚ) ^ k * (b * fraction.2) := by
    rw [← mul_assoc, ← hratio, div_mul_cancel₀ _ hd'.ne']
  have hsecond : ((y * fraction.2 : Nat) : ℚ) = q * (b * fraction.2) := by
    rw [Nat.cast_mul, hy, mul_assoc]
  rw [← Nat.cast_le (α := ℚ), ← Nat.cast_le (α := ℚ), hfirst, hsecond]
  exact ⟨mul_le_mul_iff_left₀ (mul_pos hb' hd'), mul_le_mul_iff_left₀ (mul_pos hb' hd')⟩

namespace RoundingInterval

/-- The interval of `m · 2^e` in numbers. -/
theorem ofParts_spec (hm : 0 < m) (e : Int) : 0 < (ofParts m e).scale ∧
    ((ofParts m e).low : ℚ) = (m - placeBelow m e) * unit e * (ofParts m e).scale ∧
    ((ofParts m e).value : ℚ) = m * unit e * (ofParts m e).scale ∧
    ((ofParts m e).high : ℚ) = (m + 1 / 2) * unit e * (ofParts m e).scale := by
  have hquarter : unit e = 4 * unit (e - 2) := by
    rw [show e = e - 2 + 2 by omega, unit_add, show e - 2 + 2 - 2 = e - 2 by omega, mul_comm]
    rfl
  have hbelow : ((4 * m - (if m = Nat.pow 2 52 ∧ -1074 < e then 1 else 2) : Nat) : ℚ) =
      4 * (m - placeBelow m e) := by
    rw [Nat.cast_sub (by split_ifs <;> omega), placeBelow, Nat.pow_eq]
    split_ifs <;> push_cast <;> ring
  have hsteps : ((if 0 ≤ e - 2 then Nat.pow 2 (e - 2).toNat else 1 : Nat) : ℚ) =
      unit (e - 2) * (if 0 ≤ e - 2 then 1 else Nat.pow 2 (-(e - 2)).toNat : Nat) := by
    split_ifs with he
    · rw [unit_toNat he, Nat.pow_eq]
      push_cast
      ring
    · rw [Nat.pow_eq, Nat.cast_one, Nat.cast_pow]
      exact (unit_mul_pow_neg (by omega)).symm
  refine ⟨?_, ?_, ?_, ?_⟩
  · show 0 < (if 0 ≤ e - 2 then 1 else Nat.pow 2 (-(e - 2)).toNat)
    split_ifs
    · exact Nat.one_pos
    · exact Nat.pow_pos (by decide)
  · simp only [ofParts]
    rw [Nat.cast_mul, hbelow, hsteps, hquarter]
    ring
  · simp only [ofParts]
    rw [Nat.cast_mul, hsteps, hquarter]
    push_cast
    ring
  · simp only [ofParts]
    rw [Nat.cast_mul, hsteps, hquarter]
    push_cast
    ring

/-- The decimals in the interval of a double are those that it is nearest to. -/
theorem holds_iff (hm : 0 < m) :
    (ofParts m e).holds n k = true ↔ Nearest m e (n * (10 : ℚ) ^ k) := by
  obtain ⟨hscale, hlow, -, hhigh⟩ := ofParts_spec hm e
  have hclosed : (ofParts m e).closed = (m % 2 == 0) := rfl
  obtain ⟨hstart, hbelow⟩ := @Decimal.scaled_le_iff n k _ _ _ hscale hlow
  obtain ⟨habove, hend⟩ := @Decimal.scaled_le_iff n k _ _ _ hscale hhigh
  unfold holds
  generalize Decimal.scaled n k (ofParts m e).scale = fraction at *
  simp only [Nearest, ne_eq, @le_antisymm_iff ℚ, ← hbelow, ← hstart, ← habove, ← hend, hclosed]
  generalize (ofParts m e).low * fraction.2 = low
  generalize (ofParts m e).high * fraction.2 = high
  rcases Nat.mod_two_eq_zero_or_one m with heven | hodd
  · simp [heven]
  · simp [hodd]
    omega

/-! ## The nearest decimal of a grid -/

/-- A quotient rounded down gives the multiple of a step just below a number. -/
theorem floor_spec {a b : Nat} {t v : ℚ} (hb : 0 < b) (ht : 0 < t) (hq : (a : ℚ) / b = v / t) :
    ((a / b : Nat) : ℚ) * t ≤ v ∧ v < ((a / b : Nat) + 1) * t := by
  have hb' : (0 : ℚ) < b := by exact_mod_cast hb
  rw [← le_div_iff₀ ht, ← div_lt_iff₀ ht, ← hq, le_div_iff₀ hb', div_lt_iff₀ hb']
  constructor
  · exact_mod_cast Nat.div_mul_le_self a b
  · exact_mod_cast Nat.lt_mul_of_div_lt (Nat.lt_succ_self (a / b)) hb

theorem floorAt_spec (hm : 0 < m) (e k : Int) :
    ((ofParts m e).floorAt k : ℚ) * (10 : ℚ) ^ k ≤ m * unit e ∧
      (m : ℚ) * unit e < ((ofParts m e).floorAt k + 1) * (10 : ℚ) ^ k := by
  obtain ⟨hscale, -, hvalue, -⟩ := ofParts_spec hm e
  generalize ofParts m e = r at *
  have hscale' : (0 : ℚ) < r.scale := by exact_mod_cast hscale
  have hten : (0 : ℚ) < (10 : ℚ) ^ k := by positivity
  unfold floorAt
  split
  · next hk =>
    refine floor_spec (Nat.mul_pos hscale (Nat.pow_pos (by decide))) hten ?_
    rw [Nat.pow_eq, hvalue, Nat.cast_mul, Nat.cast_pow, ← zpow_natCast, Int.toNat_of_nonneg hk,
      Nat.cast_ofNat]
    field_simp
  · next hk =>
    refine floor_spec hscale hten ?_
    rw [Nat.pow_eq, Nat.cast_mul, hvalue, Nat.cast_pow, ← zpow_natCast,
      Int.toNat_of_nonneg (by omega), zpow_neg, Nat.cast_ofNat]
    field_simp

/-- The tie rule compares the value with the midpoint of two neighbours. -/
theorem prefersNext_away_iff (hm : 0 < m) : (ofParts m e).prefersNext .away n k = true ↔
    (2 * n + 1) * (10 : ℚ) ^ k ≤ 2 * (m * unit e) := by
  obtain ⟨hscale, -, hvalue, -⟩ := ofParts_spec hm e
  have hdouble : ((2 * (ofParts m e).value : Nat) : ℚ) =
      2 * (m * unit e) * (ofParts m e).scale := by
    rw [Nat.cast_mul, hvalue, ← mul_assoc]
    rfl
  obtain ⟨hle, -⟩ := @Decimal.scaled_le_iff (2 * n + 1) k _ _ _ hscale hdouble
  push_cast at hle
  rw [← hle, Nat.le_iff_lt_or_eq, prefersNext]
  simp

/-- A decimal of a grid in the interval makes the one next to the value on its side lie there. -/
theorem nearest_neighbour (hm : 0 < m) (h : Nearest m e (n * (10 : ℚ) ^ k)) :
    n ≤ (ofParts m e).floorAt k ∧ Nearest m e ((ofParts m e).floorAt k * (10 : ℚ) ^ k) ∨
      (ofParts m e).floorAt k + 1 ≤ n ∧
        Nearest m e (((ofParts m e).floorAt k + 1 : Nat) * (10 : ℚ) ^ k) := by
  obtain ⟨hbelow, habove⟩ := floorAt_spec hm e k
  have hten : (0 : ℚ) < (10 : ℚ) ^ k := by positivity
  have hvalue := nearest_self m e
  rcases Nat.lt_or_ge ((ofParts m e).floorAt k) n with hlt | hle
  · have hn : (((ofParts m e).floorAt k + 1 : Nat) : ℚ) ≤ n := by exact_mod_cast hlt
    refine .inr ⟨hlt, hvalue.between h ?_ (mul_le_mul_of_nonneg_right hn hten.le)⟩
    push_cast
    exact habove.le
  · have hn : (n : ℚ) ≤ (ofParts m e).floorAt k := by exact_mod_cast hle
    exact .inl ⟨hle, h.between hvalue (mul_le_mul_of_nonneg_right hn hten.le) hbelow⟩

theorem not_nearest_of_pick? {tie : DecimalTie} (hm : 0 < m)
    (h : (ofParts m e).pick? tie k = none) : ¬ Nearest m e (n * (10 : ℚ) ^ k) := by
  intro hn
  unfold pick? at h
  dsimp only at h
  rcases nearest_neighbour hm hn with ⟨-, hhere⟩ | ⟨-, hnext⟩
  · rw [(holds_iff hm).2 hhere] at h
    split at h <;> simp at h
  · rw [(holds_iff hm).2 hnext] at h
    split at h
    · simp at h
    · split at h <;> simp at h

section

variable {t v : ℚ} {f : Nat}

/-- A multiple `N` of a step is at least as near to a value as those of a set, and the greater one
of two that are as near. -/
def IsClosest (t v : ℚ) (S : Nat → Prop) (N : Nat) : Prop :=
  ∀ n, S n → |N * t - v| ≤ |n * t - v| ∧ (|N * t - v| = |n * t - v| → n ≤ N)

theorem distance_below (ht : 0 < t) (hbelow : f * t ≤ v) (hn : n ≤ f) :
    |n * t - v| = v - n * t ∧ n * t ≤ f * t := by
  have hle : (n : ℚ) * t ≤ f * t := mul_le_mul_of_nonneg_right (by exact_mod_cast hn) ht.le
  exact ⟨by rw [abs_of_nonpos (by linarith)]; ring, hle⟩

theorem distance_above (ht : 0 < t) (habove : v < ((f + 1 : Nat) : ℚ) * t) (hn : f + 1 ≤ n) :
    |n * t - v| = n * t - v ∧ ((f + 1 : Nat) : ℚ) * t ≤ n * t := by
  have hle : ((f + 1 : Nat) : ℚ) * t ≤ n * t :=
    mul_le_mul_of_nonneg_right (by exact_mod_cast hn) ht.le
  exact ⟨abs_of_nonneg (by linarith), hle⟩

theorem isClosest_floor {S : Nat → Prop} (ht : 0 < t) (hbelow : f * t ≤ v)
    (habove : v < ((f + 1 : Nat) : ℚ) * t)
    (hfar : ∀ n, f + 1 ≤ n → S n → v - f * t < ((f + 1 : Nat) : ℚ) * t - v) :
    IsClosest t v S f := by
  intro n hn
  rw [(distance_below ht hbelow (Nat.le_refl f)).1]
  rcases Nat.lt_or_ge f n with hlt | hle
  · obtain ⟨hdistance, hbeyond⟩ := distance_above ht habove hlt
    have hfarther := hfar n hlt hn
    rw [hdistance]
    exact ⟨by linarith, fun heq => by linarith⟩
  · obtain ⟨hdistance, hbefore⟩ := distance_below ht hbelow hle
    rw [hdistance]
    exact ⟨by linarith, fun _ => hle⟩

theorem isClosest_next {S : Nat → Prop} (ht : 0 < t) (hbelow : f * t ≤ v)
    (habove : v < ((f + 1 : Nat) : ℚ) * t)
    (hfar : ∀ n, n ≤ f → S n → ((f + 1 : Nat) : ℚ) * t - v ≤ v - f * t) :
    IsClosest t v S (f + 1) := by
  intro n hn
  rw [(distance_above ht habove (Nat.le_refl (f + 1))).1]
  rcases Nat.lt_or_ge f n with hlt | hle
  · obtain ⟨hdistance, hbeyond⟩ := distance_above ht habove hlt
    rw [hdistance]
    refine ⟨by linarith, fun heq => ?_⟩
    have hsame : (n : ℚ) * t = ((f + 1 : Nat) : ℚ) * t := by linarith
    exact (Nat.cast_inj.1 (mul_right_cancel₀ ht.ne' hsame)).le
  · obtain ⟨hdistance, hbefore⟩ := distance_below ht hbelow hle
    have hfarther := hfar n hle hn
    rw [hdistance]
    exact ⟨by linarith, fun _ => by omega⟩

end

/-- The decimal that is taken from a grid lies in the interval and is the one nearest to the value
there, the greater one of two. -/
theorem pick?_spec {N : Nat} (hm : 0 < m) (h : (ofParts m e).pick? .away k = some N) :
    Nearest m e (N * (10 : ℚ) ^ k) ∧
      IsClosest ((10 : ℚ) ^ k) (m * unit e) (fun n => Nearest m e (n * (10 : ℚ) ^ k)) N := by
  obtain ⟨hbelow, habove⟩ := floorAt_spec hm e k
  have hten : (0 : ℚ) < (10 : ℚ) ^ k := by positivity
  have hneighbour := fun n => @nearest_neighbour m n e k hm
  have hmiddle := @prefersNext_away_iff m ((ofParts m e).floorAt k) e k hm
  have hhere := @holds_iff m ((ofParts m e).floorAt k) e k hm
  have hnext := @holds_iff m ((ofParts m e).floorAt k + 1) e k hm
  unfold pick? at h
  dsimp only at h
  generalize (ofParts m e).floorAt k = f at *
  rw [← Nat.cast_succ] at habove
  split at h
  · next hboth =>
    rw [Bool.and_eq_true, hhere, hnext] at hboth
    split at h
    · next hprefers =>
      cases h
      rw [hmiddle] at hprefers
      refine ⟨hboth.2, isClosest_next hten hbelow habove fun _ _ _ => ?_⟩
      push_cast
      linarith
    · next hprefers =>
      cases h
      rw [hmiddle, not_le] at hprefers
      refine ⟨hboth.1, isClosest_floor hten hbelow habove fun _ _ _ => ?_⟩
      push_cast
      linarith
  · next hboth =>
    rw [Bool.and_eq_true, hhere, hnext] at hboth
    split at h
    · next hholds =>
      cases h
      rw [hhere] at hholds
      refine ⟨hholds, isClosest_floor hten hbelow habove fun n hlt hn => ?_⟩
      rcases hneighbour n hn with ⟨hle, -⟩ | ⟨-, hnear⟩
      · omega
      · exact absurd ⟨hholds, hnear⟩ hboth
    · next hholds =>
      rw [hhere] at hholds
      split at h
      · next hholds' =>
        cases h
        rw [hnext] at hholds'
        refine ⟨hholds', isClosest_next hten hbelow habove fun n hle hn => ?_⟩
        rcases hneighbour n hn with ⟨-, hnear⟩ | ⟨hlt, -⟩
        · exact absurd hnear hholds
        · omega
      · cases h

/-! ## The coarsest grid -/

/-- The search ends at the first grid that has a decimal in the interval. -/
theorem search_spec {tie : DecimalTie} {r : RoundingInterval} {fuel : Nat} {k : Int}
    (hk : 0 ≤ k) (hfuel : k < fuel) (hzero : r.pick? tie 0 ≠ none) :
    ∃ j N, 0 ≤ j ∧ j ≤ k ∧ r.search tie fuel k = ⟨N, j⟩ ∧ r.pick? tie j = some N ∧
      ∀ i, j < i → i ≤ k → r.pick? tie i = none := by
  induction fuel generalizing k with
  | zero => omega
  | succ fuel ih =>
    rw [search]
    cases hpick : r.pick? tie k with
    | some N => exact ⟨k, N, hk, Int.le_refl k, rfl, hpick, fun i hlt hle => by omega⟩
    | none =>
      have hpos : k ≠ 0 := by
        rintro rfl
        exact hzero hpick
      obtain ⟨j, N, hj, hle, hsearch, hfound, hcoarser⟩ :=
        ih (k := k - 1) (by omega) (by omega)
      refine ⟨j, N, hj, by omega, hsearch, hfound, fun i hlt hle => ?_⟩
      rcases Int.lt_or_eq_of_le hle with hlt' | rfl
      · exact hcoarser i hlt (by omega)
      · exact hpick

theorem two_pow_le_ten_pow : ∀ l < 65, 2 ^ (l + 2) ≤ 10 ^ (l * 30103 / 100000 + 3) := by
  decide

/-- The first grid is coarser than the interval. -/
theorem topPlace_spec (hm : 0 < m) (hone : 1 ≤ m * unit e) (hmax : m * unit e < unit 64) :
    0 ≤ (ofParts m e).topPlace ∧ (ofParts m e).topPlace < 40 ∧
      2 * (m * unit e) < (10 : ℚ) ^ ((ofParts m e).topPlace + 1) := by
  obtain ⟨hscale, -, hvalue, -⟩ := ofParts_spec hm e
  have hscale' : (0 : ℚ) < (ofParts m e).scale := by exact_mod_cast hscale
  have hratio : ((ofParts m e).value : ℚ) / (ofParts m e).scale = m * unit e := by
    rw [hvalue, mul_div_cancel_right₀ _ hscale'.ne']
  have hpositive : 0 < (ofParts m e).value := by
    have : (0 : ℚ) < (ofParts m e).value := by
      rw [hvalue]
      exact mul_pos (by linarith) hscale'
    exact_mod_cast this
  obtain ⟨hlow, hhigh⟩ := ratio_bounds hpositive hscale
  rw [hratio] at hlow hhigh
  unfold topPlace
  generalize (Nat.log2 (ofParts m e).value : Int) - Nat.log2 (ofParts m e).scale = size at *
  have hleast : 0 ≤ size := by
    by_contra hneg
    have hunit := unit_le_unit (show size + 1 ≤ 0 by omega)
    have hzero : unit 0 = 1 := rfl
    linarith
  have hgreatest : size < 65 := by
    by_contra hge
    have hunit := unit_le_unit (show 64 ≤ size - 1 by omega)
    linarith
  obtain ⟨l, rfl⟩ := Int.eq_ofNat_of_zero_le hleast
  have hplace : (l : Int) * 30103 / 100000 + 2 + 1 = (l * 30103 / 100000 + 3 : Nat) := by omega
  dsimp only
  refine ⟨by omega, by omega, ?_⟩
  rw [hplace, zpow_natCast]
  calc 2 * (m * unit e) < 2 * unit (l + 1) := by linarith
    _ = ((2 ^ (l + 2) : Nat) : ℚ) := by
      rw [← unit_succ, show (l : Int) + 1 + 1 = (l + 2 : Nat) by omega, unit_natCast]
      push_cast
      rfl
    _ ≤ _ := by exact_mod_cast two_pow_le_ten_pow l (by omega)

theorem pos_of_nearest (hm : 0 < m) (h : Nearest m e q) : 0 < q := by
  obtain ⟨hlow, -, -⟩ := h
  have hone : (1 : ℚ) ≤ m := by exact_mod_cast hm
  have hbelow := placeBelow_le m e
  have hstart : 0 < ((m : ℚ) - placeBelow m e) * unit e := mul_pos (by linarith) (unit_pos e)
  linarith

/-- No decimal of a grid above the first one lies in the interval. -/
theorem not_nearest_above_top {j : Int} (hm : 0 < m) (hone : 1 ≤ m * unit e)
    (hmax : m * unit e < unit 64) (hj : (ofParts m e).topPlace < j) :
    ¬ Nearest m e (n * (10 : ℚ) ^ j) := by
  intro h
  obtain ⟨-, -, htop⟩ := topPlace_spec hm hone hmax
  have hten : (0 : ℚ) < (10 : ℚ) ^ j := by positivity
  have hn : (1 : ℚ) ≤ n := by
    have hpos := pos_of_nearest hm h
    have : (0 : ℚ) < n := (mul_pos_iff_of_pos_right hten).1 hpos
    exact_mod_cast this
  obtain ⟨-, hhigh, -⟩ := h
  have hgrid : (10 : ℚ) ^ ((ofParts m e).topPlace + 1) ≤ (10 : ℚ) ^ j :=
    zpow_le_zpow_right₀ (by norm_num) (by omega)
  have hm' : (1 : ℚ) ≤ m := by exact_mod_cast hm
  have hunit := unit_pos e
  nlinarith

/-- The search gives a decimal of the coarsest grid that has one in the interval, and there the one
nearest to the value. -/
theorem search_top (hm : 0 < m) (hone : 1 ≤ m * unit e) (hmax : m * unit e < unit 64)
    (hwhole : ∃ v : Nat, m * unit e = v) :
    ∃ (j N : Nat), (ofParts m e).search .away 40 (ofParts m e).topPlace = ⟨N, j⟩ ∧
      Nearest m e (N * (10 : ℚ) ^ j) ∧
      IsClosest ((10 : ℚ) ^ j) (m * unit e) (fun n => Nearest m e (n * (10 : ℚ) ^ j)) N ∧
      ∀ i n : Nat, j < i → ¬ Nearest m e (n * (10 : ℚ) ^ i) := by
  obtain ⟨htop, hfuel, -⟩ := topPlace_spec hm hone hmax
  have hzero : (ofParts m e).pick? .away 0 ≠ none := by
    obtain ⟨v, hv⟩ := hwhole
    intro hnone
    have hnear := nearest_self m e
    rw [hv, ← mul_one (v : ℚ), ← zpow_zero (10 : ℚ)] at hnear
    exact not_nearest_of_pick? hm hnone hnear
  obtain ⟨j, N, hj, -, hsearch, hpick, hcoarser⟩ := search_spec htop hfuel hzero
  obtain ⟨j, rfl⟩ := Int.eq_ofNat_of_zero_le hj
  obtain ⟨hnear, hclosest⟩ := pick?_spec hm hpick
  simp only [zpow_natCast] at hnear hclosest
  refine ⟨j, N, hsearch, hnear, hclosest, fun i n hlt hn => ?_⟩
  rw [← zpow_natCast] at hn
  rcases Int.lt_or_le (ofParts m e).topPlace i with habove | hle
  · exact not_nearest_above_top hm hone hmax habove hn
  · exact not_nearest_of_pick? hm (hcoarser i (by omega) hle) hn

end RoundingInterval

/-! ## The text of a whole number -/

theorem Decimal.stripZeros_spec (fuel : Nat) (d : Decimal) (h : 0 ≤ d.exponent) :
    0 ≤ (Decimal.stripZeros fuel d).exponent ∧
      (Decimal.stripZeros fuel d).digits * 10 ^ (Decimal.stripZeros fuel d).exponent.toNat =
        d.digits * 10 ^ d.exponent.toNat := by
  induction fuel generalizing d with
  | zero => exact ⟨h, rfl⟩
  | succ fuel ih =>
    rw [Decimal.stripZeros]
    split
    · next hzero =>
      obtain ⟨hexponent, hdigits⟩ := ih ⟨d.digits / 10, d.exponent + 1⟩ (by dsimp only; omega)
      refine ⟨hexponent, hdigits.trans ?_⟩
      dsimp only
      have hstrip := Nat.div_add_mod d.digits 10
      rw [hzero.2, Nat.add_zero] at hstrip
      rw [show (d.exponent + 1).toNat = d.exponent.toNat + 1 by omega, Nat.pow_succ,
        Nat.mul_comm _ 10, ← Nat.mul_assoc, Nat.mul_comm _ 10, hstrip]
    · exact ⟨h, rfl⟩

/-- Zeros at the end of the digits multiply by powers of ten. -/
theorem Numeral.toDigits_mul_pow (hn : 0 < n) (count : Nat) :
    Nat.toDigits 10 (n * 10 ^ count) = Nat.toDigits 10 n ++ List.replicate count '0' := by
  induction count with
  | zero => simp
  | succ count ih =>
    have hlast := Nat.toDigits_append_toDigits (b := 10) (n := n * 10 ^ count) (d := 0) (by decide)
      (by positivity) (by decide)
    rw [Nat.add_zero, ih] at hlast
    rw [Nat.pow_succ, Nat.mul_comm _ 10, Nat.mul_left_comm, ← hlast, List.replicate_succ',
      List.append_assoc]
    rfl

namespace Double

theorem lay_whole {digits : List Char} {k : Int} (hne : digits ≠ []) (hk : 0 ≤ k) :
    DoubleLayout.text.lay digits (k + digits.length) = digits ++ List.replicate k.toNat '0' := by
  have hlength : 0 < digits.length := List.length_pos_of_ne_nil hne
  have hpoint : ¬ k + digits.length ≤ 0 := by omega
  have hwhole : (digits.length : Int) ≤ k + digits.length := by omega
  simp [DoubleLayout.lay, DoubleLayout.text, hpoint, hwhole]

theorem toList_toString_signed (s : Bool) (hn : 0 < n) : (toString (signed s n)).toList =
    (if s then ['-'] else []) ++ Nat.toDigits 10 n := by
  cases s with
  | false => exact Numeral.toList_toString_natCast n
  | true =>
    obtain ⟨m, rfl⟩ := Nat.exists_eq_succ_of_ne_zero hn.ne'
    exact Numeral.toList_toString_negSucc m

theorem toText_finite {s : Bool} {h : IsDoubleForm m e} {j N : Nat} (hm : 0 < m) (hN : 0 < N)
    (hsearch : (RoundingInterval.ofParts m e).search .away 40
      (RoundingInterval.ofParts m e).topPlace = ⟨N, j⟩) :
    (Double.finite s m e h).toText = toString (signed s (N * 10 ^ j)) := by
  obtain ⟨hexponent, hdigits⟩ := Decimal.stripZeros_spec 40 ⟨N, j⟩ (Int.natCast_nonneg j)
  have hshortest : Decimal.shortest .away m e = Decimal.stripZeros 40 ⟨N, j⟩ := by
    rw [Decimal.shortest, if_neg hm.ne']
    exact congrArg (Decimal.stripZeros 40) hsearch
  generalize Decimal.stripZeros 40 ⟨N, j⟩ = d at *
  dsimp only at hdigits
  rw [Int.toNat_natCast] at hdigits
  have hpositive : 0 < N * 10 ^ j := by positivity
  have hd : 0 < d.digits := by
    rw [← hdigits] at hpositive
    exact Nat.pos_of_mul_pos_right hpositive
  have hbody : DoubleLayout.text.lay (Nat.toDigits 10 d.digits)
      (d.exponent + (Nat.toDigits 10 d.digits).length) = Nat.toDigits 10 (N * 10 ^ j) := by
    rw [lay_whole Nat.toDigits_ne_nil hexponent, ← hdigits, Numeral.toDigits_mul_pow hd]
  rw [← String.toList_inj, toList_toString_signed s hpositive, ← hbody, ← hshortest, toText, format]
  dsimp only
  rw [if_neg hm.ne', String.toList_ofList]
  rfl

/-- An integer is the shortest one that is rounded to a double: no other such integer ends in more
zeros, and of those with as many zeros none is closer to the double; of two that are as close it is
the one farther from zero. -/
structure IsShortest (x : Double) (n : Int) : Prop where
  rounds : ofInt n = x
  fewest : ∀ k : Int, ofInt k = x → ∀ i : Nat, 10 ^ i ∣ k → 10 ^ i ∣ n
  closest : ∀ k : Int, ofInt k = x → (∀ i : Nat, 10 ^ i ∣ n → 10 ^ i ∣ k) →
    ∀ v, x.value? = some v → |n - v| ≤ |k - v| ∧ (|n - v| = |k - v| → |k| ≤ |n|)

theorem ofInt_eq_finite_iff {s : Bool} {h : IsDoubleForm m e} {k : Int} :
    ofInt k = .finite s m e h ↔ decide (k < 0) = s ∧ Nearest m e k.natAbs := by
  rw [ofInt, ofRatio_eq_finite_iff Nat.one_pos, Nat.cast_one, div_one]

theorem eq_signed {s : Bool} {k : Int} (h : decide (k < 0) = s) : k = signed s k.natAbs := by
  subst h
  by_cases hk : k < 0
  · rw [decide_eq_true hk]
    simp only [signed, if_true]
    omega
  · rw [decide_eq_false hk]
    simp only [signed, Bool.false_eq_true, if_false]
    omega

/-- A finite double has one shortest integer at most. -/
theorem IsShortest.unique {x : Double} {n n' : Int} {v : ℚ} (hv : x.value? = some v)
    (h : IsShortest x n) (h' : IsShortest x n') : n = n' := by
  obtain ⟨hle, hfarther⟩ := h.closest n' h'.rounds (h'.fewest n h.rounds) v hv
  obtain ⟨hle', hfarther'⟩ := h'.closest n h.rounds (h.fewest n' h'.rounds) v hv
  have hdistance := le_antisymm hle hle'
  obtain ⟨s, m, e, hform, rfl, -⟩ := exists_of_value? hv
  have hsign := (ofInt_eq_finite_iff.1 h.rounds).1
  have hsign' := (ofInt_eq_finite_iff.1 h'.rounds).1
  have habs := le_antisymm (hfarther' hdistance.symm) (hfarther hdistance)
  rw [Int.abs_eq_natAbs, Int.abs_eq_natAbs, Nat.cast_inj] at habs
  rw [eq_signed hsign, eq_signed hsign', habs]

theorem abs_signed_sub (s : Bool) (n : Nat) (m : Nat) (e : Int) :
    |(signed s n : ℚ) - signed s m * unit e| = |(n : ℚ) - m * unit e| := by
  cases s with
  | false => simp [signed]
  | true =>
    rw [← abs_neg]
    congr 1
    simp [signed]
    ring

theorem decide_signed_neg (s : Bool) (hn : 0 < n) : decide (signed s n < 0) = s := by
  cases s with
  | false => simp [signed]
  | true => simpa [signed] using hn

theorem ten_pow_dvd_iff {i : Nat} {k : Int} : (10 : Int) ^ i ∣ k ↔ 10 ^ i ∣ k.natAbs := by
  rw [← Int.natAbs_dvd_natAbs, Int.natAbs_pow]
  rfl

theorem isShortest_of_search {s : Bool} {h : IsDoubleForm m e} {j N : Nat} (hm : 0 < m)
    (hnear : Nearest m e (N * (10 : ℚ) ^ j))
    (hclosest : RoundingInterval.IsClosest ((10 : ℚ) ^ j) (m * unit e)
      (fun n => Nearest m e (n * (10 : ℚ) ^ j)) N)
    (hcoarser : ∀ i n : Nat, j < i → ¬ Nearest m e (n * (10 : ℚ) ^ i)) :
    IsShortest (.finite s m e h) (signed s (N * 10 ^ j)) where
  rounds := by
    have hpos : 0 < N * 10 ^ j := by
      have := RoundingInterval.pos_of_nearest hm hnear
      exact_mod_cast this
    rw [ofInt_eq_finite_iff, natAbs_signed]
    push_cast
    exact ⟨decide_signed_neg s hpos, hnear⟩
  fewest := by
    intro k hk i hdvd
    rw [ten_pow_dvd_iff] at hdvd ⊢
    rw [natAbs_signed]
    rcases Nat.lt_or_ge j i with hlt | hle
    · obtain ⟨n, hn⟩ := hdvd
      obtain ⟨-, hk⟩ := ofInt_eq_finite_iff.1 hk
      rw [hn, Nat.mul_comm] at hk
      push_cast at hk
      exact absurd hk (hcoarser i n hlt)
    · exact Dvd.dvd.mul_left (Nat.pow_dvd_pow 10 hle) N
  closest := by
    intro k hk hdvd v hv
    cases hv
    obtain ⟨hs, hk⟩ := ofInt_eq_finite_iff.1 hk
    have hmultiple := hdvd j (ten_pow_dvd_iff.2 (by rw [natAbs_signed]; exact Nat.dvd_mul_left _ N))
    obtain ⟨n, hn⟩ := ten_pow_dvd_iff.1 hmultiple
    rw [Nat.mul_comm] at hn
    have hkn : k = signed s (n * 10 ^ j) := (eq_signed hs).trans (by rw [hn])
    rw [hn] at hk
    push_cast at hk
    obtain ⟨hle, hties⟩ := hclosest n hk
    rw [hkn, abs_signed_sub, abs_signed_sub, Int.abs_eq_natAbs, Int.abs_eq_natAbs, natAbs_signed,
      natAbs_signed]
    push_cast
    exact ⟨hle, fun heq => by exact_mod_cast Nat.mul_le_mul_right (10 ^ j) (hties heq)⟩

/-- The text of a whole double is that of the shortest integer that is rounded to it. -/
theorem exists_isShortest {x : Double} {v : Int} (hv : x.value? = some (v : ℚ)) (hne : v ≠ 0)
    (hmax : v.natAbs < 2 ^ 64) : ∃ n : Int, x.toText = toString n ∧ IsShortest x n := by
  obtain ⟨s, m, e, h, rfl, hvalue⟩ := exists_of_value? hv
  have hsize : (m : ℚ) * unit e = v.natAbs := by
    rw [← abs_value s, ← hvalue, Nat.cast_natAbs]
    push_cast
    rfl
  have hone : (1 : ℚ) ≤ m * unit e := by
    rw [hsize]
    exact_mod_cast Int.natAbs_pos.2 hne
  have hm : 0 < m := by
    by_contra hzero
    rw [Nat.eq_zero_of_not_pos hzero] at hone
    norm_num at hone
  have hbound : (m : ℚ) * unit e < unit 64 := by
    rw [hsize, show (64 : Int) = (64 : Nat) from rfl, unit_natCast]
    exact_mod_cast hmax
  obtain ⟨j, N, hsearch, hnear, hclosest, hcoarser⟩ :=
    RoundingInterval.search_top hm hone hbound ⟨_, hsize⟩
  have hN : 0 < N := by
    have := RoundingInterval.pos_of_nearest hm hnear
    have : 0 < N * 10 ^ j := by exact_mod_cast this
    exact Nat.pos_of_mul_pos_right this
  exact ⟨_, toText_finite hm hN hsearch, isShortest_of_search hm hnear hclosest hcoarser⟩

theorem natAbs_of_ofInt_eq {n k : Int} (hn : n.natAbs ≤ 2 ^ 53) (hk : ofInt k = ofInt n) :
    k = n ∨ n.natAbs = 2 ^ 53 ∧ k.natAbs = 2 ^ 53 + 1 := by
  have hvalue := value?_ofInt hn
  have hvalue' := hvalue
  rw [← hk] at hvalue'
  rcases Nat.lt_or_ge (2 ^ 53) k.natAbs with hlarge | hsmall
  · obtain ⟨x, hx⟩ := exists_value?_natCast (Nat.le_refl (2 ^ 53))
    have hfull := (abs_of_ofInt hvalue' hx).1 hlarge.le
    have hnext : (Double.finite false (2 ^ 52 + 1) 1 (by decide)).value? =
        some ((2 ^ 53 + 2 : Nat) : ℚ) := by
      norm_num [value?, signed, unit]
    have hbeyond := (abs_of_ofInt hvalue' hnext).1
    rw [← Int.cast_abs, Int.abs_eq_natAbs] at hfull hbeyond
    have hfull' : 2 ^ 53 ≤ n.natAbs := by exact_mod_cast hfull
    refine .inr ⟨by omega, ?_⟩
    by_contra hne
    have : 2 ^ 53 + 2 ≤ n.natAbs := by exact_mod_cast hbeyond (by omega)
    omega
  · rw [value?_ofInt hsmall, Option.some_inj, Int.cast_inj] at hvalue'
    exact .inl hvalue'

/-- Up to 2^53 an integer is the shortest one of its double. -/
theorem isShortest_ofInt {n : Int} (hn : n.natAbs ≤ 2 ^ 53) : IsShortest (ofInt n) n where
  rounds := rfl
  fewest := by
    intro k hk i hdvd
    rcases natAbs_of_ofInt_eq hn hk with rfl | ⟨-, hnext⟩
    · exact hdvd
    · -- the one integer beyond has no zero at its end
      rw [ten_pow_dvd_iff, hnext] at hdvd
      cases i with
      | zero => exact one_dvd n
      | succ i =>
        have hten : 10 ∣ 2 ^ 53 + 1 := (Dvd.intro_left (10 ^ i) (Nat.pow_succ 10 i).symm).trans hdvd
        omega
  closest := by
    intro k hk hdvd v hv
    rw [value?_ofInt hn] at hv
    cases hv
    rw [sub_self, abs_zero]
    refine ⟨abs_nonneg _, fun heq => ?_⟩
    have hsame : k = n := by
      have := sub_eq_zero.1 (abs_eq_zero.1 heq.symm)
      exact_mod_cast this
    rw [hsame]

end Double

end SynthTable
