import SynthTable.Proofs.Number.Digits
import SynthTable.Proofs.Number.Values

/-!
# What numeric texts denote

A text denotes a number if it is written as a decimal number: a sign or none, digits with or
without a point, and a power of ten or none (`Numeral.Denotes`). Each such text is read as the
double nearest to the number (`Numeral.double?_of_denotes`), whatever its length, and no other text
is read as a finite double (`Numeral.exists_denotes`). Where there is no point and no power of ten
the text is that of an integer (`Numeral.exists_integer?_of_plain`).
-/

namespace SynthTable

namespace Double

variable {n : Nat} {e : Int} {q : ℚ}

/-! ## Decimal numbers -/

theorem unit_le_ten_pow (k : Nat) : unit (3 * k) ≤ (10 : ℚ) ^ (k : Int) := by
  rw [unit, zpow_mul, zpow_natCast, zpow_natCast]
  exact pow_le_pow_left₀ (by norm_num) (by norm_num) k

theorem ten_pow_neg_le (k : Nat) : (10 : ℚ) ^ (-k : Int) ≤ unit (-(3 * k)) := by
  rw [zpow_neg, unit, zpow_neg]
  exact inv_anti₀ (unit_pos _) (unit_le_ten_pow k)

/-- The length of a number bounds it from both sides. -/
theorem pow_length_toDigits (hn : 0 < n) :
    (10 : ℚ) ^ (((Nat.toDigits 10 n).length : Int) - 1) ≤ n ∧
      (n : ℚ) < (10 : ℚ) ^ ((Nat.toDigits 10 n).length : Int) := by
  have hpos : 0 < (Nat.toDigits 10 n).length := Nat.length_toDigits_pos
  have hle (k : Nat) (hk : 0 < k) : (Nat.toDigits 10 n).length ≤ k ↔ n < 10 ^ k :=
    Nat.length_toDigits_le_iff (by decide) hk
  generalize (Nat.toDigits 10 n).length = length at *
  have hhigh : n < 10 ^ length := (hle length hpos).1 (Nat.le_refl _)
  have hlow : 10 ^ (length - 1) ≤ n := by
    rcases Nat.eq_or_lt_of_le hpos with rfl | hmore
    · exact hn
    · by_contra hlt
      have := (hle (length - 1) (by omega)).2 (not_le.1 hlt)
      omega
  constructor
  · rw [show (length : Int) - 1 = (length - 1 : Nat) by omega, zpow_natCast]
    exact_mod_cast hlow
  · rw [zpow_natCast]
    exact_mod_cast hhigh

/-- A decimal number is read as the double nearest to it. -/
theorem value?_ofDecimal (s : Bool) (n : Nat) (e : Int) :
    (ofDecimal s n e).value? = (ofRat (signed s n * (10 : ℚ) ^ e)).value? := by
  rcases Nat.eq_zero_or_pos n with rfl | hn
  · have hzero : (signed s 0 : ℚ) * (10 : ℚ) ^ e = 0 := by cases s <;> simp [signed]
    rw [hzero, value?_ofRat_eq_zero (by rw [abs_zero]; exact (unit_pos _).le)]
    simp [ofDecimal, zero, value?, signed]
  obtain ⟨hlow, hhigh⟩ := pow_length_toDigits hn
  have hpos : (0 : ℚ) < (10 : ℚ) ^ e := by positivity
  have hn' : (0 : ℚ) < n := by exact_mod_cast hn
  have hsize := abs_signed_mul s n hpos
  have hnegative : decide ((signed s n : ℚ) * (10 : ℚ) ^ e < 0) = s := by
    have hproduct : (0 : ℚ) < n * (10 : ℚ) ^ e := by positivity
    cases s with
    | false => simpa [signed] using hproduct.le
    | true => simpa [signed] using hproduct
  generalize hq : (signed s n : ℚ) * (10 : ℚ) ^ e = q at *
  simp only [ofDecimal, if_neg hn.ne', Nat.pow_eq]
  split_ifs with hlarge hsmall hwhole
  · refine (value?_ofRat_eq_none_iff.2 (overflow_le_unit.trans ?_)).symm
    rw [hsize]
    calc unit 1024 ≤ unit (3 * (400 : Nat)) := unit_le_unit (by decide)
      _ ≤ (10 : ℚ) ^ (400 : Int) := unit_le_ten_pow 400
      _ ≤ (10 : ℚ) ^ (((Nat.toDigits 10 n).length : Int) - 1 + e) :=
          zpow_le_zpow_right₀ (by norm_num) (by omega)
      _ = (10 : ℚ) ^ (((Nat.toDigits 10 n).length : Int) - 1) * (10 : ℚ) ^ e :=
          zpow_add₀ (by norm_num) _ _
      _ ≤ n * (10 : ℚ) ^ e := mul_le_mul_of_nonneg_right hlow hpos.le
  · rw [value?_ofRat_eq_zero]
    · simp [zero, value?, signed]
    rw [hsize]
    calc (n : ℚ) * (10 : ℚ) ^ e ≤ (10 : ℚ) ^ ((Nat.toDigits 10 n).length : Int) * (10 : ℚ) ^ e :=
          mul_le_mul_of_nonneg_right hhigh.le hpos.le
      _ = (10 : ℚ) ^ (((Nat.toDigits 10 n).length : Int) + e) := (zpow_add₀ (by norm_num) _ _).symm
      _ ≤ (10 : ℚ) ^ (-401 : Int) := zpow_le_zpow_right₀ (by norm_num) (by omega)
      _ ≤ unit (-(3 * (401 : Nat))) := ten_pow_neg_le 401
      _ ≤ unit (-1075) := unit_le_unit (by decide)
  · have hratio : ((n * 10 ^ e.toNat : Nat) : ℚ) / (1 : Nat) = |q| := by
      rw [hsize]
      push_cast
      rw [div_one, ← zpow_natCast, Int.toNat_of_nonneg hwhole]
    rw [← ofRatio_eq_ofRat Nat.one_pos hratio, hnegative]
  · have hratio : (n : ℚ) / (10 ^ (-e).toNat : Nat) = |q| := by
      rw [hsize]
      push_cast
      rw [← zpow_natCast, Int.toNat_of_nonneg (by omega), zpow_neg, div_inv_eq_mul]
    rw [← ofRatio_eq_ofRat (by positivity) hratio, hnegative]

end Double

namespace Numeral

/-! ## What a text denotes -/

/-- The ways to write a sign; none is that of a positive number. -/
inductive IsSign : (negative : Bool) → List Char → Prop where
  | none : IsSign false []
  | plus : IsSign false ['+']
  | minus : IsSign true ['-']

/-- Digits with or without a point among them, the number that they make without the point, and the
count of digits after it. -/
inductive IsMantissa : List Char → Nat → Nat → Prop where
  | whole {ds} : ds ≠ [] → (∀ d ∈ ds, isDigit d = true) → IsMantissa ds (value ds) 0
  | point {ds es} : ds ++ es ≠ [] → (∀ d ∈ ds, isDigit d = true) → (∀ d ∈ es, isDigit d = true) →
      IsMantissa (ds ++ '.' :: es) (value (ds ++ es)) es.length

/-- A power of ten, or nothing. -/
inductive IsExponent : List Char → Int → Prop where
  | none : IsExponent [] 0
  | some {c negative sign ds} : c = 'e' ∨ c = 'E' → IsSign negative sign → ds ≠ [] →
      (∀ d ∈ ds, isDigit d = true) →
      IsExponent (c :: (sign ++ ds)) (Double.signed negative (value ds))

/-- The number that a text denotes as a decimal number. -/
inductive Denotes : List Char → ℚ → Prop where
  | intro {negative sign mantissa n places exponent e} : IsSign negative sign →
      IsMantissa mantissa n places → IsExponent exponent e →
      Denotes (sign ++ (mantissa ++ exponent))
        (Double.signed negative n * (10 : ℚ) ^ (e - (places : Int)))

/-! ## Reading the parts -/

variable {cs ds : List Char} {negative : Bool} {n : Nat} {e : Int} {q : ℚ}

theorem sign_of_isSign {sign' : List Char} (h : IsSign negative sign')
    (hhead : ∀ c ∈ cs.head?, c ≠ '-' ∧ c ≠ '+') : sign (sign' ++ cs) = (negative, cs) := by
  cases h with
  | plus | minus => rfl
  | none => exact sign_of_head hhead

theorem exists_isSign (cs : List Char) :
    ∃ sign', IsSign (sign cs).1 sign' ∧ cs = sign' ++ (sign cs).2 := by
  unfold sign
  split
  · exact ⟨_, .minus, rfl⟩
  · exact ⟨_, .plus, rfl⟩
  · exact ⟨_, .none, rfl⟩

theorem head_ne_sign (hds : ∀ d ∈ ds, isDigit d = true) : ∀ c ∈ ds.head?, c ≠ '-' ∧ c ≠ '+' :=
  fun c hc => ne_sign_of_isDigit (hds c (List.mem_of_mem_head? hc))

theorem exponent?_eq_some_iff : exponent? cs = some e ↔ IsExponent cs e := by
  constructor
  · intro h
    cases cs with
    | nil =>
      cases h
      exact .none
    | cons c rest =>
      obtain ⟨sign', hsign, hrest⟩ := exists_isSign rest
      simp only [exponent?] at h
      generalize sign rest = parts at *
      split at h
      · next hletter =>
        split at h
        · next hdigits =>
          cases h
          rw [hrest]
          exact .some hletter hsign hdigits.1 (List.all_eq_true.1 hdigits.2)
        · cases h
      · cases h
  · rintro (_ | ⟨hletter, hsign, hne, hds⟩)
    · rfl
    · rw [exponent?, if_pos hletter, sign_of_isSign hsign (head_ne_sign hds)]
      exact if_pos ⟨hne, List.all_eq_true.2 hds⟩

theorem IsExponent.head (h : IsExponent cs e) : ∀ c ∈ cs.head?, isDigit c = false ∧ c ≠ '.' := by
  cases h with
  | none => exact nofun
  | some hletter =>
    rintro _ ⟨⟩
    rcases hletter with rfl | rfl <;> decide

theorem decimal?_eq_some_iff {x : Double} : decimal? negative cs = some x ↔
    ∃ mantissa n places exponent e, cs = mantissa ++ exponent ∧ IsMantissa mantissa n places ∧
      IsExponent exponent e ∧ x = Double.ofDecimal negative n (e - (places : Int)) := by
  constructor
  · intro h
    have hcs : cs.takeWhile isDigit ++ cs.dropWhile isDigit = cs := List.takeWhile_append_dropWhile
    have hwhole : ∀ c ∈ cs.takeWhile isDigit, isDigit c = true :=
      fun c hc => List.mem_takeWhile_imp hc
    simp only [decimal?] at h
    generalize cs.takeWhile isDigit = whole at *
    generalize cs.dropWhile isDigit = rest at *
    subst hcs
    split at h
    · next more =>
      have hmore : more.takeWhile isDigit ++ more.dropWhile isDigit = more :=
        List.takeWhile_append_dropWhile
      have hes : ∀ c ∈ more.takeWhile isDigit, isDigit c = true :=
        fun c hc => List.mem_takeWhile_imp hc
      dsimp only at h
      generalize more.takeWhile isDigit = es at *
      generalize more.dropWhile isDigit = exponent at *
      subst hmore
      split at h
      · cases h
      · next hne =>
        obtain ⟨e, hexponent, rfl⟩ := Option.map_eq_some_iff.1 h
        refine ⟨whole ++ '.' :: es, _, es.length, exponent, e, by simp, .point ?_ hwhole hes,
          exponent?_eq_some_iff.1 hexponent, rfl⟩
        simpa using hne
    · split at h
      · cases h
      · next hne =>
        obtain ⟨e, hexponent, rfl⟩ := Option.map_eq_some_iff.1 h
        refine ⟨whole, _, 0, rest, e, rfl, .whole ?_ hwhole, exponent?_eq_some_iff.1 hexponent, ?_⟩
        · simpa using hne
        · simp
  · rintro ⟨mantissa, n, places, exponent, e, rfl, hmantissa, hexponent, rfl⟩
    have hread := exponent?_eq_some_iff.2 hexponent
    cases hmantissa with
    | @whole ds hne hds =>
      obtain ⟨htake, hdrop⟩ := Text.takeWhile_run hds fun c hc => (hexponent.head c hc).1
      simp only [decimal?, htake, hdrop]
      split
      · exact absurd rfl (hexponent.head '.' rfl).2
      · simp [hne, hread]
    | @point ds es hne hds hes =>
      have hpoint : ∀ c ∈ ('.' :: (es ++ exponent)).head?, isDigit c = false := by
        rintro c ⟨⟩
        decide
      obtain ⟨htake, hdrop⟩ := Text.takeWhile_run hds hpoint
      obtain ⟨htake', hdrop'⟩ := Text.takeWhile_run hes fun c hc => (hexponent.head c hc).1
      have hsome : ¬ (ds = [] ∧ es = []) := by simpa using hne
      simp [decimal?, htake, hdrop, htake', hdrop', hsome, hread]

theorem IsMantissa.exists_cons {mantissa : List Char} {n places : Nat}
    (h : IsMantissa mantissa n places) :
    ∃ c more, mantissa = c :: more ∧ (isDigit c = true ∨ c = '.') := by
  cases h with
  | whole hne hds =>
    obtain ⟨c, more, rfl⟩ := List.exists_cons_of_ne_nil hne
    exact ⟨c, more, rfl, .inl (hds c List.mem_cons_self)⟩
  | @point ds es hne hds hes =>
    cases ds with
    | nil => exact ⟨_, _, rfl, .inr rfl⟩
    | cons c ds => exact ⟨_, _, rfl, .inl (hds c List.mem_cons_self)⟩

theorem IsMantissa.head_ne_sign {mantissa : List Char} {places : Nat}
    (h : IsMantissa mantissa n places) (exponent : List Char) :
    ∀ c ∈ (mantissa ++ exponent).head?, c ≠ '-' ∧ c ≠ '+' := by
  obtain ⟨c, more, rfl, hc⟩ := h.exists_cons
  rintro _ ⟨⟩
  rcases hc with hc | rfl
  · exact ne_sign_of_isDigit hc
  · decide

/-- A text that denotes a number is read as the double nearest to it. -/
theorem double?_of_denotes (h : Denotes cs q) :
    ∃ x, double? cs = some x ∧ x.value? = (Double.ofRat q).value? := by
  obtain ⟨hsign, hmantissa, hexponent⟩ := h
  obtain ⟨c, more, rfl, hc⟩ := hmantissa.exists_cons
  refine ⟨_, ?_, Double.value?_ofDecimal _ _ _⟩
  have hhead := hmantissa.head_ne_sign
  simp only [List.cons_append] at hhead ⊢
  rw [double?_of_sign (sign_of_isSign hsign (hhead _)) hc]
  exact decimal?_eq_some_iff.2 ⟨_, _, _, _, _, rfl, hmantissa, hexponent, rfl⟩

/-- A text that is read as a finite double denotes a number. -/
theorem exists_denotes {x : Double} {v : ℚ} (h : double? cs = some x) (hv : x.value? = some v) :
    ∃ q, Denotes cs q := by
  obtain ⟨sign', hsign, hcs⟩ := exists_isSign cs
  simp only [double?] at h
  generalize sign cs = parts at *
  split at h
  · cases h
    cases hv
  split at h
  · cases h
    cases hv
  obtain ⟨mantissa, n, places, exponent, e, hparts, hmantissa, hexponent, -⟩ :=
    decimal?_eq_some_iff.1 h
  rw [hcs, hparts]
  exact ⟨_, .intro hsign hmantissa hexponent⟩

/-- A text is cut into digits and a power of ten in one way. -/
theorem IsMantissa.unique {mantissa mantissa' exponent exponent' : List Char}
    {n' places places' : Nat} {e' : Int} (h : IsMantissa mantissa n places)
    (hexponent : IsExponent exponent e) (h' : IsMantissa mantissa' n' places')
    (hexponent' : IsExponent exponent' e') (heq : mantissa ++ exponent = mantissa' ++ exponent') :
    n = n' ∧ places = places' ∧ e = e' := by
  have hhead := fun c hc => (hexponent.head c hc).1
  have hhead' := fun c hc => (hexponent'.head c hc).1
  have hpoint (cs : List Char) : ∀ c ∈ ('.' :: cs).head?, isDigit c = false := by
    rintro c ⟨⟩
    decide
  have hpower (hsame : exponent = exponent') : e = e' := by
    rw [← exponent?_eq_some_iff] at hexponent hexponent'
    rw [hsame, hexponent'] at hexponent
    exact (Option.some.inj hexponent).symm
  have hruns {ds ds' rest rest' : List Char} (hds : ∀ d ∈ ds, isDigit d = true)
      (hrest : ∀ c ∈ rest.head?, isDigit c = false) (hds' : ∀ d ∈ ds', isDigit d = true)
      (hrest' : ∀ c ∈ rest'.head?, isDigit c = false) (hsame : ds ++ rest = ds' ++ rest') :
      ds = ds' ∧ rest = rest' := by
    obtain ⟨htake, hdrop⟩ := Text.takeWhile_run hds hrest
    obtain ⟨htake', hdrop'⟩ := Text.takeWhile_run hds' hrest'
    rw [hsame] at htake hdrop
    exact ⟨htake.symm.trans htake', hdrop.symm.trans hdrop'⟩
  cases h with
  | whole _ hds =>
    cases h' with
    | whole _ hds' =>
      obtain ⟨rfl, hsame⟩ := hruns hds hhead hds' hhead' heq
      exact ⟨rfl, rfl, hpower hsame⟩
    | point _ hds' =>
      rw [List.append_assoc] at heq
      obtain ⟨-, rfl⟩ := hruns hds hhead hds' (hpoint _) heq
      exact absurd rfl (hexponent.head '.' rfl).2
  | point _ hds hes =>
    rw [List.append_assoc] at heq
    cases h' with
    | whole _ hds' =>
      obtain ⟨-, rfl⟩ := hruns hds (hpoint _) hds' hhead' heq
      exact absurd rfl (hexponent'.head '.' rfl).2
    | point _ hds' hes' =>
      rw [List.append_assoc] at heq
      obtain ⟨rfl, hrest⟩ := hruns hds (hpoint _) hds' (hpoint _) heq
      obtain ⟨rfl, hsame⟩ := hruns hes hhead hes' hhead' (List.cons.inj hrest).2
      exact ⟨rfl, rfl, hpower hsame⟩

/-- A text denotes one number at most. -/
theorem Denotes.unique {q' : ℚ} (h : Denotes cs q) (h' : Denotes cs q') : q = q' := by
  obtain @⟨_, sign', mantissa, _, _, exponent, _, hsign, hmantissa, hexponent⟩ := h
  generalize hcs : sign' ++ (mantissa ++ exponent) = cs at h'
  obtain ⟨hsign', hmantissa', hexponent'⟩ := h'
  have hparts := sign_of_isSign hsign (hmantissa.head_ne_sign exponent)
  rw [hcs, sign_of_isSign hsign' (hmantissa'.head_ne_sign _)] at hparts
  obtain ⟨rfl, heq⟩ := Prod.mk.inj hparts
  obtain ⟨rfl, rfl, rfl⟩ := hmantissa.unique hexponent hmantissa' hexponent' heq.symm
  rfl

/-- Without a point or an exponent. -/
def IsPlain (cs : List Char) : Prop := ∀ c ∈ cs, c ≠ '.' ∧ c ≠ 'e' ∧ c ≠ 'E'

theorem isPlain_digit {c : Char} (h : isDigit c = true) : c ≠ '.' ∧ c ≠ 'e' ∧ c ≠ 'E' := by
  refine ⟨?_, ?_, ?_⟩ <;>
    · rintro rfl
      revert h
      decide

theorem IsSign.isPlain {sign' : List Char} (h : IsSign negative sign') : IsPlain sign' := by
  cases h <;> simp [IsPlain]

/-- The text of an integer is plain and denotes it. -/
theorem denotes_of_integer? {k : Int} (h : integer? cs = some k) :
    IsPlain cs ∧ Denotes cs k := by
  obtain ⟨sign', hsign, hcs⟩ := exists_isSign cs
  simp only [integer?] at h
  generalize sign cs = parts at *
  split at h
  · next hdigits =>
    cases h
    have hall := List.all_eq_true.1 hdigits.2
    have hdenotes := Denotes.intro hsign (.whole hdigits.1 hall) .none
    rw [hcs]
    constructor
    · intro c hc
      rcases List.mem_append.1 hc with hc | hc
      · exact hsign.isPlain c hc
      · exact isPlain_digit (hall c hc)
    · show Denotes _ (Double.signed parts.1 (value parts.2) : Int)
      simpa using hdenotes
  · cases h

/-- A plain text that denotes a number is the text of an integer. -/
theorem exists_integer?_of_plain (hplain : IsPlain cs) (h : Denotes cs q) :
    ∃ k : Int, q = k ∧ integer? cs = some k := by
  obtain @⟨negative, _, digits, _, _, _, _, hsign, hmantissa, hexponent⟩ := h
  cases hexponent with
  | @some c _ _ _ hletter =>
    obtain ⟨-, hlower, hupper⟩ := hplain c (by simp)
    rcases hletter with rfl | rfl
    · exact absurd rfl hlower
    · exact absurd rfl hupper
  | none =>
    cases hmantissa with
    | point => exact absurd rfl (hplain '.' (by simp)).1
    | whole hne hds =>
      refine ⟨Double.signed negative (value digits), by simp, ?_⟩
      rw [List.append_nil, integer?, sign_of_isSign hsign (head_ne_sign hds)]
      exact if_pos ⟨hne, List.all_eq_true.2 hds⟩

/-- A text that is read as an integer of 64 bits denotes this integer only. -/
theorem eq_of_denotes_of_int64? {k : Int64} (h : int64? cs = some k) (hq : Denotes cs q) :
    q = k.toInt :=
  hq.unique (denotes_of_integer? (int64?_eq_some_iff.1 h)).2

end Numeral

end SynthTable
