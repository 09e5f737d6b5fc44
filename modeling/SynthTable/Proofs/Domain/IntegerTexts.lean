import SynthTable.Domain.Cast
import SynthTable.Proofs.Number.Notation

/-!
# Texts read as integers

A column of integers reads the text of an integer of 64 bits as this integer. Any other numeric text
is read as the double nearest to its number, if this is a whole number below 9 · 10^18. So the
result is the number of the text where the text has neither a point nor a power of ten, or where the
number is a double, and nowhere else (`Domain.readInteger?_denotes`). Long texts are read as other
integers than they denote, and some fractions are read as integers
(`Domain.not_exact_longTexts`).
-/

namespace SynthTable.Domain

open Numeral (Denotes IsPlain)

variable {text : String} {n : Int64} {q v : ℚ}

/-- Below this double whole numbers in another notation become integers. -/
theorem value?_castLimit : (Double.ofNat 9000000000000000000).value? =
    some ((9000000000000000000 : Nat) : ℚ) := by
  have hform : IsDoubleForm 8789062500000000 10 := by decide
  rw [Double.ofNat, Double.ofRatio_of_eq Nat.one_pos hform (by norm_num [Double.unit])]
  norm_num [Double.value?, Double.signed, Double.unit]

theorem toInt64_eq_iff {x : Double} :
    (if x.isWhole && x.sizeBelow 9000000000000000000 then some x.toInt64 else none) = some n ↔
      x.value? = some (n.toInt : ℚ) ∧ |(n.toInt : ℚ)| < 9000000000000000000 := by
  have hmin := Int64.toInt_minValue
  have hmax := Int64.toInt_maxValue
  rw [Option.ite_none_right_eq_some, Bool.and_eq_true, Option.some_inj]
  constructor
  · rintro ⟨⟨hwhole, hbelow⟩, rfl⟩
    obtain ⟨k, hk⟩ := Double.isWhole_iff_exists.1 hwhole
    have hsize := (Double.sizeBelow_iff hk value?_castLimit).1 hbelow
    have hbounds : |k| < 9000000000000000000 := by exact_mod_cast hsize
    obtain ⟨hlow, hhigh⟩ := abs_lt.1 hbounds
    have hvalue : x.toInt64.toInt = k := by
      rw [Double.toInt_toInt64 hk]
      omega
    rw [hvalue]
    exact ⟨hk, by exact_mod_cast hbounds⟩
  · rintro ⟨hvalue, hbounds⟩
    refine ⟨⟨Double.isWhole_iff_exists.2 ⟨_, hvalue⟩,
      (Double.sizeBelow_iff hvalue value?_castLimit).2 (by exact_mod_cast hbounds)⟩, ?_⟩
    rw [← Int64.toInt_inj, Double.toInt_toInt64 hvalue]
    have hlow := n.minValue_le_toInt
    have hhigh := n.toInt_le
    omega

/-- The integers that a text is read as: its own, or else the double nearest to its number. -/
theorem readInteger?_eq_some_iff : readInteger? text = some n ↔
    Numeral.int64? (Text.trim text.toList) = some n ∨
      Numeral.int64? (Text.trim text.toList) = none ∧
        ∃ x, Numeral.double? (Text.trim text.toList) = some x ∧ x.value? = some (n.toInt : ℚ) ∧
          |(n.toInt : ℚ)| < 9000000000000000000 := by
  rw [readInteger?]
  generalize Text.trim text.toList = cs
  cases Numeral.int64? cs with
  | some m => simp
  | none =>
    cases Numeral.double? cs with
    | none => simp
    | some x => simpa using toInt64_eq_iff

theorem lt_castLimit (h : (Double.ofRat q).value? = some v) (hv : |v| < 9000000000000000000) :
    |q| < 9000000000000000000 := by
  have hlimit := value?_castLimit
  have habove := (Double.le_of_ofRat h hlimit).1
  have hbelow := (Double.le_of_ofRat h (Double.value?_neg hlimit)).2
  push_cast at habove hbelow
  obtain ⟨hlow, hhigh⟩ := abs_lt.1 hv
  refine abs_lt.2 ⟨?_, ?_⟩
  · by_contra hle
    linarith [hbelow (not_lt.1 hle)]
  · by_contra hle
    linarith [habove (not_lt.1 hle)]

/-- A text that denotes a number and is not that of an integer of 64 bits is read as the double
nearest to the number, if this is a whole number below the limit. -/
theorem readInteger?_of_denotes (hnone : Numeral.int64? (Text.trim text.toList) = none)
    (hq : Denotes (Text.trim text.toList) q) : readInteger? text = some n ↔
      (Double.ofRat q).value? = some (n.toInt : ℚ) ∧ |(n.toInt : ℚ)| < 9000000000000000000 := by
  obtain ⟨x, hx, hvalue⟩ := Numeral.double?_of_denotes hq
  simp [readInteger?_eq_some_iff, hnone, hx, hvalue]

theorem toInt_ofInt_of_abs_lt {k : Int} (h : |k| < 9000000000000000000) :
    (Int64.ofInt k).toInt = k := by
  obtain ⟨hlow, hhigh⟩ := abs_lt.1 h
  exact Int64.toInt_ofInt_of_le (by omega) (by omega)

theorem eq_toInt_iff (h : readInteger? text = some n) (hq : Denotes (Text.trim text.toList) q) :
    q = n.toInt ↔ IsPlain (Text.trim text.toList) ∨ ∃ x : Double, x.value? = some q := by
  cases hown : Numeral.int64? (Text.trim text.toList) with
  | some m =>
    rw [readInteger?_eq_some_iff.2 (.inl hown)] at h
    cases h
    have hplain := (Numeral.denotes_of_integer? (Numeral.int64?_eq_some_iff.1 hown)).1
    exact iff_of_true (Numeral.eq_of_denotes_of_int64? hown hq) (.inl hplain)
  | none =>
    obtain ⟨hvalue, hbound⟩ := (readInteger?_of_denotes hown hq).1 h
    constructor
    · rintro rfl
      exact .inr ⟨_, hvalue⟩
    · rintro (hplain | ⟨x, hx⟩)
      · -- a plain text has its own integer, unless this is out of range
        obtain ⟨k, rfl, hk⟩ := Numeral.exists_integer?_of_plain hplain hq
        have hrange : |k| < 9000000000000000000 := by
          exact_mod_cast lt_castLimit hvalue hbound
        rw [← toInt_ofInt_of_abs_lt hrange, ← Numeral.int64?_eq_some_iff, hown] at hk
        cases hk
      · rw [Double.value?_ofRat hx] at hvalue
        exact Option.some.inj hvalue

theorem exists_denotes_of_readInteger? (h : readInteger? text = some n) :
    ∃ q, Denotes (Text.trim text.toList) q := by
  obtain hown | ⟨-, x, hx, hvalue, -⟩ := readInteger?_eq_some_iff.1 h
  · exact ⟨_, (Numeral.denotes_of_integer? (Numeral.int64?_eq_some_iff.1 hown)).2⟩
  · exact Numeral.exists_denotes hx hvalue

/-- Whatever is read, its number lies among the integers of 64 bits. -/
theorem range_of_readInteger? (h : readInteger? text = some n)
    (hq : Denotes (Text.trim text.toList) q) :
    (Int64.minValue.toInt : ℚ) ≤ q ∧ q ≤ Int64.maxValue.toInt := by
  cases hown : Numeral.int64? (Text.trim text.toList) with
  | some m =>
    rw [Numeral.eq_of_denotes_of_int64? hown hq]
    exact ⟨by exact_mod_cast m.minValue_le_toInt, by exact_mod_cast m.toInt_le⟩
  | none =>
    obtain ⟨hvalue, hbound⟩ := (readInteger?_of_denotes hown hq).1 h
    obtain ⟨hlow, hhigh⟩ := abs_lt.1 (lt_castLimit hvalue hbound)
    have hmin := Int64.toInt_minValue
    have hmax := Int64.toInt_maxValue
    rw [hmin, hmax]
    push_cast
    exact ⟨by linarith, by linarith⟩

theorem readInteger?_eq_none_iff (hq : Denotes (Text.trim text.toList) q)
    (hfraction : ∀ k : Int, q ≠ k) : readInteger? text = none ↔
      ∀ k : Int, (Double.ofRat q).value? = some (k : ℚ) → 9000000000000000000 ≤ |k| := by
  have hown : Numeral.int64? (Text.trim text.toList) = none := by
    by_contra hsome
    obtain ⟨m, hm⟩ := Option.ne_none_iff_exists'.1 hsome
    exact hfraction _ (Numeral.eq_of_denotes_of_int64? hm hq)
  rw [Option.eq_none_iff_forall_ne_some]
  constructor
  · intro hnone k hk
    by_contra hlt
    have hrange := toInt_ofInt_of_abs_lt (not_le.1 hlt)
    refine hnone (Int64.ofInt k) ((readInteger?_of_denotes hown hq).2 ?_)
    rw [hrange]
    exact ⟨hk, by exact_mod_cast not_le.1 hlt⟩
  · intro hlarge n hn
    obtain ⟨hvalue, hbound⟩ := (readInteger?_of_denotes hown hq).1 hn
    have hbelow : |n.toInt| < 9000000000000000000 := by exact_mod_cast hbound
    exact absurd (hlarge _ hvalue) (not_le.2 hbelow)

/-- Texts and the integers that they are read as. A text that is read denotes a number, and the
result is this number just if the text has neither point nor power of ten or the number is a
double. A number out of range is never read. A number with a fraction is read just if the nearest
double is a whole number below the limit. -/
theorem readInteger?_denotes (text : String) :
    (∀ n, readInteger? text = some n → ∃ q, Denotes (Text.trim text.toList) q ∧
      (q = n.toInt ↔ IsPlain (Text.trim text.toList) ∨ ∃ x : Double, x.value? = some q)) ∧
    ∀ q, Denotes (Text.trim text.toList) q →
      (q < Int64.minValue.toInt ∨ Int64.maxValue.toInt < q → readInteger? text = none) ∧
      ((∀ k : Int, q ≠ k) → (readInteger? text = none ↔ ∀ k : Int,
        (Double.ofRat q).value? = some (k : ℚ) → 9000000000000000000 ≤ |k|)) := by
  constructor
  · intro n h
    obtain ⟨q, hq⟩ := exists_denotes_of_readInteger? h
    exact ⟨q, hq, eq_toInt_iff h hq⟩
  · refine fun q hq => ⟨fun hrange => ?_, readInteger?_eq_none_iff hq⟩
    rw [Option.eq_none_iff_forall_ne_some]
    intro n hn
    obtain ⟨hlow, hhigh⟩ := range_of_readInteger? hn hq
    rcases hrange with hbelow | habove
    · exact absurd hlow (not_le.2 hbelow)
    · exact absurd hhigh (not_le.2 habove)

theorem denotes_point {whole fraction : List Char} (hne : whole ++ fraction ≠ [])
    (hwhole : whole.all Numeral.isDigit = true) (hfraction : fraction.all Numeral.isDigit = true) :
    Denotes (whole ++ '.' :: fraction)
      (Numeral.value (whole ++ fraction) / 10 ^ fraction.length) := by
  have h := Denotes.intro .none
    (.point hne (List.all_eq_true.1 hwhole) (List.all_eq_true.1 hfraction)) .none
  simpa [Double.signed, div_eq_mul_inv] using h

theorem readInteger?_denotes_decimals :
    readInteger? "10.0" = some 10 ∧ Denotes (Text.trim "10.0".toList) 10 ∧
      (∃ x : Double, x.value? = some 10) ∧
      Denotes (Text.trim "4.5".toList) (9 / 2) ∧ (∀ k : Int, (9 / 2 : ℚ) ≠ k) ∧
      readInteger? "4.5" = none := by
  have hread : readInteger? "10.0" = some 10 := by decide +kernel
  have hten : Denotes (Text.trim "10.0".toList) 10 := by
    have h := @denotes_point ['1', '0'] ['0'] (by decide) (by decide) (by decide)
    have hvalue : Numeral.value ['1', '0', '0'] = 100 := by decide
    norm_num [hvalue] at h
    exact h
  have hhalf : Denotes (Text.trim "4.5".toList) (9 / 2) := by
    have h := @denotes_point ['4'] ['5'] (by decide) (by decide) (by decide)
    have hvalue : Numeral.value ['4', '5'] = 45 := by decide
    norm_num [hvalue] at h
    exact h
  have hfraction (k : Int) : (9 / 2 : ℚ) ≠ k := by
    intro h
    have : (9 : ℚ) = (2 * k : Int) := by
      push_cast
      linarith
    have : (9 : Int) = 2 * k := by exact_mod_cast this
    omega
  have hform : IsDoubleForm 5066549580791808 (-50) := by decide
  have hdouble : (Double.finite false _ _ hform).value? = some (9 / 2) := by
    norm_num [Double.value?, Double.signed, Double.unit]
  refine ⟨hread, hten, ?_, hhalf, hfraction, ?_⟩
  · have hplain : ¬ IsPlain (Text.trim "10.0".toList) := fun h => (h '.' (by decide)).1 rfl
    obtain ⟨q, hq, hiff⟩ := (readInteger?_denotes "10.0").1 10 hread
    obtain rfl := hq.unique hten
    exact (hiff.1 (by rfl)).resolve_left hplain
  · refine (((readInteger?_denotes "4.5").2 (9 / 2) hhalf).2 hfraction).2 fun k hk => ?_
    rw [Double.value?_ofRat hdouble] at hk
    exact absurd (Option.some.inj hk) (hfraction k)

/-- The integer of a long text is another than the one that it denotes, and a long text of a
fraction is read as an integer. -/
theorem not_exact_longTexts :
    readInteger? "9007199254740993.0" = some 9007199254740992 ∧
      Denotes (Text.trim "9007199254740993.0".toList) 9007199254740993 ∧
      ¬ Denotes (Text.trim "9007199254740993.0".toList) 9007199254740992 ∧
      readInteger? "4.00000000000000000001" = some 4 ∧
      Denotes (Text.trim "4.00000000000000000001".toList) (4 + 1 / 10 ^ 20) := by
  have hlong : Denotes (Text.trim "9007199254740993.0".toList) 9007199254740993 := by
    have h := @denotes_point "9007199254740993".toList ['0'] (by decide) (by decide) (by decide)
    have hvalue : Numeral.value ("9007199254740993".toList ++ ['0']) = 90071992547409930 := by
      decide
    rw [hvalue] at h
    norm_num at h
    exact h
  refine ⟨by decide +kernel, hlong, fun h => ?_, by decide +kernel, ?_⟩
  · have hsame := h.unique hlong
    norm_num at hsame
  · have h := @denotes_point ['4'] "00000000000000000001".toList (by decide) (by decide) (by decide)
    have hvalue : Numeral.value (['4'] ++ "00000000000000000001".toList) =
        400000000000000000001 := by decide
    rw [hvalue] at h
    norm_num at h ⊢
    exact h

end SynthTable.Domain
