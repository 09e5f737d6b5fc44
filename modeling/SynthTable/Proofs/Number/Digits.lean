import SynthTable.Number.Decimal
import SynthTable.Proofs.Text.Parts

/-!
# Digits of integers

The digits of a number have it as their value, and zeros before them change nothing. So the text of
an integer of 64 bits is read back (`int64?_toString`).
-/

namespace SynthTable.Numeral

/-! ## The digits of a number -/

theorem isDigit_of_mem_toDigits {n : Nat} {c : Char} (h : c ∈ Nat.toDigits 10 n) :
    isDigit c = true := by
  have hdigit := Nat.isDigit_of_mem_toDigits (by decide) (by decide) h
  simp only [Char.isDigit, Bool.and_eq_true, decide_eq_true_eq] at hdigit
  simp only [isDigit, Bool.and_eq_true, decide_eq_true_eq]
  exact hdigit

theorem exists_toDigits_eq_cons (n : Nat) :
    ∃ c more, Nat.toDigits 10 n = c :: more ∧ isDigit c = true := by
  obtain ⟨c, more, hcons⟩ := List.exists_cons_of_ne_nil (Nat.toDigits_ne_nil (n := n) (b := 10))
  have hmem : c ∈ Nat.toDigits 10 n := by
    rw [hcons]
    exact List.mem_cons_self
  exact ⟨c, more, hcons, isDigit_of_mem_toDigits hmem⟩

/-- A positive number does not begin with a zero. -/
theorem head?_toDigits_ne_zero {n : Nat} (h : 0 < n) : (Nat.toDigits 10 n).head? ≠ some '0' := by
  induction n using Nat.strongRecOn with
  | ind n ih =>
    by_cases hlt : n < 10
    · have hall : ∀ d < 10, 0 < d → Nat.digitChar d ≠ '0' := by decide
      rw [Nat.toDigits_of_lt_base hlt]
      simpa using hall n hlt h
    · have hhead := ih (n / 10) (by omega) (by omega)
      rw [Nat.toDigits_of_base_le (by decide) (by omega),
        List.head?_append_of_ne_nil _ Nat.toDigits_ne_nil]
      exact hhead

theorem value_toDigits (n : Nat) : value (Nat.toDigits 10 n) = n :=
  Nat.ofDigitChars_ten_toDigits

theorem value_zeros (count : Nat) (digits : List Char) :
    value (List.replicate count '0' ++ digits) = value digits := by
  induction count with
  | zero => rfl
  | succ count ih =>
    rw [List.replicate_succ, List.cons_append]
    exact ih

theorem not_isBlank_of_isDigit {c : Char} (h : isDigit c = true) : Text.isBlank c = false := by
  have hcodes : ∀ n ∈ List.range' 48 10, Text.inRanges Text.blankRanges n = false := by decide
  refine hcodes c.toNat ?_
  simp only [isDigit, Bool.and_eq_true, decide_eq_true_eq] at h
  have hlow : 48 ≤ c.toNat := h.1
  have hhigh : c.toNat ≤ 57 := h.2
  rw [List.mem_range'_1]
  omega

theorem tight_of_digits {digits : List Char} (hne : digits ≠ [])
    (hdigits : ∀ c ∈ digits, isDigit c = true) : Text.IsTight digits :=
  ⟨hne, fun c hc => not_isBlank_of_isDigit (hdigits c (List.mem_of_mem_head? hc)),
    fun c hc => not_isBlank_of_isDigit (hdigits c (List.mem_of_mem_getLast? hc))⟩

theorem ne_sign_of_isDigit {c : Char} (h : isDigit c = true) : c ≠ '-' ∧ c ≠ '+' := by
  constructor <;>
    · rintro rfl
      revert h
      decide

theorem sign_of_head {cs : List Char} (h : ∀ c ∈ cs.head?, c ≠ '-' ∧ c ≠ '+') :
    sign cs = (false, cs) := by
  unfold sign
  split
  · exact absurd rfl (h '-' rfl).1
  · exact absurd rfl (h '+' rfl).2
  · rfl

/-- A text that starts with a digit or a point is not a number by name. -/
theorem double?_of_sign {cs more : List Char} {c : Char} {negative : Bool}
    (hsign : sign cs = (negative, c :: more)) (hc : isDigit c = true ∨ c = '.') :
    double? cs = decimal? negative (c :: more) := by
  have hne {d : Char} (hdigit : isDigit d = false) (hpoint : d ≠ '.') : c ≠ d := by
    rintro rfl
    rcases hc with hc | hc
    · rw [hdigit] at hc
      cases hc
    · exact hpoint hc
  have hlower : plainLower c = c := by
    refine if_neg fun hletter => ?_
    rcases hc with hc | rfl
    · have hnine : c ≤ '9' := by simpa [isDigit] using (Bool.and_eq_true_iff.1 hc).2
      exact absurd (Char.le_trans hletter.1 hnine) (by decide)
    · exact absurd hletter.1 (by decide)
  have hi : c ≠ 'i' := hne (by decide) (by decide)
  have hn : c ≠ 'n' := hne (by decide) (by decide)
  simp [double?, hsign, hlower, hi, hn]

/-! ## The text of an integer -/

theorem toList_toString_natCast (n : Nat) : (toString (n : Int)).toList = Nat.toDigits 10 n := by
  show (Int.repr (Int.ofNat n)).toList = _
  rw [Int.repr, Nat.repr_eq_ofList_toDigits, String.toList_ofList]

theorem toList_toString_negSucc (n : Nat) :
    (toString (Int.negSucc n)).toList = '-' :: Nat.toDigits 10 (n + 1) := by
  show (Int.repr (Int.negSucc n)).toList = _
  rw [Int.repr, Nat.repr_eq_ofList_toDigits, String.toList_append, String.toList_ofList,
    String.toList_ofList]
  rfl

theorem tight_toString (n : Int) : Text.IsTight (toString n).toList := by
  have hdigits (m : Nat) : Text.IsTight (Nat.toDigits 10 m) :=
    tight_of_digits Nat.toDigits_ne_nil fun _ => isDigit_of_mem_toDigits
  cases n with
  | ofNat m =>
    rw [Int.ofNat_eq_natCast, toList_toString_natCast]
    exact hdigits m
  | negSucc m =>
    have hminus : Text.IsTight ['-'] :=
      ⟨List.cons_ne_nil _ _, by rintro _ ⟨⟩; decide, by rintro _ ⟨⟩; decide⟩
    rw [toList_toString_negSucc]
    exact hminus.join (hdigits (m + 1)) []

theorem all_isDigit_toDigits (n : Nat) : (Nat.toDigits 10 n).all isDigit = true :=
  List.all_eq_true.2 fun _ => isDigit_of_mem_toDigits

theorem sign_toDigits (n : Nat) : sign (Nat.toDigits 10 n) = (false, Nat.toDigits 10 n) :=
  sign_of_head fun _ hc => ne_sign_of_isDigit (isDigit_of_mem_toDigits (List.mem_of_mem_head? hc))

/-- The text of an integer is read as it. -/
theorem integer?_toString (n : Int) : integer? (toString n).toList = some n := by
  cases n with
  | ofNat m =>
    rw [Int.ofNat_eq_natCast, toList_toString_natCast, integer?, sign_toDigits]
    simp [Nat.toDigits_ne_nil, all_isDigit_toDigits, value_toDigits]
  | negSucc m =>
    rw [toList_toString_negSucc, integer?, sign]
    simp [Nat.toDigits_ne_nil, all_isDigit_toDigits, value_toDigits, Int.negSucc_eq]

theorem toInt_ofInt_of_range {k : Int}
    (h : Int64.minValue.toInt ≤ k ∧ k ≤ Int64.maxValue.toInt) : (Int64.ofInt k).toInt = k := by
  have hmin := Int64.toInt_minValue
  have hmax := Int64.toInt_maxValue
  exact Int64.toInt_ofInt_of_le (by omega) (by omega)

theorem int64?_eq_some_iff {cs : List Char} {k : Int64} :
    int64? cs = some k ↔ integer? cs = some k.toInt := by
  rw [int64?]
  constructor
  · intro h
    obtain ⟨n, hn, h⟩ := Option.bind_eq_some_iff.1 h
    split at h
    · next hrange =>
      cases h
      rw [hn, toInt_ofInt_of_range hrange]
    · cases h
  · intro h
    rw [h, Option.bind_eq_bind, Option.bind_some, if_pos ⟨k.minValue_le_toInt, k.toInt_le⟩,
      Int64.ofInt_toInt]

theorem int64?_toString (n : Int64) : int64? (toString n.toInt).toList = some n :=
  int64?_eq_some_iff.2 (integer?_toString n.toInt)

end SynthTable.Numeral
