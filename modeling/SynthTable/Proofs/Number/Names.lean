import SynthTable.Proofs.Number.Notation

/-!
# Numbers by name

Besides the decimal numbers there are texts that name a double: an infinity, or the value that is no
number (`Numeral.IsName`). A text is read as a double just if it names one or denotes a number
(`Numeral.isSome_double?_iff`). The double is finite where the text denotes a number below the
overflow; it is not where the number is too large, or where the text names the double
(`Numeral.exists_finite_iff`, `Numeral.exists_not_finite_iff`).
-/

namespace SynthTable.Numeral

/-- The doubles that texts name, in any case. -/
inductive IsName : List Char → Double → Prop where
  | infinity {negative sign word} : IsSign negative sign →
      word.map plainLower = ['i', 'n', 'f'] ∨
        word.map plainLower = ['i', 'n', 'f', 'i', 'n', 'i', 't', 'y'] →
      IsName (sign ++ word) (.infinite negative)
  | nan {negative sign word} : IsSign negative sign → word.map plainLower = ['n', 'a', 'n'] →
      IsName (sign ++ word) .nan

variable {cs word : List Char} {negative : Bool} {x : Double} {q : ℚ}

/-! ## What is read -/

/-- A text that is a sign and a name does not have a second sign. -/
theorem head_ne_sign_of_map {c : Char} {rest : List Char} (h : word.map plainLower = c :: rest)
    (hc : c ≠ '-' ∧ c ≠ '+') : ∀ d ∈ word.head?, d ≠ '-' ∧ d ≠ '+' := by
  intro d hd
  have hlower : plainLower d = c := by
    have hhead : (word.map plainLower).head? = some c := by rw [h]; rfl
    rw [List.head?_map, hd] at hhead
    exact Option.some.inj hhead
  constructor
  · rintro rfl
    exact hc.1 hlower.symm
  · rintro rfl
    exact hc.2 hlower.symm

theorem double?_of_isName (h : IsName cs x) : double? cs = some x := by
  cases h with
  | infinity hsign hword =>
    have hhead : ∀ c ∈ List.head? _, c ≠ '-' ∧ c ≠ '+' :=
      hword.elim (head_ne_sign_of_map · (by decide)) (head_ne_sign_of_map · (by decide))
    simp only [double?, sign_of_isSign hsign hhead]
    rw [if_pos hword]
  | nan hsign hword =>
    have hhead := head_ne_sign_of_map hword (by decide)
    simp [double?, sign_of_isSign hsign hhead, hword]

/-- The texts that are read as doubles are names and decimal numbers. -/
theorem double?_eq_some_iff : double? cs = some x ↔ IsName cs x ∨
    ∃ negative sign' rest, IsSign negative sign' ∧ (∀ c ∈ rest.head?, c ≠ '-' ∧ c ≠ '+') ∧
      cs = sign' ++ rest ∧ decimal? negative rest = some x := by
  constructor
  · intro h
    obtain ⟨sign', hsign, hcs⟩ := exists_isSign cs
    simp only [double?] at h
    generalize sign cs = parts at *
    rw [hcs]
    split at h
    · next hname =>
      cases h
      exact .inl (.infinity hsign hname)
    split at h
    · next hname =>
      cases h
      exact .inl (.nan hsign hname)
    obtain ⟨mantissa, n, places, exponent, e, hrest, hmantissa, -, -⟩ := decimal?_eq_some_iff.1 h
    refine .inr ⟨parts.1, sign', parts.2, hsign, ?_, rfl, h⟩
    rw [hrest]
    exact hmantissa.head_ne_sign exponent
  · rintro (hname | ⟨negative, sign', rest, hsign, hhead, rfl, h⟩)
    · exact double?_of_isName hname
    · obtain ⟨mantissa, n, places, exponent, e, rfl, hmantissa, -, -⟩ := decimal?_eq_some_iff.1 h
      obtain ⟨c, more, rfl, hc⟩ := hmantissa.exists_cons
      simp only [List.cons_append] at hhead h ⊢
      rw [double?_of_sign (sign_of_isSign hsign hhead) hc, h]

/-- A text is read as a double just if it names one or denotes a number. -/
theorem isSome_double?_iff : (double? cs).isSome ↔ (∃ x, IsName cs x) ∨ ∃ q, Denotes cs q := by
  rw [Option.isSome_iff_exists]
  constructor
  · rintro ⟨x, hx⟩
    rcases double?_eq_some_iff.1 hx with hname | ⟨negative, sign', rest, hsign, -, rfl, h⟩
    · exact .inl ⟨x, hname⟩
    · obtain ⟨mantissa, n, places, exponent, e, rfl, hmantissa, hexponent, -⟩ :=
        decimal?_eq_some_iff.1 h
      exact .inr ⟨_, .intro hsign hmantissa hexponent⟩
  · rintro (⟨x, hname⟩ | ⟨q, hq⟩)
    · exact ⟨x, double?_of_isName hname⟩
    · obtain ⟨x, hx, -⟩ := double?_of_denotes hq
      exact ⟨x, hx⟩

/-! ## Finite doubles -/

theorem IsName.value?_eq_none (h : IsName cs x) : x.value? = none := by
  cases h <;> rfl

theorem value?_of_denotes (h : double? cs = some x) (hq : Denotes cs q) :
    x.value? = (Double.ofRat q).value? := by
  obtain ⟨y, hy, hvalue⟩ := double?_of_denotes hq
  rw [h] at hy
  cases hy
  exact hvalue

/-- The double of a text is finite just if the text denotes a number below the overflow. -/
theorem exists_finite_iff : (∃ x, double? cs = some x ∧ x.isFinite = true) ↔
    ∃ q, Denotes cs q ∧ |q| < Double.overflow := by
  constructor
  · rintro ⟨x, hx, hfinite⟩
    rw [Double.isFinite_eq_isSome, Option.isSome_iff_exists] at hfinite
    obtain ⟨v, hv⟩ := hfinite
    obtain ⟨q, hq⟩ := exists_denotes hx hv
    refine ⟨q, hq, not_le.1 fun habove => ?_⟩
    rw [value?_of_denotes hx hq, Double.value?_ofRat_eq_none_iff.2 habove] at hv
    cases hv
  · rintro ⟨q, hq, hbelow⟩
    obtain ⟨x, hx, hvalue⟩ := double?_of_denotes hq
    refine ⟨x, hx, ?_⟩
    rw [Double.isFinite_eq_isSome, hvalue, Option.isSome_iff_ne_none, ne_eq,
      Double.value?_ofRat_eq_none_iff]
    exact not_le.2 hbelow

/-- The double of a text is not finite just if the text names it or denotes a number from the
overflow on. -/
theorem exists_not_finite_iff : (∃ x, double? cs = some x ∧ x.isFinite = false) ↔
    (∃ x, IsName cs x) ∨ ∃ q, Denotes cs q ∧ Double.overflow ≤ |q| := by
  constructor
  · rintro ⟨x, hx, hfinite⟩
    rw [Double.isFinite_eq_isSome, Option.isSome_eq_false_iff, Option.isNone_iff_eq_none] at hfinite
    rcases isSome_double?_iff.1 (Option.isSome_of_eq_some hx) with hname | ⟨q, hq⟩
    · exact .inl hname
    · rw [value?_of_denotes hx hq, Double.value?_ofRat_eq_none_iff] at hfinite
      exact .inr ⟨q, hq, hfinite⟩
  · rintro (⟨x, hname⟩ | ⟨q, hq, habove⟩)
    · refine ⟨x, double?_of_isName hname, ?_⟩
      rw [Double.isFinite_eq_isSome, hname.value?_eq_none]
      rfl
    · obtain ⟨x, hx, hvalue⟩ := double?_of_denotes hq
      refine ⟨x, hx, ?_⟩
      rw [Double.isFinite_eq_isSome, hvalue, Double.value?_ofRat_eq_none_iff.2 habove]
      rfl

end SynthTable.Numeral
