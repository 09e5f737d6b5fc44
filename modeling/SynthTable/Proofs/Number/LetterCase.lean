import SynthTable.Proofs.Number.Names
import SynthTable.Text.Case

/-!
# Letter case in numeric texts

Below code point 128 only the letters A to Z change in lower case (`Text.lower_of_ascii`). The texts
of doubles have no other characters (`Numeral.isAscii_of_double?`), and what a text is read as does
not depend on the case of these letters (`Numeral.double?_map_plainLower`). So texts of doubles that
are the same up to case are texts of the same double (`Numeral.double?_eq_of_lower_eq`).
-/

namespace SynthTable

namespace Text

/-- All characters are below code point 128. -/
def IsAscii (cs : List Char) : Prop := ∀ c ∈ cs, c.toNat < 128

theorem IsAscii.append {cs ds : List Char} (h : IsAscii cs) (h' : IsAscii ds) :
    IsAscii (cs ++ ds) :=
  List.forall_mem_append.2 ⟨h, h'⟩

theorem lowerChar_of_ascii {c : Char} (h : c.toNat < 128) : lowerChar c = [asciiLower c] := by
  have hall : ∀ a < 8, ∀ b < 16,
      lowerChar (Char.ofNat (16 * a + b)) = [asciiLower (Char.ofNat (16 * a + b))] := by
    decide +kernel
  have hc := hall (c.toNat / 16) (by omega) (c.toNat % 16) (by omega)
  rwa [Nat.div_add_mod, Char.ofNat_toNat] at hc

theorem lowerFrom_of_ascii {cs : List Char} (h : IsAscii cs) (before : List Char) :
    lowerFrom before cs = cs.map asciiLower := by
  induction cs generalizing before with
  | nil => rfl
  | cons c rest ih =>
    obtain ⟨hc, hrest⟩ := List.forall_mem_cons.1 h
    have hsigma : (c == 'Σ') = false := by
      rw [beq_eq_false_iff_ne]
      rintro rfl
      revert hc
      decide
    simp [lowerFrom, hsigma, lowerChar_of_ascii hc, ih hrest]

/-- Below code point 128 only the letters A to Z change. -/
theorem lower_of_ascii {cs : List Char} (h : IsAscii cs) : lower cs = cs.map asciiLower :=
  lowerFrom_of_ascii h []

end Text

namespace Numeral

variable {cs ds : List Char} {negative : Bool} {x y : Double}

/-! ## Characters of numeric texts -/

theorem toNat_lt_of_isDigit {c : Char} (h : isDigit c = true) : c.toNat < 128 := by
  simp only [isDigit, Bool.and_eq_true, decide_eq_true_eq] at h
  exact Nat.lt_of_le_of_lt (show c.toNat ≤ '9'.toNat from h.2) (by decide)

theorem isAscii_of_digits (h : ∀ d ∈ ds, isDigit d = true) : Text.IsAscii ds :=
  fun d hd => toNat_lt_of_isDigit (h d hd)

theorem IsSign.isAscii (h : IsSign negative cs) : Text.IsAscii cs := by
  cases h <;> simp [Text.IsAscii]

theorem IsMantissa.isAscii {n places : Nat} (h : IsMantissa cs n places) : Text.IsAscii cs := by
  cases h with
  | whole _ hds => exact isAscii_of_digits hds
  | point _ hds hes =>
    refine (isAscii_of_digits hds).append (List.forall_mem_cons.2 ⟨?_, isAscii_of_digits hes⟩)
    decide

theorem IsExponent.isAscii {e : Int} (h : IsExponent cs e) : Text.IsAscii cs := by
  cases h with
  | none => exact nofun
  | some hletter hsign _ hds =>
    refine List.forall_mem_cons.2 ⟨?_, hsign.isAscii.append (isAscii_of_digits hds)⟩
    rcases hletter with rfl | rfl <;> decide

/-- What holds of each letter A to Z and its lower case, and of any character and itself, holds of
all characters and their lower case. -/
theorem forall_plainLower {p : Char → Char → Prop}
    (hletter : ∀ n < 26, p (Char.ofNat (65 + n)) (Char.ofNat (97 + n))) (hself : ∀ c, p c c)
    (c : Char) : p c (plainLower c) := by
  unfold plainLower
  split
  · next hc =>
    have hfirst : 65 ≤ c.toNat := hc.1
    have hlast : c.toNat ≤ 90 := hc.2
    have hcase := hletter (c.toNat - 65) (by omega)
    rwa [show 65 + (c.toNat - 65) = c.toNat by omega,
      show 97 + (c.toNat - 65) = c.toNat + 32 by omega, Char.ofNat_toNat] at hcase
  · exact hself c

theorem toNat_lt_of_plainLower {c : Char} (h : (plainLower c).toNat < 128) : c.toNat < 128 :=
  forall_plainLower (p := fun c d => d.toNat < 128 → c.toNat < 128) (by decide) (fun _ => id) c h

theorem isAscii_of_map {word name : List Char} (h : word.map plainLower = name)
    (hname : Text.IsAscii name) : Text.IsAscii word := by
  intro c hc
  exact toNat_lt_of_plainLower (hname _ (h ▸ List.mem_map_of_mem hc))

theorem IsName.isAscii (h : IsName cs x) : Text.IsAscii cs := by
  cases h with
  | infinity hsign hword =>
    refine hsign.isAscii.append ?_
    rcases hword with hword | hword <;> exact isAscii_of_map hword (by simp [Text.IsAscii])
  | nan hsign hword => exact hsign.isAscii.append (isAscii_of_map hword (by simp [Text.IsAscii]))

theorem Denotes.isAscii {q : ℚ} (h : Denotes cs q) : Text.IsAscii cs := by
  obtain ⟨hsign, hmantissa, hexponent⟩ := h
  exact hsign.isAscii.append (hmantissa.isAscii.append hexponent.isAscii)

theorem isAscii_of_double? (h : double? cs = some x) : Text.IsAscii cs := by
  rcases isSome_double?_iff.1 (Option.isSome_of_eq_some h) with ⟨y, hname⟩ | ⟨q, hq⟩
  · exact hname.isAscii
  · exact hq.isAscii

/-! ## Reading in lower case -/

@[simp] theorem isDigit_plainLower (c : Char) : isDigit (plainLower c) = isDigit c :=
  forall_plainLower (p := fun c d => isDigit d = isDigit c) (by decide) (fun _ => rfl) c

theorem plainLower_of_isDigit {c : Char} (h : isDigit c = true) : plainLower c = c :=
  forall_plainLower (p := fun c d => isDigit c = true → d = c) (by decide)
    (fun _ _ => rfl) c h

@[simp] theorem plainLower_idem (c : Char) : plainLower (plainLower c) = plainLower c :=
  forall_plainLower (p := fun c d => plainLower d = plainLower c) (by decide)
    (fun _ => rfl) c

/-- The marks of a number have no case. -/
theorem plainLower_eq_mark_iff {mark : Char} (h : mark = '-' ∨ mark = '+' ∨ mark = '.') (c : Char) :
    plainLower c = mark ↔ c = mark := by
  refine forall_plainLower (p := fun c d => d = mark ↔ c = mark) ?_ (fun _ => Iff.rfl) c
  rcases h with rfl | rfl | rfl <;> decide

theorem plainLower_eq_exponent_iff (c : Char) :
    (plainLower c = 'e' ∨ plainLower c = 'E') ↔ c = 'e' ∨ c = 'E' :=
  forall_plainLower (p := fun c d => (d = 'e' ∨ d = 'E') ↔ c = 'e' ∨ c = 'E')
    (by decide) (fun _ => Iff.rfl) c

theorem map_plainLower_of_digits (h : ∀ d ∈ ds, isDigit d = true) : ds.map plainLower = ds :=
  (List.map_congr_left fun d hd => plainLower_of_isDigit (h d hd)).trans (List.map_id ds)

theorem sign_map_plainLower (cs : List Char) :
    sign (cs.map plainLower) = ((sign cs).1, (sign cs).2.map plainLower) := by
  cases cs with
  | nil => rfl
  | cons c rest =>
    by_cases hminus : c = '-'
    · subst hminus
      rfl
    by_cases hplus : c = '+'
    · subst hplus
      rfl
    have hhead : ∀ d ∈ (c :: rest).head?, d ≠ '-' ∧ d ≠ '+' := by simp [hminus, hplus]
    rw [sign_of_head hhead, sign_of_head]
    rintro d ⟨⟩
    rw [ne_eq, ne_eq, plainLower_eq_mark_iff (by decide), plainLower_eq_mark_iff (by decide)]
    exact ⟨hminus, hplus⟩

theorem exponent?_map_plainLower (cs : List Char) :
    exponent? (cs.map plainLower) = exponent? cs := by
  cases cs with
  | nil => rfl
  | cons c rest =>
    simp only [List.map_cons, exponent?, plainLower_eq_exponent_iff, sign_map_plainLower]
    generalize sign rest = parts
    by_cases hdigits : ∀ d ∈ parts.2, isDigit d = true
    · rw [map_plainLower_of_digits hdigits]
    · simp [List.all_map, Function.comp_def, hdigits]

theorem decimal?_map_plainLower (cs : List Char) :
    decimal? negative (cs.map plainLower) = decimal? negative cs := by
  have hdigits : isDigit ∘ plainLower = isDigit := funext isDigit_plainLower
  have hrun (cs : List Char) : (cs.takeWhile isDigit).map plainLower = cs.takeWhile isDigit :=
    map_plainLower_of_digits fun _ hd => List.mem_takeWhile_imp hd
  simp only [decimal?, List.takeWhile_map, List.dropWhile_map, hdigits, hrun]
  cases cs.dropWhile isDigit with
  | nil => rfl
  | cons c more =>
    by_cases hpoint : c = '.'
    · subst hpoint
      have hmark : plainLower '.' = '.' := by decide
      simp only [List.map_cons, hmark, List.takeWhile_map, List.dropWhile_map, hdigits, hrun,
        exponent?_map_plainLower]
    · have hmark : plainLower c ≠ '.' := by
        rwa [ne_eq, plainLower_eq_mark_iff (by decide)]
      simp [hmark, hpoint, ← exponent?_map_plainLower (c :: more)]

/-- What a text is read as does not depend on the case of its letters. -/
theorem double?_map_plainLower (cs : List Char) : double? (cs.map plainLower) = double? cs := by
  simp [double?, sign_map_plainLower, decimal?_map_plainLower, Function.comp_def]

/-- Texts of doubles that are the same up to case are texts of the same double. -/
theorem double?_eq_of_lower_eq (hx : double? cs = some x) (hy : double? ds = some y)
    (h : Text.lower cs = Text.lower ds) : x = y := by
  rw [Text.lower_of_ascii (isAscii_of_double? hx), Text.lower_of_ascii (isAscii_of_double? hy)] at h
  have hread : double? (cs.map plainLower) = double? (ds.map plainLower) := congrArg double? h
  rw [double?_map_plainLower, double?_map_plainLower, hx, hy] at hread
  exact Option.some.inj hread

end Numeral

end SynthTable
