import SynthTable.Condition.Basic
import SynthTable.Proofs.Number.LetterCase

/-!
# Laws of comparison

Equality of texts looks away from their case, while their order is that of their numbers, or of
their characters if one of them is no number. So the two disagree in places: `b` and `B` are equal
and in order, `10` and `10.0` are neither. The laws that hold all the same are those of a partial
order (`Comparator.holds_laws`): nothing is both before and after another text, and texts that are not
incomparable are before one another or not after. Only a text that names the value that is no number
is incomparable with numbers.
-/

namespace SynthTable

namespace Double

variable {x y : Double}

theorem compare?_swap (x y : Double) : y.compare? x = (x.compare? y).map Ordering.swap := by
  cases x with
  | nan => cases y <;> rfl
  | infinite s =>
    cases y with
    | nan => rfl
    | infinite t => cases s <;> cases t <;> rfl
    | finite => cases s <;> rfl
  | finite s m e hform =>
    cases y with
    | nan => rfl
    | infinite t => cases t <;> rfl
    | finite t n f hform' =>
      simp only [compare?, Int.min_comm f e, Option.map_some, Option.some_inj]
      exact Std.OrientedCmp.eq_swap

theorem less_eq_false_iff : x.less y = false ↔ x.compare? y ≠ some .lt := by simp [less]

theorem less_swap_eq_false_iff : y.less x = false ↔ x.compare? y ≠ some .gt := by
  rw [less_eq_false_iff, compare?_swap]
  cases x.compare? y with
  | none => decide
  | some o => cases o <;> decide

theorem less_self (x : Double) : x.less x = false := by
  cases x <;> simp [less, compare?]

theorem compare?_eq_none_iff : x.compare? y = none ↔ x = .nan ∨ y = .nan := by
  cases x <;> cases y <;> simp [compare?]

end Double

namespace Text

variable {left right : List Char}

theorem compareTexts_swap (left right : List Char) :
    compareTexts right left = (compareTexts left right).swap := by
  induction left generalizing right with
  | nil => cases right <;> rfl
  | cons a as ih =>
    cases right with
    | nil => rfl
    | cons b bs =>
      simp only [compareTexts, ih]
      split_ifs with hba hab
      · exact absurd hab (Char.lt_asymm hba)
      · rfl
      · rfl
      · rfl

theorem compareTexts_eq_iff : compareTexts left right = .eq ↔ left = right := by
  induction left generalizing right with
  | nil => cases right <;> simp [compareTexts]
  | cons a as ih =>
    cases right with
    | nil => simp [compareTexts]
    | cons b bs =>
      simp only [compareTexts, List.cons.injEq, ← ih]
      split_ifs with hab hba
      · simp [Char.ne_of_lt hab]
      · simp [(Char.ne_of_lt hba).symm]
      · simp [Char.le_antisymm (Char.not_lt.1 hba) (Char.not_lt.1 hab)]

theorem not_lt_and_not_gt_iff :
    ¬ compareTexts left right = .lt ∧ ¬ compareTexts left right = .gt ↔ left = right := by
  rw [← compareTexts_eq_iff]
  cases compareTexts left right <;> decide

end Text

namespace Comparator

open Numeral (double?)

variable {left right : String} {l r : List Char} {x y : Double}

/-- Both texts are numbers, but one of them names the value that is no number. -/
def Incomparable (left right : String) : Prop :=
  ∃ x y, double? (Text.trim left.toList) = some x ∧ double? (Text.trim right.toList) = some y ∧
    (x = .nan ∨ y = .nan)

/-- Equality agrees with the order: numbers that are not before one another have the same text up to
case, and texts that are not both numbers have the same text up to case only if they are the
same. -/
def Agrees (left right : String) : Prop :=
  (∀ x y, double? (Text.trim left.toList) = some x → double? (Text.trim right.toList) = some y →
    x.less y = true ∨ y.less x = true ∨
      Text.lower (Text.trim left.toList) = Text.lower (Text.trim right.toList)) ∧
  (double? (Text.trim left.toList) = none ∨ double? (Text.trim right.toList) = none →
    Text.lower (Text.trim left.toList) = Text.lower (Text.trim right.toList) →
      Text.trim left.toList = Text.trim right.toList)

theorem Incomparable.symm (h : Incomparable left right) : Incomparable right left := by
  obtain ⟨x, y, hx, hy, hnan⟩ := h
  exact ⟨y, x, hy, hx, hnan.symm⟩

/-! ## The order of two texts -/

theorem order?_swap (l r : List Char) : order? r l = (order? l r).map Ordering.swap := by
  unfold order?
  cases double? l with
  | none => simp [Text.compareTexts_swap l r]
  | some x =>
    cases double? r with
    | none => simp [Text.compareTexts_swap l r]
    | some y => exact Double.compare?_swap x y

theorem order?_eq_none_iff : order? l r = none ↔
    ∃ x y, double? l = some x ∧ double? r = some y ∧ (x = .nan ∨ y = .nan) := by
  unfold order?
  cases double? l <;> cases double? r <;> simp [Double.compare?_eq_none_iff]

theorem order?_of_none (h : double? l = none ∨ double? r = none) :
    order? l r = some (Text.compareTexts l r) := by
  unfold order?
  rcases h with h | h
  · rw [h]
  · rw [h]
    cases double? l <;> rfl

theorem order?_of_some (hx : double? l = some x) (hy : double? r = some y) :
    order? l r = x.compare? y := by
  rw [order?, hx, hy]

theorem greater_eq_less (left right : String) :
    greater.holds left right = less.holds right left := by
  simp only [holds, order?_swap (Text.trim left.toList) (Text.trim right.toList)]
  cases order? (Text.trim left.toList) (Text.trim right.toList) with
  | none => rfl
  | some o => cases o <;> rfl

theorem atMost_eq_atLeast (left right : String) :
    atMost.holds left right = atLeast.holds right left := by
  simp only [holds, order?_swap (Text.trim left.toList) (Text.trim right.toList)]
  cases order? (Text.trim left.toList) (Text.trim right.toList) with
  | none => rfl
  | some o => cases o <;> rfl

theorem not_less_and_greater (left right : String) :
    ¬ (less.holds left right = true ∧ greater.holds left right = true) := by
  simp only [holds]
  cases order? (Text.trim left.toList) (Text.trim right.toList) with
  | none => decide
  | some o => cases o <;> decide

/-- In no order, nothing is before, after or beside the other. -/
theorem holds_of_incomparable (h : Incomparable left right) :
    ∀ op ∈ [less, atMost, greater, atLeast], op.holds left right = false := by
  have hnone := order?_eq_none_iff.2 h
  simp [holds, hnone]

/-- In some order, what is not before is beside or after. -/
theorem atLeast_of_not_incomparable (h : ¬ Incomparable left right) :
    atLeast.holds left right = !less.holds left right := by
  obtain ⟨o, ho⟩ := Option.ne_none_iff_exists'.1 (mt order?_eq_none_iff.1 h)
  simp only [holds, ho]
  cases o <;> rfl

/-! ## Exactly one -/

/-- Where not both the first and the last of three can hold, exactly one holds just if the middle
one holds exactly where these two do not. -/
theorem existsUnique_iff {f : Comparator → Bool} (h : ¬ (f less = true ∧ f greater = true)) :
    (∃! op, op ∈ [less, equal, greater] ∧ f op = true) ↔
      (f equal = true ↔ f less = false ∧ f greater = false) := by
  simp only [ExistsUnique, List.mem_cons, List.not_mem_nil, or_false]
  cases hl : f less <;> cases he : f equal <;> cases hg : f greater <;> simp_all

/-- Texts of numbers that are the same up to case are texts of one number. -/
theorem not_less_of_lower_eq (hx : double? l = some x) (hy : double? r = some y)
    (h : Text.lower l = Text.lower r) : x.less y = false ∧ y.less x = false := by
  obtain rfl := Numeral.double?_eq_of_lower_eq hx hy h
  exact ⟨Double.less_self x, Double.less_self x⟩

theorem agrees_iff : Agrees left right ↔
    (equal.holds left right = true ↔
      less.holds left right = false ∧ greater.holds left right = false) := by
  simp only [Agrees, holds, beq_iff_eq, beq_eq_false_iff_ne]
  generalize Text.trim left.toList = l
  generalize Text.trim right.toList = r
  by_cases hnone : double? l = none ∨ double? r = none
  · have hnumbers : ∀ x y, double? l = some x → ¬ double? r = some y := by
      rintro x y hx hy
      simp [hx, hy] at hnone
    simp only [order?_of_none hnone, Option.some_inj, ne_eq, Text.not_lt_and_not_gt_iff]
    constructor
    · intro h
      exact ⟨h.2 hnone, congrArg Text.lower⟩
    · intro h
      exact ⟨fun x y hx hy => absurd hy (hnumbers x y hx), fun _ => h.1⟩
  · obtain ⟨hx, hy⟩ := not_or.1 hnone
    obtain ⟨x, hx⟩ := Option.ne_none_iff_exists'.1 hx
    obtain ⟨y, hy⟩ := Option.ne_none_iff_exists'.1 hy
    rw [order?_of_some hx hy, ← Double.less_eq_false_iff, ← Double.less_swap_eq_false_iff]
    constructor
    · intro h
      refine ⟨not_less_of_lower_eq hx hy, fun ⟨hless, hgreater⟩ => ?_⟩
      simpa [hless, hgreater] using h.1 x y hx hy
    · intro h
      refine ⟨fun x' y' hx' hy' => ?_, fun h' => absurd h' hnone⟩
      cases hx.symm.trans hx'
      cases hy.symm.trans hy'
      cases hless : x.less y with
      | true => exact .inl rfl
      | false =>
        cases hgreater : y.less x with
        | true => exact .inr (.inl rfl)
        | false => exact .inr (.inr (h.2 ⟨hless, hgreater⟩))

/-! ## The laws -/

/-- Inequality is the negation of equality, a comparison turns around with its sides, and no text is
both before and after another one. Nothing holds between incomparable texts; of other texts each is
before the other or not, and after it or not. Exactly one of before, equal and after holds just if
equality agrees with the order. -/
theorem holds_laws (left right : String) :
    notEqual.holds left right = !equal.holds left right ∧
    greater.holds left right = less.holds right left ∧
    atMost.holds left right = atLeast.holds right left ∧
    ¬ (less.holds left right = true ∧ greater.holds left right = true) ∧
    (Incomparable left right →
      ∀ op ∈ [less, atMost, greater, atLeast], op.holds left right = false) ∧
    (¬ Incomparable left right →
      atLeast.holds left right = !less.holds left right ∧
      atMost.holds left right = !greater.holds left right) ∧
    ((∃! op, op ∈ [less, equal, greater] ∧ op.holds left right = true) ↔ Agrees left right) := by
  refine ⟨rfl, greater_eq_less left right, atMost_eq_atLeast left right,
    not_less_and_greater left right, holds_of_incomparable,
    fun h => ⟨atLeast_of_not_incomparable h, ?_⟩,
    (existsUnique_iff (not_less_and_greater left right)).trans agrees_iff.symm⟩
  rw [atMost_eq_atLeast, greater_eq_less]
  exact atLeast_of_not_incomparable (mt Incomparable.symm h)

/-- The equal texts `b` and `B` are in order as well, the numbers `10` and `10.0` are neither equal
nor in order, and the name of no number is neither below a number nor not below it. -/
theorem not_trichotomy :
    (equal.holds "b" "B" = true ∧ greater.holds "b" "B" = true) ∧
    (∀ op ∈ [less, equal, greater], op.holds "10" "10.0" = false) ∧
    less.holds "NaN" "30" = false ∧ atLeast.holds "NaN" "30" = false := by
  decide +kernel

end Comparator

end SynthTable
