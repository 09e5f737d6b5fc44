import Mathlib.Data.List.Basic
import Mathlib.Data.List.TakeWhile
import SynthTable.Text.Blank
import SynthTable.Text.Split

/-!
# Runs and parts of texts

A run of characters ends where another comes. A text that neither begins nor ends with a blank loses
nothing when its ends are trimmed, and cutting a text at a character undoes joining parts without it
(`splitOn_join`). Cutting it in two finds the first occurrence (`cutFirst?_eq_some_iff`).
-/

namespace SynthTable.Text

/-- Below the surrogates every number is that of a character. -/
theorem toNat_ofNat_of_lt {n : Nat} (h : n < 0xd800) : (Char.ofNat n).toNat = n := by
  rw [Char.ofNat, dif_pos (Or.inl h)]
  rfl

/-! ## Runs of characters -/

theorem takeWhile_append_stop {p : Char → Bool} {c : Char} (hc : p c = false) (xs ys : List Char) :
    (xs ++ c :: ys).takeWhile p = xs.takeWhile p := by
  rw [List.takeWhile_append]
  split
  · next h =>
    rw [List.takeWhile_cons_of_neg (by simp [hc]), List.append_nil]
    exact ((List.takeWhile_sublist p).eq_of_length h).symm
  · rfl

theorem dropWhile_append_stop {p : Char → Bool} {c : Char} (hc : p c = false) (xs ys : List Char) :
    (xs ++ c :: ys).dropWhile p = xs.dropWhile p ++ c :: ys := by
  rw [List.dropWhile_append]
  split
  · next h =>
    rw [List.dropWhile_cons_of_neg (by simp [hc]), List.isEmpty_iff.1 h]
    rfl
  · rfl

/-- A run of characters ends where another character comes. -/
theorem takeWhile_run {p : Char → Bool} {run rest : List Char} (hrun : ∀ c ∈ run, p c = true)
    (hrest : ∀ c ∈ rest.head?, p c = false) :
    (run ++ rest).takeWhile p = run ∧ (run ++ rest).dropWhile p = rest := by
  rw [List.takeWhile_append_of_pos hrun, List.dropWhile_append_of_pos hrun]
  cases rest with
  | nil => simp
  | cons c rest =>
    have hc := hrest c rfl
    simp [hc]

variable {sep : Char} {cs front : List Char} {parts : List (List Char)}

/-! ## Texts without blanks at their ends -/

/-- A text that neither begins nor ends with a blank. -/
structure IsTight (cs : List Char) : Prop where
  ne_nil : cs ≠ []
  head : ∀ c ∈ cs.head?, isBlank c = false
  last : ∀ c ∈ cs.getLast?, isBlank c = false

theorem dropWhile_eq_self {p : Char → Bool} (h : ∀ c ∈ cs.head?, p c = false) :
    cs.dropWhile p = cs := by
  cases cs with
  | nil => rfl
  | cons c rest => exact List.dropWhile_cons_of_neg (by simp [h c rfl])

theorem trimStart_of_tight (h : IsTight cs) : trimStart cs = cs := dropWhile_eq_self h.head

theorem trimStart_space (h : ∀ c ∈ cs.head?, isBlank c = false) : trimStart (' ' :: cs) = cs := by
  rw [trimStart, List.dropWhile_cons_of_pos (by decide)]
  exact dropWhile_eq_self h

theorem trim_of_tight (h : IsTight cs) : trim cs = cs := by
  have hreverse : cs.reverse.dropWhile isBlank = cs.reverse := by
    refine dropWhile_eq_self fun c hc => h.last c ?_
    rwa [List.head?_reverse] at hc
  rw [trim, trimStart_of_tight h, trimEnd, hreverse, List.reverse_reverse]

theorem IsTight.join {xs ys : List Char} (hx : IsTight xs) (hy : IsTight ys) (mid : List Char) :
    IsTight (xs ++ (mid ++ ys)) := by
  obtain ⟨c, xs, rfl⟩ := List.exists_cons_of_ne_nil hx.ne_nil
  refine ⟨List.cons_ne_nil _ _, hx.head, fun d hd => hy.last d ?_⟩
  rw [← List.append_assoc, List.getLast?_append_of_ne_nil _ hy.ne_nil] at hd
  exact hd

/-! ## Parts with a character between them -/

/-- The parts with a character between each two. -/
def join (sep : Char) : List (List Char) → List Char
  | [] => []
  | [part] => part
  | part :: parts => part ++ sep :: join sep parts

theorem exists_join_cons (sep : Char) (part : List Char) (parts : List (List Char)) :
    ∃ more, join sep (part :: parts) = part ++ more := by
  cases parts with
  | nil => exact ⟨[], (List.append_nil part).symm⟩
  | cons next parts => exact ⟨sep :: join sep (next :: parts), rfl⟩

theorem splitOn_append (h : sep ∉ front) :
    splitOn sep (front ++ sep :: cs) = front :: splitOn sep cs := by
  induction front with
  | nil => simp [splitOn]
  | cons c front ih =>
    rw [List.mem_cons, not_or] at h
    rw [List.cons_append, splitOn, if_neg (Ne.symm h.1), ih h.2]

theorem splitOn_of_not_mem (h : sep ∉ cs) : splitOn sep cs = [cs] := by
  induction cs with
  | nil => rfl
  | cons c cs ih =>
    rw [List.mem_cons, not_or] at h
    rw [splitOn, if_neg (Ne.symm h.1), ih h.2]

/-- Cutting undoes joining. -/
theorem splitOn_join (hne : parts ≠ []) (h : ∀ part ∈ parts, sep ∉ part) :
    splitOn sep (join sep parts) = parts := by
  induction parts with
  | nil => exact absurd rfl hne
  | cons part parts ih =>
    have hpart := h part List.mem_cons_self
    cases parts with
    | nil => exact splitOn_of_not_mem hpart
    | cons next parts =>
      rw [join, splitOn_append hpart,
        ih (List.cons_ne_nil _ _) fun q hq => h q (List.mem_cons_of_mem _ hq)]
      simp

/-- A text is cut at the first occurrence, so the part before it has no other one. -/
theorem cutFirst?_eq_some_iff {cs' : List Char} :
    cutFirst? sep cs = some (front, cs') ↔ cs = front ++ sep :: cs' ∧ sep ∉ front := by
  induction cs generalizing front cs' with
  | nil => simp [cutFirst?]
  | cons c rest ih =>
    by_cases hc : c = sep
    · subst hc
      cases front with
      | nil => simp [cutFirst?]
      | cons d front => simp +contextual [cutFirst?, eq_comm]
    · cases front with
      | nil => simp [cutFirst?, hc]
      | cons d front =>
        rw [cutFirst?, if_neg hc, Option.map_eq_some_iff]
        simp only [Prod.exists, Prod.mk.injEq, List.cons.injEq, ih, List.cons_append, List.mem_cons]
        constructor
        · rintro ⟨a, b, ⟨rfl, hfront⟩, ⟨rfl, rfl⟩, rfl⟩
          exact ⟨⟨rfl, rfl⟩, not_or.2 ⟨Ne.symm hc, hfront⟩⟩
        · rintro ⟨⟨rfl, rfl⟩, hfront⟩
          exact ⟨front, cs', ⟨rfl, (not_or.1 hfront).2⟩, ⟨rfl, rfl⟩, rfl⟩

theorem tight_join (hne : parts ≠ []) (h : ∀ part ∈ parts, IsTight part) :
    IsTight (join sep parts) := by
  induction parts with
  | nil => exact absurd rfl hne
  | cons part parts ih =>
    have hpart := h part List.mem_cons_self
    cases parts with
    | nil => exact hpart
    | cons next parts =>
      rw [join]
      · have hrest := ih (List.cons_ne_nil _ _) fun q hq => h q (List.mem_cons_of_mem _ hq)
        exact hpart.join hrest [sep]
      · simp

theorem not_mem_join {d : Char} (hd : d ≠ sep) (h : ∀ part ∈ parts, d ∉ part) :
    d ∉ join sep parts := by
  induction parts with
  | nil => exact List.not_mem_nil
  | cons part parts ih =>
    have hpart := h part List.mem_cons_self
    cases parts with
    | nil => exact hpart
    | cons next parts =>
      have hrest := ih fun q hq => h q (List.mem_cons_of_mem _ hq)
      rw [join]
      · simp [hpart, hd, hrest]
      · simp

end SynthTable.Text
