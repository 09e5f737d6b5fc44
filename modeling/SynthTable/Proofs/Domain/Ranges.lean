import Mathlib.Data.Set.Image
import SynthTable.Proofs.Domain.Shared

/-!
# Draws from a range

A domain without values to draw from draws from a range. What it gives is stated from both sides
(`GivesExactly`): whatever the source of words and what rows share, it gives a value of the range
and no crash, and each value of the range is given for some words. The draw between two integers
does so (`givesExactly_int64Between`), and so does a domain that makes its values of the numbers
drawn (`GivesExactly.of_draw`); the integers of a built domain are the first case
(`givesExactly_buildInteger`). For times it is said here which second gives which value
(`Domain.generate_date_fst_of_isEmpty`), whether or not the time is written as a text.
-/

namespace SynthTable

/-- A way to draw from words gives just these results: one of them for any words, and each of them
for some. -/
structure Random.GivesExactly {α : Type} (draw : {σ : Type} → [RandomSource σ] → σ → α × σ)
    (results : Set α) : Prop where
  sound : ∀ {σ : Type} [RandomSource σ] (s : σ), (draw s).1 ∈ results
  complete : ∀ a ∈ results, ∃ words, (draw (Random.WordCycle.ofList words)).1 = a

/-- A way to make values gives just these: one of them for any words and whatever rows share, so
that it never crashes, and each of them for some words. -/
structure GivesExactly
    (generate : {σ : Type} → [RandomSource σ] → World σ → Except Crash Value × World σ)
    (values : Set Value) : Prop where
  sound : ∀ {σ : Type} [RandomSource σ] (w : World σ), ∃ v ∈ values, (generate w).1 = .ok v
  complete : ∀ v ∈ values, ∃ words, ∀ shared,
    (generate ⟨Random.WordCycle.ofList words, shared⟩).1 = .ok v

/-- The draw between two integers gives just the integers between them. -/
theorem Random.givesExactly_int64Between {low high : Int64} (h : low ≤ high) :
    Random.GivesExactly (int64Between low high) {n | low ≤ n ∧ n ≤ high} where
  sound := int64Between_mem h
  complete := fun _ hn => exists_words_int64Between hn.1 hn.2

/-- If the possible results of a draw are the numbers of some things, and the thing of the number
drawn becomes the value, just the values of these things are given. -/
theorem GivesExactly.of_draw {α β : Type} {draw : {σ : Type} → [RandomSource σ] → σ → α × σ}
    {numbers : Set α} (h : Random.GivesExactly draw numbers) {number : β → α} {things : Set β}
    (hnumbers : number '' things = numbers) {toValue : β → Value}
    {generate : {σ : Type} → [RandomSource σ] → World σ → Except Crash Value × World σ}
    (hgenerate : ∀ {σ : Type} [RandomSource σ] (w : World σ), ∀ b ∈ things,
      (draw w.source).1 = number b → (generate w).1 = .ok (toValue b)) :
    GivesExactly generate (toValue '' things) where
  sound := by
    intro σ _ w
    obtain ⟨b, hb, hnumber⟩ := hnumbers ▸ h.sound w.source
    exact ⟨_, ⟨b, hb, rfl⟩, hgenerate w b hb hnumber.symm⟩
  complete := by
    rintro _ ⟨b, hb, rfl⟩
    obtain ⟨words, hwords⟩ := h.complete (number b) (hnumbers ▸ ⟨b, hb, rfl⟩)
    exact ⟨words, fun shared => hgenerate ⟨_, shared⟩ b hb hwords⟩

namespace Domain

section

variable {σ : Type} [RandomSource σ] {values : PickList DateTime} {low high : Int64}
  {format? : Option (String × DateFormat)}

theorem generate_date_fst {useNow : Bool} (column : String) (w : World σ) :
    (generate column (.date values low high useNow format?) w).1 =
      if useNow then timeValue format? (w.take Shared.now).1
      else (drawTime values low high format? w.source).1 := by
  cases useNow <;> rfl

theorem drawTime_fst_of_draw {s : σ} {t : DateTime} (h : (values.draw s).1 = some t) :
    (drawTime values low high format? s).1 = timeValue format? t := by
  rcases hdraw : values.draw s with ⟨_ | t', s'⟩
  · rw [hdraw] at h
    cases h
  · rw [hdraw] at h
    cases h
    simp only [drawTime, hdraw]

/-- For want of values a second is drawn; one that is that of no time leaves the cell empty. -/
theorem generate_date_fst_of_isEmpty (h : values.isEmpty = true) (column : String) (w : World σ) :
    (generate column (.date values low high false format?) w).1 =
      match DateTime.ofEpochSeconds? (Random.int64Between low high w.source).1.toInt with
      | some t => timeValue format? t
      | none => .ok .null := by
  rw [generate_date_fst, if_neg Bool.false_ne_true, drawTime, draw_of_isEmpty h]
  dsimp only
  cases DateTime.ofEpochSeconds? (Random.int64Between low high w.source).1.toInt <;> rfl

/-- Whether listed or between two seconds, what is drawn is a time or nothing. -/
theorem drawTime_fst_cases (values : PickList DateTime) (low high : Int64)
    (format? : Option (String × DateFormat)) (s : σ) :
    (∃ t, (drawTime values low high format? s).1 = timeValue format? t) ∨
      (drawTime values low high format? s).1 = .ok .null := by
  rw [drawTime]
  split
  · next t _ _ => exact .inl ⟨t, rfl⟩
  · dsimp only
    split
    · next t _ => exact .inl ⟨t, rfl⟩
    · exact .inr rfl

end

theorem eq_of_intBound {label : String} {default n : Int64} {b? : Option Bound}
    (h : intBound label default b? = .ok n) : n = (b?.bind Bound.int64?).getD default := by
  cases b? with
  | none =>
    cases h
    rfl
  | some b =>
    rw [intBound] at h
    split at h
    · next m hm =>
      cases h
      rw [Option.bind_some, hm]
      rfl
    · cases h

theorem exists_of_buildInteger {c : Column} {least greatest : Int64} {domain : Domain}
    (h : buildInteger c least greatest = .ok domain) :
    ∃ values low high, listed c "an integer" (fun s => Numeral.int64? (Text.trim s.toList)) =
        .ok values ∧
      intBound "min" least c.min? = .ok low ∧ intBound "max" greatest c.max? = .ok high ∧
      low ≤ high ∧ domain = .integer values low high := by
  obtain ⟨values, hvalues, h⟩ := exists_ok_of_bind h
  obtain ⟨low, hlow, h⟩ := exists_ok_of_bind h
  obtain ⟨high, hhigh, h⟩ := exists_ok_of_bind h
  split at h
  · cases h
  · next hcross =>
    cases h
    exact ⟨values, low, high, hvalues, hlow, hhigh, Int64.not_lt.1 hcross, rfl⟩

theorem givesExactly_integer {values : PickList Int64} {low high : Int64} (hle : low ≤ high)
    (hempty : values.isEmpty = true) (column : String) :
    GivesExactly (generate column (.integer values low high))
      (Value.int '' {n | low ≤ n ∧ n ≤ high}) := by
  refine .of_draw (Random.givesExactly_int64Between hle) (Set.image_id _) ?_
  intro σ _ w n _ hn
  simp only [generate, drawn, asValue, World.draw, listedOr, draw_of_isEmpty hempty, hn, id]

/-- Integers without values to draw from are drawn from the whole of their range: every draw lies
between the bounds, equal bounds give no other integer, and each integer between them is drawn for
some words. -/
theorem givesExactly_buildInteger {c : Column} {least greatest : Int64} {domain : Domain}
    (h : buildInteger c least greatest = .ok domain) (hnone : c.DrawsNone) (column : String) :
    ∃ low high, low = (c.min?.bind Bound.int64?).getD least ∧
      high = (c.max?.bind Bound.int64?).getD greatest ∧ low ≤ high ∧
      GivesExactly (domain.generate column) (Value.int '' {n | low ≤ n ∧ n ≤ high}) ∧
      (low = high → ∀ {σ : Type} [RandomSource σ] (w : World σ),
        (domain.generate column w).1 = .ok (.int low)) := by
  obtain ⟨values, low, high, hvalues, hlow, hhigh, hle, rfl⟩ := exists_of_buildInteger h
  have hexact := givesExactly_integer hle (isEmpty_listed_of_drawsNone hvalues hnone) column
  refine ⟨low, high, eq_of_intBound hlow, eq_of_intBound hhigh, hle, hexact, ?_⟩
  intro heq σ _ w
  obtain ⟨_, ⟨n, hn, rfl⟩, hvalue⟩ := hexact.sound w
  have hsame : n = low := Int64.le_antisymm (heq ▸ hn.2) hn.1
  rw [hvalue, hsame]

/-- A column of all integers, with a value that is never drawn. -/
def anyInteger : Column :=
  { Column.plain "n" .long with
    values := [("12", 0)]
    min? := some (.integer Int64.minValue)
    max? := some (.integer Int64.maxValue) }

theorem givesExactly_anyInteger :
    buildInteger anyInteger 0 0 = .ok (.integer ⟨[]⟩ Int64.minValue Int64.maxValue) ∧
      anyInteger.DrawsNone ∧
      ∃ low high, low = Int64.minValue ∧ high = Int64.maxValue ∧ low ≤ high ∧
        GivesExactly (generate "n" (.integer ⟨[]⟩ Int64.minValue Int64.maxValue))
          (Value.int '' {n | low ≤ n ∧ n ≤ high}) ∧
        (low = high → ∀ {σ : Type} [RandomSource σ] (w : World σ),
          (generate "n" (.integer ⟨[]⟩ Int64.minValue Int64.maxValue) w).1 = .ok (.int low)) := by
  have hbuild : buildInteger anyInteger 0 0 =
      .ok (.integer ⟨[]⟩ Int64.minValue Int64.maxValue) := by rfl
  have hnone : anyInteger.DrawsNone := by decide
  exact ⟨hbuild, hnone, givesExactly_buildInteger hbuild hnone "n"⟩

end Domain

end SynthTable
