import Mathlib.Data.List.Nodup
import SynthTable.Proofs.Draw.Pattern
import SynthTable.Proofs.Text.Parts

/-!
# Candidates of groups

Between the brackets of a group stand items with commas between them: ranges such as `a-z`, and
characters that are candidates one by one. The ranges are cut from an alphabet that is written out.
Its small letters, its capital letters and its digits stand without gaps, so that a range is all the
characters from its first to its last one (`range?_eq_span`). No hyphen stands outside the ranges,
and so none is found across a comma: the ranges are taken out of the text item by item, and the
commas stay behind with the other items (`expandRanges_interiorOf`). The candidates of a group are
the characters of its ranges and after them those of its other items, and a group with candidates
and a number is never left out (`slots_interiorOf`).
-/

namespace SynthTable.Pattern

open Text

/-! ## Items -/

/-- An item of a group: a range of characters, or characters one by one. -/
inductive Item where
  | range (first last : Char)
  | plain (chars : List Char)

/-- The least and the greatest of the small letters, of the capital letters and of the digits. -/
def classEnds : List (Char × Char) := [('a', 'z'), ('A', 'Z'), ('0', '9')]

/-- The marks that end an item, stand in a range and end a group. -/
def marks : List Char := [',', '-', ']']

/-- A range goes up within a class, and plain characters are no marks. -/
inductive Item.IsProper : Item → Prop
  | range {low first last high} (hclass : (low, high) ∈ classEnds) (hlow : low ≤ first)
    (hle : first ≤ last) (hhigh : last ≤ high) : IsProper (.range first last)
  | plain {chars} (hfree : ∀ c ∈ chars, c ∉ marks) : IsProper (.plain chars)

/-- An item as it is written. -/
def Item.text : Item → List Char
  | .range first last => [first, '-', last]
  | .plain chars => chars

/-- The characters from one to another, in their order. -/
def span (first last : Char) : List Char :=
  (List.range' first.toNat (last.toNat + 1 - first.toNat)).map Char.ofNat

/-- The characters of a range. -/
def Item.ranged : Item → List Char
  | .range first last => span first last
  | .plain _ => []

/-- The characters of an item that is no range. -/
def Item.others : Item → List Char
  | .range _ _ => []
  | .plain chars => chars

/-- The interior of a group of some items. -/
def interiorOf (items : List Item) : List Char := join ',' (items.map Item.text)

/-- The candidates that some items give: those of all ranges, then those of the other items. -/
def offered (items : List Item) : List Char :=
  items.flatMap Item.ranged ++ items.flatMap Item.others

variable {first last low high c : Char} {item : Item} {items : List Item} {rest : List Char}

/-! ## Characters in their order -/

theorem toNat_lt_of_class (hclass : (low, high) ∈ classEnds) (hhigh : last ≤ high) :
    last.toNat < 0xd800 := by
  have hle : last.toNat ≤ high.toNat := hhigh
  have hends : ∀ ends ∈ classEnds, ends.2.toNat < 0xd800 := by decide
  exact Nat.lt_of_le_of_lt hle (hends _ hclass)

/-- A character between two stands among those from one to the other as far from the first as its
number says. -/
theorem getElem?_span (hfirst : first ≤ c) (hlast : c ≤ last) :
    (span first last)[c.toNat - first.toNat]? = some c := by
  have hfirst : first.toNat ≤ c.toNat := hfirst
  have hlast : c.toNat ≤ last.toNat := hlast
  rw [span, List.getElem?_map, List.getElem?_range' (by omega), Option.map_some, Nat.one_mul,
    Nat.add_sub_cancel' hfirst, Char.ofNat_toNat]

theorem mem_span_iff (hlast : last.toNat < 0xd800) : c ∈ span first last ↔ first ≤ c ∧ c ≤ last := by
  constructor
  · intro hc
    obtain ⟨n, hn, rfl⟩ := List.mem_map.1 hc
    rw [List.mem_range'_1] at hn
    have hn' := @toNat_ofNat_of_lt n (by omega)
    constructor
    · show first.toNat ≤ (Char.ofNat n).toNat
      omega
    · show (Char.ofNat n).toNat ≤ last.toNat
      omega
  · rintro ⟨hfirst, hle⟩
    exact List.mem_of_getElem? (getElem?_span hfirst hle)

theorem pairwise_span (hlast : last.toNat < 0xd800) : (span first last).Pairwise (· < ·) := by
  rw [span, List.pairwise_map]
  refine List.Pairwise.imp_of_mem ?_ List.pairwise_lt_range'
  intro m n hm hn hlt
  rw [List.mem_range'_1] at hm hn
  show (Char.ofNat m).toNat < (Char.ofNat n).toNat
  rwa [toNat_ofNat_of_lt (by omega), toNat_ofNat_of_lt (by omega)]

/-- The characters from one to another are part of those from a lower one to a higher one. -/
theorem exists_span_eq (hlow : low ≤ first) (hle : first ≤ last) (hhigh : last ≤ high) :
    ∃ before after, span low high = before ++ (span first last ++ after) := by
  have hlow : low.toNat ≤ first.toNat := hlow
  have hle : first.toNat ≤ last.toNat := hle
  have hhigh : last.toNat ≤ high.toNat := hhigh
  refine ⟨(List.range' low.toNat (first.toNat - low.toNat)).map Char.ofNat,
    (List.range' (last.toNat + 1) (high.toNat - last.toNat)).map Char.ofNat, ?_⟩
  have hcount : high.toNat + 1 - low.toNat = first.toNat - low.toNat +
      (last.toNat + 1 - first.toNat + (high.toNat - last.toNat)) := by omega
  have hfirst : low.toNat + (first.toNat - low.toNat) = first.toNat := by omega
  have hlast : first.toNat + (last.toNat + 1 - first.toNat) = last.toNat + 1 := by omega
  rw [span, span, hcount, ← List.range'_append_1, hfirst, ← List.range'_append_1, hlast,
    List.map_append, List.map_append]

/-! ## Ranges -/

theorem nodup_alphabet : alphabet.Nodup := by decide

/-- Each class stands in the alphabet in order and without gaps. -/
theorem exists_alphabet_eq (hclass : (low, high) ∈ classEnds) :
    ∃ before after, alphabet = before ++ (span low high ++ after) := by
  simp only [classEnds, List.mem_cons, List.not_mem_nil, or_false, Prod.mk.injEq] at hclass
  rcases hclass with ⟨rfl, rfl⟩ | ⟨rfl, rfl⟩ | ⟨rfl, rfl⟩
  · exact ⟨[], span 'A' 'Z' ++ span '0' '9', by decide⟩
  · exact ⟨span 'a' 'z', span '0' '9', by decide⟩
  · exact ⟨span 'a' 'z' ++ span 'A' 'Z', [], by decide⟩

theorem idxOf?_alphabet {i : Nat} (h : alphabet[i]? = some c) : alphabet.idxOf? c = some i := by
  obtain ⟨hi, rfl⟩ := List.getElem?_eq_some_iff.1 h
  refine List.idxOf?_eq_some_iff.2 ⟨hi, rfl, ?_⟩
  intro j hj hsame
  exact Nat.ne_of_lt hj (nodup_alphabet.getElem_inj_iff.1 hsame)

theorem sameClass_of_class (hclass : (low, high) ∈ classEnds) (hlow : low ≤ first)
    (hle : first ≤ last) (hhigh : last ≤ high) : sameClass first last = true := by
  have hinside : ∀ c, first ≤ c → c ≤ last → low ≤ c ∧ c ≤ high :=
    fun c hfirst hlast => ⟨Char.le_trans hlow hfirst, Char.le_trans hlast hhigh⟩
  have hfirst := hinside first (Char.le_refl _) hle
  have hlast := hinside last hle (Char.le_refl _)
  simp only [classEnds, List.mem_cons, List.not_mem_nil, or_false, Prod.mk.injEq] at hclass
  rcases hclass with ⟨rfl, rfl⟩ | ⟨rfl, rfl⟩ | ⟨rfl, rfl⟩
  · have hlower : ∀ c : Char, 'a' ≤ c ∧ c ≤ 'z' → c.isLower = true :=
      fun c h => Bool.and_eq_true_iff.2 ⟨decide_eq_true h.1, decide_eq_true h.2⟩
    simp [sameClass, hlower first hfirst, hlower last hlast]
  · have hupper : ∀ c : Char, 'A' ≤ c ∧ c ≤ 'Z' → c.isUpper = true := fun c => decide_eq_true
    simp [sameClass, hupper first hfirst, hupper last hlast]
  · have hdigit : ∀ c : Char, '0' ≤ c ∧ c ≤ '9' → c.isDigit = true :=
      fun c h => Bool.and_eq_true_iff.2 ⟨decide_eq_true h.1, decide_eq_true h.2⟩
    simp [sameClass, hdigit first hfirst, hdigit last hlast]

/-- A range that goes up within a class is all the characters from its first to its last one. -/
theorem range?_eq_span (hclass : (low, high) ∈ classEnds) (hlow : low ≤ first)
    (hle : first ≤ last) (hhigh : last ≤ high) : range? first last = some (span first last) := by
  obtain ⟨front, back, halphabet⟩ := exists_alphabet_eq hclass
  obtain ⟨before, after, hspan⟩ := exists_span_eq hlow hle hhigh
  rw [hspan, List.append_assoc, List.append_assoc, ← List.append_assoc front] at halphabet
  -- where a character of the range stands in the alphabet
  have hplace : ∀ c, first ≤ c → c ≤ last →
      alphabet.idxOf? c = some ((front ++ before).length + (c.toNat - first.toNat)) := by
    intro c hfirst hlast
    have hget := getElem?_span hfirst hlast
    obtain ⟨hinside, -⟩ := List.getElem?_eq_some_iff.1 hget
    apply idxOf?_alphabet
    rw [halphabet, List.getElem?_append_right (Nat.le_add_right _ _), Nat.add_sub_cancel_left,
      List.getElem?_append_left hinside, hget]
  have hlength : (span first last).length = last.toNat + 1 - first.toNat := by simp [span]
  have hle' : first.toNat ≤ last.toNat := hle
  rw [range?, sameClass_of_class hclass hlow hle hhigh, hplace first (Char.le_refl _) hle,
    hplace last hle (Char.le_refl _)]
  simp only [hle, decide_true, Bool.and_self, if_true, Nat.sub_self, Nat.add_zero, Option.some.injEq]
  rw [halphabet, List.drop_left, List.take_left' (by omega)]

/-! ## Taking out the ranges -/

theorem expandRanges_cons (h : rest.head? ≠ some '-') :
    expandRanges (c :: rest) = ((expandRanges rest).1, c :: (expandRanges rest).2) := by
  cases rest with
  | nil => rfl
  | cons d rest =>
    have hhyphen : d ≠ '-' := by
      rintro rfl
      exact h rfl
    rw [expandRanges]
    rintro b more ⟨⟩
    exact hhyphen rfl

/-- Where no hyphen is, nothing is taken out. -/
theorem expandRanges_append {chars : List Char} (hchars : '-' ∉ chars)
    (hrest : rest.head? ≠ some '-') :
    expandRanges (chars ++ rest) = ((expandRanges rest).1, chars ++ (expandRanges rest).2) := by
  induction chars with
  | nil => rfl
  | cons c chars ih =>
    rw [List.mem_cons, not_or] at hchars
    have hnext : (chars ++ rest).head? ≠ some '-' := by
      cases chars with
      | nil => exact hrest
      | cons d chars =>
        intro hhyphen
        obtain rfl : d = '-' := Option.some.inj hhyphen
        exact hchars.2 List.mem_cons_self
    rw [List.cons_append, expandRanges_cons hnext, ih hchars.2, List.cons_append]

/-- Of an item a range is taken out and anything else is left. -/
theorem Item.IsProper.expandRanges_append (h : item.IsProper) (hrest : rest.head? ≠ some '-') :
    expandRanges (item.text ++ rest) =
      (item.ranged ++ (expandRanges rest).1, item.others ++ (expandRanges rest).2) := by
  cases h with
  | @range low first last high hclass hlow hle hhigh =>
    show expandRanges (first :: '-' :: last :: rest) = _
    rw [expandRanges, range?_eq_span hclass hlow hle hhigh]
    rfl
  | plain hfree =>
    exact Pattern.expandRanges_append (fun hmem => hfree _ hmem (by decide)) hrest

/-- No character of a class is a mark. -/
theorem notMem_marks_of_class (hclass : (low, high) ∈ classEnds) (hlow : low ≤ c)
    (hhigh : c ≤ high) : c ∉ marks := by
  have houtside :
      (classEnds.all fun ends => marks.all fun d => !decide (ends.1 ≤ d ∧ d ≤ ends.2)) = true := by
    decide
  simp only [List.all_eq_true, Bool.not_eq_true', decide_eq_false_iff_not] at houtside
  exact fun hmark => houtside _ hclass c hmark ⟨hlow, hhigh⟩

/-- No item begins with a hyphen. -/
theorem Item.IsProper.head_ne (h : item.IsProper) (hrest : rest.head? ≠ some '-') :
    (item.text ++ rest).head? ≠ some '-' := by
  have hhyphen : '-' ∈ marks := by decide
  cases h with
  | range hclass hlow hle hhigh =>
    rintro ⟨⟩
    exact notMem_marks_of_class hclass hlow (Char.le_trans hle hhigh) hhyphen
  | @plain chars hfree =>
    cases chars with
    | nil => exact hrest
    | cons c chars =>
      rintro ⟨⟩
      exact hfree _ List.mem_cons_self hhyphen

/-- Neither the comma nor the closing bracket stands in an item. -/
theorem Item.IsProper.notMem_text (h : item.IsProper) (hmark : c ∈ marks) (hne : c ≠ '-') :
    c ∉ item.text := by
  intro hc
  cases h with
  | range hclass hlow hle hhigh =>
    simp only [Item.text, List.mem_cons, List.not_mem_nil, or_false] at hc
    rcases hc with rfl | rfl | rfl
    · exact notMem_marks_of_class hclass hlow (Char.le_trans hle hhigh) hmark
    · exact hne rfl
    · exact notMem_marks_of_class hclass (Char.le_trans hlow hle) hhigh hmark
  | plain hfree => exact hfree c hc hmark

theorem head_interiorOf_ne (h : ∀ item ∈ items, Item.IsProper item) :
    (interiorOf items).head? ≠ some '-' := by
  cases items with
  | nil => exact nofun
  | cons item items =>
    have hitem := h item List.mem_cons_self
    cases items with
    | nil =>
      have hend : ([] : List Char).head? ≠ some '-' := nofun
      have hhead := hitem.head_ne hend
      rwa [List.append_nil] at hhead
    | cons next items => exact hitem.head_ne (by simp)

/-- The ranges are taken out item by item, and the commas stay behind with the other items. -/
theorem expandRanges_interiorOf (h : ∀ item ∈ items, Item.IsProper item) :
    expandRanges (interiorOf items) =
      (items.flatMap Item.ranged, join ',' (items.map Item.others)) := by
  induction items with
  | nil => rfl
  | cons item items ih =>
    have hitem := h item List.mem_cons_self
    have hitems := fun other hother => h other (List.mem_cons_of_mem item hother)
    cases items with
    | nil =>
      have hend : ([] : List Char).head? ≠ some '-' := nofun
      have hexpand := hitem.expandRanges_append hend
      rw [List.append_nil] at hexpand
      rw [interiorOf, List.map_singleton, join, hexpand]
      simp [expandRanges, join]
    | cons next items =>
      have hcomma : (',' :: interiorOf (next :: items)).head? ≠ some '-' := by simp
      show expandRanges (item.text ++ ',' :: interiorOf (next :: items)) = _
      rw [hitem.expandRanges_append hcomma, expandRanges_cons (head_interiorOf_ne hitems),
        ih hitems]
      rfl

/-! ## Candidates -/

theorem filter_join {parts : List (List Char)} (h : ∀ part ∈ parts, ',' ∉ part) :
    (join ',' parts).filter (· != ',') = parts.flatten := by
  induction parts with
  | nil => rfl
  | cons part parts ih =>
    have hparts := fun other hother => h other (List.mem_cons_of_mem part hother)
    have hpart : part.filter (· != ',') = part := by
      refine List.filter_eq_self.2 fun c hc => ?_
      have hcomma : c ≠ ',' := fun heq => h part List.mem_cons_self (heq ▸ hc)
      simpa using hcomma
    cases parts with
    | nil => simp [join, hpart]
    | cons next parts =>
      have hjoin : join ',' (part :: next :: parts) = part ++ ',' :: join ',' (next :: parts) := rfl
      rw [hjoin, List.filter_append, hpart, List.filter_cons_of_neg (by simp), ih hparts,
        ← List.flatten_cons]

theorem comma_notMem_others (h : item.IsProper) : ',' ∉ item.others := by
  cases h with
  | range => exact List.not_mem_nil
  | plain hfree => exact fun hmem => hfree _ hmem (by decide)

/-- The candidates of a group are the characters of its ranges, and after them those of its other
items. -/
theorem candidates_interiorOf (h : ∀ item ∈ items, Item.IsProper item) :
    candidates (interiorOf items) = offered items := by
  have hothers : ∀ part ∈ items.map Item.others, ',' ∉ part := by
    intro part hpart
    obtain ⟨item, hitem, rfl⟩ := List.mem_map.1 hpart
    exact comma_notMem_others (h item hitem)
  rw [candidates, expandRanges_interiorOf h]
  dsimp only
  rw [filter_join hothers, ← List.flatMap_def, offered]

/-- A group of proper items is a group of a pattern if digits stand between its braces. -/
theorem isProper_interiorOf (h : ∀ item ∈ items, Item.IsProper item) {count : List Char}
    (hcount : ∀ c ∈ count, Numeral.isDigit c = true) : Group.IsProper ⟨interiorOf items, count⟩ := by
  refine ⟨not_mem_join (by decide) ?_, hcount⟩
  intro part hpart
  obtain ⟨item, hitem, rfl⟩ := List.mem_map.1 hpart
  exact (h item hitem).notMem_text (by decide) (by decide)

/-- The candidates of a group of items are the characters of its ranges from the first to the last
one, in their order and none left out, and after them those of its other items. If there are any, a
group with a number is never left out: it stands for as many choices as it says, by itself and, where
there is room for them, before any other text of a pattern. -/
theorem slots_interiorOf (h : ∀ item ∈ items, Item.IsProper item) :
    candidates (interiorOf items) = offered items ∧
    (∀ first last, .range first last ∈ items → (span first last).Pairwise (· < ·) ∧
      ∀ c, c ∈ span first last ↔ first ≤ c ∧ c ≤ last) ∧
    ∀ count n, repetitions? count = some n → offered items ≠ [] →
      Group.choices ⟨interiorOf items, count⟩ = .ok (offered items, n) ∧
      ((∀ c ∈ count, Numeral.isDigit c = true) → ∀ room rest,
        readFrom room (Group.text ⟨interiorOf items, count⟩ ++ rest) =
          if room < n then ⟨none, []⟩
          else ⟨(readFrom (room - n) rest).slots?.map
              (List.replicate n (.choice (offered items)) ++ ·),
            (readFrom (room - n) rest).malformed⟩) := by
  have hcandidates := candidates_interiorOf h
  refine ⟨hcandidates, ?_, ?_⟩
  · intro first last hitem
    have hlast : last.toNat < 0xd800 := by
      cases h _ hitem with
      | range hclass _ _ hhigh => exact toNat_lt_of_class hclass hhigh
    exact ⟨pairwise_span hlast, fun c => mem_span_iff hlast⟩
  · intro count n hn hsome
    refine ⟨?_, fun hcount room rest => ?_⟩
    · obtain ⟨c, chars, hoffered⟩ := List.exists_cons_of_ne_nil hsome
      simp only [Group.choices, hn, hcandidates, hoffered]
    · have hproper := isProper_interiorOf h hcount
      have hnumber : Group.number? ⟨interiorOf items, count⟩ = some n := by
        rw [← repetitions?_eq hproper]
        exact hn
      have hfault : Group.fault? ⟨interiorOf items, count⟩ = none := by
        simp only [Group.fault?, hnumber, hcandidates, hsome, if_false]
      rw [readFrom_group hproper]
      simp only [Piece.join, Piece.size, Piece.slots, Piece.report?, hfault, hnumber, hcandidates]
      rfl

/-- Ranges of letters and digits among other items, one of them empty. -/
def mixedItems : List Item :=
  [.range 'v' 'x', .plain ['a', 'b'], .range '0' '3', .plain [], .range 'Z' 'Z', .plain ['é', '_']]

theorem slots_interiorOf_mixedItems :
    interiorOf mixedItems = "v-x,ab,0-3,,Z-Z,é_".toList ∧
    (∀ item ∈ mixedItems, Item.IsProper item) ∧
    candidates (interiorOf mixedItems) = "vwx0123Zabé_".toList ∧
    repetitions? ['2'] = some 2 ∧
    ofText? "[v-x,ab,0-3,,Z-Z,é_]\x7b2\x7d-" =
      some ⟨[.choice "vwx0123Zabé_".toList, .choice "vwx0123Zabé_".toList, .literal '-'], []⟩ := by
  have hproper : ∀ item ∈ mixedItems, Item.IsProper item := by
    simp only [mixedItems, List.forall_mem_cons, List.not_mem_nil, false_implies, implies_true,
      and_true]
    have hsmall : ('a', 'z') ∈ classEnds := by decide
    have hcapital : ('A', 'Z') ∈ classEnds := by decide
    have hdigit : ('0', '9') ∈ classEnds := by decide
    exact ⟨.range hsmall (by decide) (by decide) (by decide), .plain (by simp [marks]),
      .range hdigit (by decide) (by decide) (by decide), .plain (by simp),
      .range hcapital (by decide) (by decide) (by decide), .plain (by simp [marks])⟩
  have hoffered : offered mixedItems = "vwx0123Zabé_".toList := by decide
  have htext : interiorOf mixedItems = "v-x,ab,0-3,,Z-Z,é_".toList := by decide
  have hnumber : repetitions? ['2'] = some 2 := by decide
  obtain ⟨hcandidates, -, hslots⟩ := slots_interiorOf hproper
  have hdigits : ∀ c ∈ ['2'], Numeral.isDigit c = true := List.all_eq_true.1 rfl
  obtain ⟨-, hpattern⟩ := hslots _ _ hnumber (by rw [hoffered]; decide)
  have hpattern := hpattern hdigits maxSlots ['-']
  have hrest : readFrom (maxSlots - 2) ['-'] = ⟨some [.literal '-'], []⟩ := by decide +kernel
  have hwhole : "[v-x,ab,0-3,,Z-Z,é_]\x7b2\x7d-".toList =
      Group.text ⟨interiorOf mixedItems, ['2']⟩ ++ ['-'] := by
    rw [htext]
    decide
  rw [hoffered, hrest, if_neg (by decide)] at hpattern
  rw [hoffered] at hcandidates
  exact ⟨htext, hproper, hcandidates, hnumber, by rw [ofText?, read, hwhole, hpattern]; rfl⟩

end SynthTable.Pattern
