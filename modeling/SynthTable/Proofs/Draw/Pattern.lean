import Mathlib.Algebra.GroupWithZero.Nat
import Mathlib.Data.List.Forall2
import Mathlib.Data.List.TakeWhile
import SynthTable.Draw.Pattern
import SynthTable.Proofs.Random.Range

/-!
# Patterns are cut and rendered exactly

A text is cut from left to right: wherever a group begins the whole group is a piece, and everywhere
else one character is (`Cut`). There is exactly one such cut (`exists_cut`, `Cut.unique`), and the
slots of a pattern are those of its pieces in order, unless there is no room for so many
(`readFrom_of_cut`). Every slot has a character to give, so rendering draws one from each slot and
never draws from nothing (`ofText?_renders_cut`).
-/

namespace SynthTable

namespace Pattern

/-! ## Pieces -/

/-- No closing bracket stands between the brackets of a group, only digits between its braces. -/
structure Group.IsProper (g : Group) : Prop where
  interior : ']' ∉ g.interior
  count : ∀ c ∈ g.count, Numeral.isDigit c = true

/-- A piece of a pattern. -/
inductive Piece where
  | plain (c : Char)
  | group (g : Group)

/-- A piece as it is written. -/
def Piece.text : Piece → List Char
  | .plain c => [c]
  | .group g => g.text

/-- Whether a group stands at the start of a text. -/
def BeginsGroup (cs : List Char) : Prop := ∃ g rest, Group.IsProper g ∧ cs = g.text ++ rest

/-- A text and its pieces: a group wherever one begins, and else a single character. -/
inductive Cut : List Char → List Piece → Prop
  | nil : Cut [] []
  | group {g : Group} {rest : List Char} {pieces : List Piece} :
      g.IsProper → Cut rest pieces → Cut (g.text ++ rest) (.group g :: pieces)
  | plain {c : Char} {cs : List Char} {pieces : List Piece} :
      ¬ BeginsGroup (c :: cs) → Cut cs pieces → Cut (c :: cs) (.plain c :: pieces)

/-- The number between the braces of a group, if there are digits and they write a word of 64
bits. -/
def Group.number? (g : Group) : Option Nat :=
  if g.count ≠ [] ∧ Numeral.value g.count < UInt64.size then some (Numeral.value g.count) else none

/-- Why a group is left out, if it is. -/
def Group.fault? (g : Group) : Option GroupFault :=
  match g.number? with
  | none => some (.repetition g.count)
  | some _ => if candidates g.interior = [] then some .noCandidates else none

/-- The slots of a piece: one literal for a character; for a group that is not left out, as many
choices as it says. -/
def Piece.slots : Piece → List Slot
  | .plain c => [.literal c]
  | .group g =>
    match g.fault?, g.number? with
    | none, some n => List.replicate n (.choice (candidates g.interior))
    | _, _ => []

/-- The number of slots of a piece. -/
def Piece.size : Piece → Nat
  | .plain _ => 1
  | .group g =>
    match g.fault?, g.number? with
    | none, some n => n
    | _, _ => 0

/-- What is reported on a piece. -/
def Piece.report? : Piece → Option MalformedGroup
  | .plain _ => none
  | .group g => g.fault?.map fun fault => ⟨g.text, fault⟩

variable {g g' : Group} {c : Char} {cs rest rest' : List Char} {pieces pieces' : List Piece}

/-! ## Reading one group -/

theorem text_append (g : Group) (rest : List Char) :
    g.text ++ rest = '[' :: (g.interior ++ ']' :: '{' :: (g.count ++ '}' :: rest)) := by
  simp [Group.text]

theorem dropWhile_interior (h : ']' ∉ g.interior) (rest : List Char) :
    (g.interior ++ ']' :: rest).dropWhile (· != ']') = ']' :: rest ∧
      (g.interior ++ ']' :: rest).takeWhile (· != ']') = g.interior := by
  have hrun : ∀ c ∈ g.interior, (c != ']') = true := by
    intro c hc
    have hne : c ≠ ']' := fun heq => h (heq ▸ hc)
    simpa using hne
  rw [List.dropWhile_append_of_pos hrun, List.takeWhile_append_of_pos hrun]
  simp

theorem dropWhile_count (h : ∀ c ∈ g.count, Numeral.isDigit c = true) (rest : List Char) :
    (g.count ++ '}' :: rest).dropWhile Numeral.isDigit = '}' :: rest ∧
      (g.count ++ '}' :: rest).takeWhile Numeral.isDigit = g.count := by
  have hbrace : Numeral.isDigit '}' = false := by decide
  rw [List.dropWhile_append_of_pos h, List.takeWhile_append_of_pos h]
  simp [hbrace]

/-- The reader finds a group exactly where one begins. -/
theorem readGroup?_eq_some_iff :
    readGroup? cs = some (g, rest) ↔ g.IsProper ∧ '[' :: cs = g.text ++ rest := by
  constructor
  · intro h
    unfold readGroup? at h
    split at h
    · next after hafter =>
      split at h
      · next tail htail =>
        obtain ⟨rfl, rfl⟩ := Prod.mk.inj (Option.some.inj h)
        refine ⟨⟨fun hmem => ?_, fun c hc => List.mem_takeWhile_imp hc⟩, ?_⟩
        · have hstop := List.mem_takeWhile_imp hmem
          simp at hstop
        · have hcs := List.takeWhile_append_dropWhile (p := (· != ']')) (l := cs)
          have hcount := List.takeWhile_append_dropWhile (p := Numeral.isDigit) (l := after)
          rw [hafter] at hcs
          rw [htail] at hcount
          rw [text_append, hcount, hcs]
      · cases h
    · cases h
  · rintro ⟨hproper, htext⟩
    rw [text_append] at htext
    obtain rfl := (List.cons.inj htext).2
    have hinterior := dropWhile_interior hproper.interior ('{' :: (g.count ++ '}' :: rest))
    have hcount := dropWhile_count hproper.count rest
    simp only [readGroup?, hinterior, hcount]

theorem beginsGroup_text (h : g.IsProper) (rest : List Char) : BeginsGroup (g.text ++ rest) :=
  ⟨g, rest, h, rfl⟩

/-- At one place only one group can begin. -/
theorem eq_of_text_append (h : g.IsProper) (h' : g'.IsProper)
    (htext : g.text ++ rest = g'.text ++ rest') : g = g' ∧ rest = rest' := by
  have hread := readGroup?_eq_some_iff.2 ⟨h, (text_append g rest).symm⟩
  have hread' : readGroup? (g.interior ++ ']' :: '{' :: (g.count ++ '}' :: rest)) =
      some (g', rest') := by
    rw [readGroup?_eq_some_iff, ← htext, text_append]
    exact ⟨h', rfl⟩
  rw [hread] at hread'
  exact Prod.mk.inj (Option.some.inj hread')

/-! ## The cut of a text -/

theorem exists_cut (cs : List Char) : ∃ pieces, Cut cs pieces := by
  induction hlength : cs.length using Nat.strongRecOn generalizing cs with
  | ind n ih =>
    cases cs with
    | nil => exact ⟨[], .nil⟩
    | cons c cs =>
      by_cases hbegins : BeginsGroup (c :: cs)
      · obtain ⟨g, rest, hproper, htext⟩ := hbegins
        have hshorter : rest.length < n := by
          rw [← hlength, htext, text_append]
          simp
          omega
        obtain ⟨pieces, hcut⟩ := ih rest.length hshorter rest rfl
        rw [htext]
        exact ⟨_, .group hproper hcut⟩
      · have hshorter : cs.length < n := by
          rw [← hlength]
          exact Nat.lt_succ_self _
        obtain ⟨pieces, hcut⟩ := ih cs.length hshorter cs rfl
        exact ⟨_, .plain hbegins hcut⟩

theorem Cut.unique (h : Cut cs pieces) (h' : Cut cs pieces') : pieces = pieces' := by
  induction h generalizing pieces' with
  | nil =>
    generalize hnil : ([] : List Char) = cs at h'
    cases h' with
    | nil => rfl
    | group hproper =>
      rw [text_append] at hnil
      cases hnil
    | plain => cases hnil
  | @group g rest pieces hproper hcut ih =>
    generalize htext : g.text ++ rest = cs at h'
    cases h' with
    | nil =>
      rw [text_append] at htext
      cases htext
    | group hproper' hcut' =>
      obtain ⟨rfl, rfl⟩ := eq_of_text_append hproper hproper' htext
      rw [ih hcut']
    | plain hbegins =>
      rw [← htext] at hbegins
      exact absurd (beginsGroup_text hproper rest) hbegins
  | @plain c cs pieces hbegins hcut ih =>
    generalize htext : c :: cs = text at h'
    cases h' with
    | nil => cases htext
    | group hproper =>
      rw [htext] at hbegins
      exact absurd (beginsGroup_text hproper _) hbegins
    | plain hbegins' hcut' =>
      obtain ⟨rfl, rfl⟩ := List.cons.inj htext
      rw [ih hcut']

/-- No character is lost or written twice. -/
theorem Cut.text_eq (h : Cut cs pieces) : pieces.flatMap Piece.text = cs := by
  induction h with
  | nil => rfl
  | group hproper hcut ih => rw [List.flatMap_cons, ih, Piece.text]
  | plain hbegins hcut ih => rw [List.flatMap_cons, ih, Piece.text, List.singleton_append]

/-! ## The pattern of a text -/

/-- Digits write the number that they stand for, if it is a word of 64 bits. -/
theorem uint64?_of_digits {count : List Char} (h : ∀ c ∈ count, Numeral.isDigit c = true) :
    Numeral.uint64? count =
      if count ≠ [] ∧ Numeral.value count < UInt64.size then some (Numeral.value count).toUInt64
      else none := by
  have hdigits : count.all Numeral.isDigit = true := List.all_eq_true.2 h
  cases count with
  | nil => rfl
  | cons c count =>
    have hplus : c ≠ '+' := by
      rintro rfl
      exact absurd (h '+' List.mem_cons_self) (by decide)
    simp [Numeral.uint64?, hplus, hdigits]

theorem repetitions?_eq (h : g.IsProper) : repetitions? g.count = g.number? := by
  rw [repetitions?, uint64?_of_digits h.count, Group.number?]
  split
  · next hnumber => simp [Nat.mod_eq_of_lt hnumber.2]
  · rfl

theorem choices_of_fault {fault : GroupFault} (h : g.IsProper) (hfault : g.fault? = some fault) :
    g.choices = .error fault := by
  unfold Group.choices
  rw [repetitions?_eq h]
  unfold Group.fault? at hfault
  cases hnumber : g.number? with
  | none => simpa [hnumber] using hfault
  | some n =>
    cases hchars : candidates g.interior with
    | nil => simpa [hnumber, hchars] using hfault
    | cons d chars => simp [hnumber, hchars] at hfault

theorem choices_of_number {n : Nat} (h : g.IsProper) (hfault : g.fault? = none)
    (hnumber : g.number? = some n) : g.choices = .ok (candidates g.interior, n) := by
  unfold Group.choices
  rw [repetitions?_eq h, hnumber]
  cases hchars : candidates g.interior with
  | nil => simp [Group.fault?, hnumber, hchars] at hfault
  | cons d chars => rfl

theorem exists_number_of_fault? (h : g.fault? = none) : ∃ n, g.number? = some n := by
  cases hnumber : g.number? with
  | none => simp [Group.fault?, hnumber] at h
  | some n => exact ⟨n, rfl⟩

@[simp] theorem Piece.length_slots (piece : Piece) : piece.slots.length = piece.size := by
  cases piece with
  | plain c => rfl
  | group g =>
    rw [slots, size]
    cases g.fault? with
    | some fault => rfl
    | none => cases g.number? <;> simp

/-- The reading with a piece before the others. -/
def Piece.join (piece : Piece) (r : Reading) : Reading :=
  ⟨r.slots?.map (piece.slots ++ ·), piece.report?.toList ++ r.malformed⟩

theorem readFrom_plain (h : ¬ BeginsGroup (c :: cs)) (room : Nat) :
    readFrom room (c :: cs) = if room < (Piece.plain c).size then .noRoom
      else (Piece.plain c).join (readFrom (room - (Piece.plain c).size) cs) := by
  rw [readFrom]
  split
  · simp only [Piece.size, Nat.lt_one_iff]
    rfl
  · next g rest hread =>
    refine absurd ?_ h
    split at hread
    · next hbracket =>
      obtain ⟨hproper, htext⟩ := readGroup?_eq_some_iff.1 hread
      exact ⟨g, rest, hproper, hbracket ▸ htext⟩
    · cases hread

theorem readFrom_group (h : g.IsProper) (room : Nat) (rest : List Char) :
    readFrom room (g.text ++ rest) = if room < (Piece.group g).size then .noRoom
      else (Piece.group g).join (readFrom (room - (Piece.group g).size) rest) := by
  have hread := readGroup?_eq_some_iff.2 ⟨h, (text_append g rest).symm⟩
  rw [text_append, readFrom]
  split
  · next hnone =>
    rw [if_pos rfl, hread] at hnone
    cases hnone
  · next g' rest' hsome =>
    rw [if_pos rfl, hread] at hsome
    obtain ⟨rfl, rfl⟩ := Prod.mk.inj (Option.some.inj hsome)
    cases hfault : g.fault? with
    | none =>
      obtain ⟨n, hnumber⟩ := exists_number_of_fault? hfault
      simp [choices_of_number h hfault hnumber, Piece.size, Piece.join, Piece.slots,
        Piece.report?, Reading.prepend, hfault, hnumber]
    | some fault =>
      simp [choices_of_fault h hfault, Piece.size, Piece.join, Piece.slots, Piece.report?,
        Reading.report, hfault]

/-- The slots and the reports of a text are those of its pieces, in order, if there is room for
them. -/
theorem readFrom_of_cut (h : Cut cs pieces) {room : Nat}
    (hroom : (pieces.map Piece.size).sum ≤ room) :
    readFrom room cs = ⟨some (pieces.flatMap Piece.slots), pieces.filterMap Piece.report?⟩ := by
  have hjoin (piece : Piece) (pieces : List Piece) :
      piece.join ⟨some (pieces.flatMap Piece.slots), pieces.filterMap Piece.report?⟩ =
        ⟨some ((piece :: pieces).flatMap Piece.slots),
          (piece :: pieces).filterMap Piece.report?⟩ := by
    rw [Piece.join, List.flatMap_cons, List.filterMap_cons]
    cases piece.report? <;> rfl
  induction h generalizing room with
  | nil => simp [readFrom]
  | group hproper hcut ih =>
    rw [List.map_cons, List.sum_cons] at hroom
    rw [readFrom_group hproper, if_neg (by omega), ih (by omega), hjoin]
  | plain hbegins hcut ih =>
    rw [List.map_cons, List.sum_cons] at hroom
    rw [readFrom_plain hbegins, if_neg (by omega), ih (by omega), hjoin]

theorem slots?_readFrom_of_cut (h : Cut cs pieces) {room : Nat}
    (hroom : room < (pieces.map Piece.size).sum) : (readFrom room cs).slots? = none := by
  induction h generalizing room with
  | nil => cases hroom
  | @group g rest pieces hproper hcut ih =>
    rw [List.map_cons, List.sum_cons] at hroom
    rw [readFrom_group hproper]
    split
    · rfl
    · next hlarge => rw [Piece.join, ih (by omega), Option.map_none]
  | @plain c cs pieces hbegins hcut ih =>
    rw [List.map_cons, List.sum_cons] at hroom
    rw [readFrom_plain hbegins]
    split
    · rfl
    · next hlarge => rw [Piece.join, ih (by omega), Option.map_none]

/-- A text has a pattern exactly if there is room for the slots of its pieces. -/
theorem ofText?_eq_some_iff {text : String} {p : Pattern} (h : Cut text.toList pieces) :
    ofText? text = some p ↔ (pieces.map Piece.size).sum < 2 ^ 59 ∧
      p = ⟨pieces.flatMap Piece.slots, pieces.filterMap Piece.report?⟩ := by
  rw [ofText?, read]
  by_cases hroom : (pieces.map Piece.size).sum ≤ maxSlots
  · have hbound : (pieces.map Piece.size).sum < 2 ^ 59 := Nat.lt_of_le_pred (by decide) hroom
    rw [readFrom_of_cut h hroom, Reading.pattern?]
    constructor
    · intro heq
      exact ⟨hbound, (Option.some.inj heq).symm⟩
    · rintro ⟨-, rfl⟩
      rfl
  · have hbound : ¬ (pieces.map Piece.size).sum < 2 ^ 59 := fun hlt =>
      hroom (Nat.le_pred_of_lt hlt)
    rw [Reading.pattern?, slots?_readFrom_of_cut h (Nat.lt_of_not_le hroom)]
    simp only [Option.map_none, reduceCtorEq, false_iff, not_and]
    exact fun hlt => absurd hlt hbound

/-! ## Rendering -/

/-- The characters that a slot may become. -/
def Slot.characters : Slot → List Char
  | .literal c => [c]
  | .choice chars => chars

theorem characters_ne_nil {piece : Piece} {slot : Slot} (h : slot ∈ piece.slots) :
    Slot.characters slot ≠ [] := by
  cases piece with
  | plain c =>
    obtain rfl := List.mem_singleton.1 h
    exact List.cons_ne_nil c []
  | group g =>
    simp only [Piece.slots] at h
    split at h
    · next hfault hnumber =>
      obtain ⟨-, rfl⟩ := List.mem_replicate.1 h
      intro hnone
      have hchars : candidates g.interior = [] := hnone
      simp [Group.fault?, hnumber, hchars] at hfault
    · cases h

variable {σ : Type} [RandomSource σ]

/-- A character for a slot, as drawing takes it: nothing if there are no candidates to draw from, or
none at the place that is drawn. -/
def Slot.draw? (s : σ) : Slot → Option (Char × σ)
  | .literal c => some (c, s)
  | .choice [] => none
  | .choice [c] => some (c, s)
  | .choice chars =>
    let (i, s) := Random.below32 chars.length s
    chars[i]?.map (·, s)

/-- Characters for slots; nothing if one of them has none. -/
def drawSlots? : List Slot → σ → Option (List Char × σ)
  | [], s => some ([], s)
  | slot :: rest, s => do
    let (c, s) ← Slot.draw? s slot
    let (cs, s) ← drawSlots? rest s
    some (c :: cs, s)

/-- A slot with candidates becomes one of them. -/
theorem draw?_eq_render {slot : Slot} (h : Slot.characters slot ≠ []) (s : σ) :
    Slot.draw? s slot = some (Slot.render s slot) ∧
      (Slot.render s slot).1 ∈ Slot.characters slot := by
  match slot with
  | .literal c => exact ⟨rfl, List.mem_singleton_self c⟩
  | .choice [] => exact absurd rfl h
  | .choice [c] => exact ⟨rfl, List.mem_singleton_self c⟩
  | .choice (c :: d :: chars) =>
    have hcount : 0 < (c :: d :: chars).length := Nat.succ_pos _
    have hplace := Random.below32_lt hcount s
    rcases hdraw : Random.below32 (c :: d :: chars).length s with ⟨i, s'⟩
    rw [hdraw] at hplace
    have hget : (c :: d :: chars)[i]? = some (c :: d :: chars)[i] :=
      List.getElem?_eq_getElem hplace
    have hdefault : (c :: d :: chars).getD i ' ' = (c :: d :: chars)[i] := by
      rw [List.getD_eq_getElem?_getD, hget, Option.getD_some]
    have hrender : Slot.render s (.choice (c :: d :: chars)) = ((c :: d :: chars)[i], s') := by
      simp only [Slot.render, Random.element, hdraw, hdefault]
    rw [hrender]
    refine ⟨?_, List.getElem_mem hplace⟩
    simp only [Slot.draw?, hdraw, hget, Option.map_some]

theorem drawSlots?_eq_render {slots : List Slot}
    (h : ∀ slot ∈ slots, Slot.characters slot ≠ []) (s : σ) :
    drawSlots? slots s = some (renderSlots slots s) ∧
      List.Forall₂ (fun c slot => c ∈ Slot.characters slot) (renderSlots slots s).1 slots := by
  induction slots generalizing s with
  | nil => exact ⟨rfl, .nil⟩
  | cons slot rest ih =>
    obtain ⟨hfirst, hmem⟩ := draw?_eq_render (h slot List.mem_cons_self) s
    obtain ⟨hrest, hall⟩ :=
      ih (fun slot hslot => h slot (List.mem_cons_of_mem _ hslot)) (Slot.render s slot).2
    refine ⟨?_, .cons hmem hall⟩
    simp only [drawSlots?, hfirst, Option.bind_eq_bind, Option.bind_some, hrest]
    rfl

/-- The pieces of a text are unique and make it up. The text has a pattern exactly if its pieces have
fewer than 2^59 slots. The slots of the pattern are then those of the pieces in order, and so are the
groups that it leaves out. Each choice has candidates, so drawing never fails, whatever the words are,
and gives one character for each slot: the literal, or one of the candidates. -/
theorem ofText?_renders_cut (text : String) :
    ∃ pieces, Cut text.toList pieces ∧ (∀ other, Cut text.toList other → other = pieces) ∧
      pieces.flatMap Piece.text = text.toList ∧
      ((ofText? text).isSome ↔ (pieces.map Piece.size).sum < 2 ^ 59) ∧
      ∀ p, ofText? text = some p →
        p.slots = pieces.flatMap Piece.slots ∧
        p.malformed = pieces.filterMap Piece.report? ∧
        (∀ chars, Slot.choice chars ∈ p.slots → chars ≠ []) ∧
        ∀ (σ : Type) [RandomSource σ] (s : σ), ∃ out s',
          drawSlots? p.slots s = some (out, s') ∧
          p.render s = (String.ofList out, s') ∧
          out.length = p.slots.length ∧
          List.Forall₂ (fun c slot => c ∈ Slot.characters slot) out p.slots := by
  obtain ⟨pieces, hcut⟩ := exists_cut text.toList
  refine ⟨pieces, hcut, fun other hother => hother.unique hcut, hcut.text_eq, ?_, fun p hp => ?_⟩
  · rw [Option.isSome_iff_exists]
    constructor
    · rintro ⟨p, hp⟩
      exact ((ofText?_eq_some_iff hcut).1 hp).1
    · exact fun hroom => ⟨_, (ofText?_eq_some_iff hcut).2 ⟨hroom, rfl⟩⟩
  · obtain ⟨-, rfl⟩ := (ofText?_eq_some_iff hcut).1 hp
    have hoffers : ∀ slot ∈ pieces.flatMap Piece.slots, Slot.characters slot ≠ [] := by
      intro slot hslot
      obtain ⟨piece, -, hpiece⟩ := List.mem_flatMap.1 hslot
      exact characters_ne_nil hpiece
    refine ⟨rfl, rfl, fun chars hchars => hoffers _ hchars, fun σ _ s => ?_⟩
    obtain ⟨hdraw, hall⟩ := drawSlots?_eq_render hoffers s
    exact ⟨_, _, hdraw, rfl, hall.length_eq, hall⟩

/-- A group that is left out by no rule, and that stands for more slots than there is room for. -/
theorem ofText?_overfull :
    ∃ g : Group, "[a]\x7b9999999999999999999\x7d".toList = g.text ∧ g.IsProper ∧
      g.fault? = none ∧ g.number? = some 9999999999999999999 ∧ candidates g.interior = ['a'] ∧
      ofText? "[a]\x7b9999999999999999999\x7d" = none := by
  refine ⟨⟨['a'], "9999999999999999999".toList⟩, by decide, ⟨by decide, ?_⟩, by decide, by decide,
    by decide, by decide +kernel⟩
  exact List.all_eq_true.1 rfl

/-- A bracket may stand in a group, a group may be left out, and what is no group is literal. -/
example : ofText? "[[a-c]\x7b2\x7d-[]\x7b3\x7d]\x7b" =
    some ⟨[.choice ['a', 'b', 'c', '['], .choice ['a', 'b', 'c', '['], .literal '-', .literal ']',
      .literal '\x7b'], [⟨"[]\x7b3\x7d".toList, .noCandidates⟩]⟩ := by
  decide +kernel

end Pattern

end SynthTable
