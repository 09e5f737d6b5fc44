import Mathlib.Data.List.Forall2
import Mathlib.Tactic.SplitIfs
import SynthTable.Json.Reader
import SynthTable.Json.Writer
import SynthTable.Proofs.Number.Digits

/-!
# Texts of JSON values

A value without doubles has many texts: between the parts of an array or an object there may be
blanks. `Spells` relates a value to all of them. Both writers give such a text (`spells_write`,
`spells_writeLines`), and the text on one line has no line end in it (`newline_notMem_write`).
-/

namespace SynthTable.Json

/-! ## Values that are written as they are -/

/-- An integer of 64 bits, with or without sign. -/
def hasWord (n : Int) : Bool := Int64.minValue.toInt ≤ n && n < UInt64.size

theorem hasWord_toInt (n : Int64) : hasWord n.toInt = true := by
  have hlow := Int64.minValue_le_toInt n
  have hhigh : n.toInt < UInt64.size := Int.lt_trans (Int64.toInt_lt n) (by decide)
  rw [hasWord, Bool.and_eq_true, decide_eq_true_eq, decide_eq_true_eq]
  exact ⟨hlow, hhigh⟩

mutual

/-- The value holds no double and no half of a surrogate pair, and its integers have 64 bits. -/
def isExact : Json → Bool
  | .integer n => hasWord n
  | .float _ => false
  | .unpaired => false
  | .array items => areExactItems items
  | .object members => areExactMembers members
  | _ => true

/-- The items hold no double and no half of a surrogate pair, and their integers have 64 bits. -/
def areExactItems : List Json → Bool
  | [] => true
  | v :: rest => isExact v && areExactItems rest

/-- The members hold no double and no half of a surrogate pair, and their integers have 64 bits. -/
def areExactMembers : List (String × Json) → Bool
  | [] => true
  | (_, v) :: rest => isExact v && areExactMembers rest

end

theorem areExactItems_iff {items : List Json} :
    areExactItems items = true ↔ ∀ v ∈ items, v.isExact = true := by
  induction items with
  | nil => simp [areExactItems]
  | cons v rest ih => simp [areExactItems, ih]

theorem areExactMembers_iff {members : List (String × Json)} :
    areExactMembers members = true ↔ ∀ m ∈ members, m.2.isExact = true := by
  induction members with
  | nil => simp [areExactMembers]
  | cons m rest ih => simp [areExactMembers, ih]

theorem areExactMembers_append (members more : List (String × Json)) :
    areExactMembers (members ++ more) = (areExactMembers members && areExactMembers more) := by
  induction members with
  | nil => rfl
  | cons m rest ih => rw [List.cons_append, areExactMembers, areExactMembers, ih, Bool.and_assoc]

theorem areExactMembers_optionalMember {α : Type} (n : String) (toJson : α → Json) (a? : Option α) :
    areExactMembers (optionalMember n toJson a?) = a?.all fun a => (toJson a).isExact := by
  cases a? <;> simp [optionalMember, areExactMembers]

mutual

/-- What is written as it is can be read. -/
theorem isReadable_of_isExact : ∀ v : Json, v.isExact = true → v.isReadable = true
  | .null, _ => rfl
  | .bool _, _ => rfl
  | .integer _, _ => rfl
  | .float _, h => by simp [isExact] at h
  | .string _, _ => rfl
  | .array items, h => areReadableItems_of_areExactItems items h
  | .object members, h => areReadableMembers_of_areExactMembers members h
  | .unpaired, h => by simp [isExact] at h

theorem areReadableItems_of_areExactItems : ∀ items : List Json,
    areExactItems items = true → areReadableItems items = true
  | [], _ => rfl
  | v :: rest, h => by
    rw [areExactItems, Bool.and_eq_true] at h
    rw [areReadableItems, isReadable_of_isExact v h.1,
      areReadableItems_of_areExactItems rest h.2]
    rfl

theorem areReadableMembers_of_areExactMembers : ∀ members : List (String × Json),
    areExactMembers members = true → areReadableMembers members = true
  | [], _ => rfl
  | (_, v) :: rest, h => by
    rw [areExactMembers, Bool.and_eq_true] at h
    rw [areReadableMembers, isReadable_of_isExact v h.1,
      areReadableMembers_of_areExactMembers rest h.2]
    rfl

end

/-! ## Texts -/

/-- Characters that may stand between the parts of a container. -/
def IsBlank (cs : List Char) : Prop := ∀ c ∈ cs, isSpace c = true

mutual

/-- A text of a value. -/
inductive Spells : Json → List Char → Prop
  | null : Spells .null ['n', 'u', 'l', 'l']
  | bool (b : Bool) : Spells (.bool b) (write (.bool b))
  | integer {n : Int} : hasWord n = true → Spells (.integer n) (toString n).toList
  | string (s : String) : Spells (.string s) (writeString s)
  | emptyArray {blank : List Char} : IsBlank blank → Spells (.array []) ('[' :: (blank ++ [']']))
  | array {items : List Json} {blank cs : List Char} : IsBlank blank → SpellsItems items cs →
      Spells (.array items) ('[' :: (blank ++ cs))
  | emptyObject {blank : List Char} : IsBlank blank → Spells (.object []) ('{' :: (blank ++ ['}']))
  | object {members : List (String × Json)} {blank cs : List Char} : IsBlank blank →
      SpellsMembers members cs → Spells (.object members) ('{' :: (blank ++ cs))

/-- A text of the items of an array, at least one, up to its closing bracket. -/
inductive SpellsItems : List Json → List Char → Prop
  | last {v : Json} {cs blank : List Char} : Spells v cs → IsBlank blank →
      SpellsItems [v] (cs ++ (blank ++ [']']))
  | more {v : Json} {items : List Json} {cs before after rest : List Char} : Spells v cs →
      IsBlank before → IsBlank after → SpellsItems items rest →
      SpellsItems (v :: items) (cs ++ (before ++ ',' :: (after ++ rest)))

/-- A text of a member. -/
inductive SpellsMember : String × Json → List Char → Prop
  | mk {v : Json} {cs before after : List Char} (n : String) : IsBlank before → IsBlank after →
      Spells v cs → SpellsMember (n, v) (writeString n ++ (before ++ ':' :: (after ++ cs)))

/-- A text of the members of an object, at least one, up to its closing brace. -/
inductive SpellsMembers : List (String × Json) → List Char → Prop
  | last {m : String × Json} {cs blank : List Char} : SpellsMember m cs → IsBlank blank →
      SpellsMembers [m] (cs ++ (blank ++ ['}']))
  | more {m : String × Json} {members : List (String × Json)} {cs before after rest : List Char} :
      SpellsMember m cs → IsBlank before → IsBlank after → SpellsMembers members rest →
      SpellsMembers (m :: members) (cs ++ (before ++ ',' :: (after ++ rest)))

end

variable {before after : List Char}

theorem isBlank_nil : IsBlank [] := by
  intro c hc
  cases hc

theorem isBlank_lineStart (level : Nat) : IsBlank (lineStart level) := by
  intro c hc
  rcases List.mem_cons.1 hc with rfl | hmem
  · rfl
  · rw [List.eq_of_mem_replicate hmem]
    rfl

/-! ## The writers -/

/-- Texts of items with commas between them are a text of the items. -/
theorem spellsItems_joinWith (hbefore : IsBlank before) (hafter : IsBlank after)
    {v : Json} {items : List Json} {cs : List Char} {parts : List (List Char)}
    (hfirst : Spells v cs) (hparts : List.Forall₂ Spells items parts) :
    SpellsItems (v :: items) (joinWith (',' :: after) (cs :: parts) ++ (before ++ [']'])) := by
  induction hparts generalizing v cs with
  | nil => exact .last hfirst hbefore
  | cons hnext _ ih =>
    have hmore := SpellsItems.more hfirst isBlank_nil hafter (ih hnext)
    simpa [joinWith] using hmore

theorem spellsMembers_joinWith (hbefore : IsBlank before) (hafter : IsBlank after)
    {m : String × Json} {members : List (String × Json)} {cs : List Char} {parts : List (List Char)}
    (hfirst : SpellsMember m cs) (hparts : List.Forall₂ SpellsMember members parts) :
    SpellsMembers (m :: members) (joinWith (',' :: after) (cs :: parts) ++ (before ++ ['}'])) := by
  induction hparts generalizing m cs with
  | nil => exact .last hfirst hbefore
  | cons hnext _ ih =>
    have hmore := SpellsMembers.more hfirst isBlank_nil hafter (ih hnext)
    simpa [joinWith] using hmore

/-- An array of items on one line. -/
theorem spells_array {items : List Json} {parts : List (List Char)}
    (h : List.Forall₂ Spells items parts) :
    Spells (.array items) ('[' :: joinWith [','] parts ++ [']']) := by
  cases h with
  | nil => exact .emptyArray isBlank_nil
  | cons hfirst hrest =>
    have hline := Spells.array isBlank_nil
      (spellsItems_joinWith isBlank_nil isBlank_nil hfirst hrest)
    exact hline

theorem spells_object {members : List (String × Json)} {parts : List (List Char)}
    (h : List.Forall₂ SpellsMember members parts) :
    Spells (.object members) ('{' :: joinWith [','] parts ++ ['}']) := by
  cases h with
  | nil => exact .emptyObject isBlank_nil
  | cons hfirst hrest =>
    have hline := Spells.object isBlank_nil
      (spellsMembers_joinWith isBlank_nil isBlank_nil hfirst hrest)
    exact hline

mutual

/-- The text on one line is a text of the value. -/
theorem spells_write : ∀ v : Json, v.isExact = true → Spells v (write v)
  | .null, _ => .null
  | .bool b, _ => .bool b
  | .integer _, h => .integer (by rwa [isExact] at h)
  | .float _, h => by simp [isExact] at h
  | .unpaired, h => by simp [isExact] at h
  | .string s, _ => .string s
  | .array items, h => spells_array (forall₂_writeItems items h)
  | .object members, h => spells_object (forall₂_writeMembers members h)

theorem forall₂_writeItems :
    ∀ items : List Json, areExactItems items = true → List.Forall₂ Spells items (writeItems items)
  | [], _ => .nil
  | v :: rest, h => by
    simp only [areExactItems, Bool.and_eq_true] at h
    exact .cons (spells_write v h.1) (forall₂_writeItems rest h.2)

theorem forall₂_writeMembers :
    ∀ members : List (String × Json), areExactMembers members = true →
      List.Forall₂ SpellsMember members (writeMembers members)
  | [], _ => .nil
  | (n, v) :: rest, h => by
    simp only [areExactMembers, Bool.and_eq_true] at h
    exact .cons (.mk n isBlank_nil isBlank_nil (spells_write v h.1)) (forall₂_writeMembers rest h.2)

end

/-- An array of items on lines of their own. -/
theorem spells_layLines_array (level : Nat) {items : List Json} {parts : List (List Char)}
    (h : List.Forall₂ Spells items parts) :
    Spells (.array items) (layLines '[' ']' level parts) := by
  cases h with
  | nil => exact .emptyArray isBlank_nil
  | cons hfirst hrest =>
    have hlines := Spells.array (isBlank_lineStart (level + 1)) (spellsItems_joinWith
      (isBlank_lineStart level) (isBlank_lineStart (level + 1)) hfirst hrest)
    simpa [layLines] using hlines

theorem spells_layLines_object (level : Nat) {members : List (String × Json)}
    {parts : List (List Char)} (h : List.Forall₂ SpellsMember members parts) :
    Spells (.object members) (layLines '{' '}' level parts) := by
  cases h with
  | nil => exact .emptyObject isBlank_nil
  | cons hfirst hrest =>
    have hlines := Spells.object (isBlank_lineStart (level + 1)) (spellsMembers_joinWith
      (isBlank_lineStart level) (isBlank_lineStart (level + 1)) hfirst hrest)
    simpa [layLines] using hlines

theorem isBlank_space : IsBlank [' '] := by
  intro c hc
  rw [List.mem_singleton.1 hc]
  rfl

mutual

/-- The indented text is a text of the value. -/
theorem spells_writeLines (level : Nat) :
    ∀ v : Json, v.isExact = true → Spells v (writeLines level v)
  | .null, _ => .null
  | .bool b, _ => .bool b
  | .integer _, h => .integer (by rwa [isExact] at h)
  | .float _, h => by simp [isExact] at h
  | .unpaired, h => by simp [isExact] at h
  | .string s, _ => .string s
  | .array items, h => spells_layLines_array level (forall₂_itemLines (level + 1) items h)
  | .object members, h => spells_layLines_object level (forall₂_memberLines (level + 1) members h)

theorem forall₂_itemLines (level : Nat) : ∀ items : List Json, areExactItems items = true →
    List.Forall₂ Spells items (itemLines level items)
  | [], _ => .nil
  | v :: rest, h => by
    simp only [areExactItems, Bool.and_eq_true] at h
    exact .cons (spells_writeLines level v h.1) (forall₂_itemLines level rest h.2)

theorem forall₂_memberLines (level : Nat) :
    ∀ members : List (String × Json), areExactMembers members = true →
      List.Forall₂ SpellsMember members (memberLines level members)
  | [], _ => .nil
  | (n, v) :: rest, h => by
    simp only [areExactMembers, Bool.and_eq_true] at h
    exact .cons (.mk n isBlank_nil isBlank_space (spells_writeLines level v h.1))
      (forall₂_memberLines level rest h.2)

end

/-! ## The text on one line -/

theorem newline_notMem_toDigits (n : Nat) : '\n' ∉ Nat.toDigits 10 n := by
  intro h
  have hdigit := Nat.isDigit_of_mem_toDigits (by decide) (by decide) h
  exact absurd hdigit (by decide)

theorem newline_notMem_toString (n : Int) : '\n' ∉ (toString n).toList := by
  match n with
  | .ofNat m =>
    have hdigits := newline_notMem_toDigits m
    rw [← Numeral.toList_toString_natCast m] at hdigits
    exact hdigits
  | .negSucc m =>
    rw [Numeral.toList_toString_negSucc]
    intro h
    rcases List.mem_cons.1 h with hsign | hdigits
    · exact absurd hsign (by decide)
    · exact newline_notMem_toDigits _ hdigits

theorem hexDigit_ne_newline {n : Nat} (h : n < 16) : Text.hexDigit n ≠ '\n' := by
  have hall : ∀ n < 16, Text.hexDigit n ≠ '\n' := by decide
  exact hall n h

/-- A line end is written as an escape. -/
theorem newline_notMem_escapeChar (c : Char) : '\n' ∉ escapeChar c := by
  unfold escapeChar
  split_ifs with hquote hslash hline hreturn htab hback hfeed hcontrol
  iterate 7 decide
  · have hhigh := hexDigit_ne_newline (n := c.toNat / 16) (by omega)
    have hlow := hexDigit_ne_newline (n := c.toNat % 16) (by omega)
    simp [hhigh.symm, hlow.symm]
  · intro h
    exact hline (List.mem_singleton.1 h).symm

theorem newline_notMem_writeString (s : String) : '\n' ∉ writeString s := by
  intro h
  simp only [writeString, List.cons_append, List.mem_cons, List.mem_append, List.mem_flatMap,
    List.not_mem_nil, or_false] at h
  rcases h with hquote | ⟨c, -, hc⟩ | hquote
  · exact absurd hquote (by decide)
  · exact newline_notMem_escapeChar c hc
  · exact absurd hquote (by decide)

theorem newline_notMem_joinWith {parts : List (List Char)} (h : ∀ part ∈ parts, '\n' ∉ part) :
    '\n' ∉ joinWith [','] parts := by
  induction parts with
  | nil => exact List.not_mem_nil
  | cons part rest ih =>
    have hpart := h part List.mem_cons_self
    have hrest := ih fun other hother => h other (List.mem_cons_of_mem part hother)
    cases rest with
    | nil => exact hpart
    | cons next rest =>
      rw [joinWith, List.mem_append, List.mem_append]
      · rintro ((h | h) | h)
        · exact hpart h
        · exact absurd (List.mem_singleton.1 h) (by decide)
        · exact hrest h
      · simp

mutual

/-- The text on one line has no line end in it. -/
theorem newline_notMem_write : ∀ v : Json, v.isExact = true → '\n' ∉ write v
  | .null, _ => by simp [write]
  | .bool true, _ => by simp [write]
  | .bool false, _ => by simp [write]
  | .integer n, _ => newline_notMem_toString n
  | .float _, h => by simp [isExact] at h
  | .unpaired, h => by simp [isExact] at h
  | .string s, _ => newline_notMem_writeString s
  | .array items, h => by
    have hitems := newline_notMem_joinWith (newline_notMem_writeItems items h)
    simp [write, hitems]
  | .object members, h => by
    have hmembers := newline_notMem_joinWith (newline_notMem_writeMembers members h)
    simp [write, hmembers]

theorem newline_notMem_writeItems : ∀ items : List Json, areExactItems items = true →
    ∀ part ∈ writeItems items, '\n' ∉ part
  | [], _ => by simp [writeItems]
  | v :: rest, h => by
    simp only [areExactItems, Bool.and_eq_true] at h
    rw [writeItems, List.forall_mem_cons]
    exact ⟨newline_notMem_write v h.1, newline_notMem_writeItems rest h.2⟩

theorem newline_notMem_writeMembers : ∀ members : List (String × Json),
    areExactMembers members = true → ∀ part ∈ writeMembers members, '\n' ∉ part
  | [], _ => by simp [writeMembers]
  | (n, v) :: rest, h => by
    simp only [areExactMembers, Bool.and_eq_true] at h
    have hmember : '\n' ∉ writeString n ++ ':' :: write v := by
      simp [newline_notMem_writeString, newline_notMem_write v h.1]
    rw [writeMembers, List.forall_mem_cons]
    exact ⟨hmember, newline_notMem_writeMembers rest h.2⟩

end

end SynthTable.Json
