import SynthTable.Proofs.Condition.Spelling
import SynthTable.Proofs.Text.Parts

/-!
# Writing conditions

Comparisons are written with one space on either side of the operator, joined by `&` into groups
and the groups by `|`. What is written is read back (`ofText_text_iff`), whatever stands in the
literals, as long as the names of the columns on the left have no recent characters. It holds on a
row if all comparisons of some group do (`exists_anyHolds`).
-/

namespace SynthTable

open Reference

/-- The sign or the word of a comparator. -/
def Comparator.symbol : Comparator → List Char
  | .equal => ['=']
  | .notEqual => ['!', '=']
  | .greater => ['>']
  | .less => ['<']
  | .atLeast => ['>', '=']
  | .atMost => ['<', '=']
  | .contains => ['c', 'o', 'n', 't', 'a', 'i', 'n', 's']

/-- An operand as it is written: a name in braces, or a literal in single quotes. -/
def Operand.text : Operand → List Char
  | .column name => '$' :: '{' :: (name.toList ++ ['}'])
  | .literal s => '\'' :: (s.toList ++ ['\''])

/-- The operands that can be written: a column with a name, or a literal on one line without
joints. -/
def Operand.IsPlain : Operand → Prop
  | .column name => IsName name.toList
  | .literal s => '&' ∉ s.toList ∧ '|' ∉ s.toList ∧ '\n' ∉ s.toList

namespace Comparison

/-- What stands behind the name of a comparison. -/
def tail (c : Comparison) : List Char := ' ' :: (c.op.symbol ++ ' ' :: c.operand.text)

/-- A comparison as it is written. -/
def text (c : Comparison) : List Char := '$' :: (c.column.toList ++ c.tail)

/-- The comparisons that can be written. -/
structure IsPlain (c : Comparison) : Prop where
  column : IsName c.column.toList
  operand : c.operand.IsPlain

variable {c : Comparison} {o : Operand}

/-! ## One comparison -/

theorem tight_text_operand (o : Operand) : Text.IsTight o.text := by
  cases o with
  | column name =>
    refine ⟨List.cons_ne_nil _ _, fun d hd => ?_, fun d hd => ?_⟩
    · cases hd
      decide
    · rw [Operand.text, ← List.cons_append, ← List.cons_append, List.getLast?_concat] at hd
      cases hd
      decide
  | literal s =>
    refine ⟨List.cons_ne_nil _ _, fun d hd => ?_, fun d hd => ?_⟩
    · cases hd
      decide
    · rw [Operand.text, ← List.cons_append, List.getLast?_concat] at hd
      cases hd
      decide

theorem tight_text (c : Comparison) : Text.IsTight c.text := by
  have hdollar : Text.IsTight ['$'] := by
    refine ⟨List.cons_ne_nil _ _, fun d hd => ?_, fun d hd => ?_⟩ <;> cases hd <;> decide
  have htight := hdollar.join (tight_text_operand c.operand)
    (c.column.toList ++ ' ' :: (c.op.symbol ++ [' ']))
  simpa [text, tail] using htight

theorem not_mem_symbol {d : Char} (hd : d = '&' ∨ d = '|') (op : Comparator) : d ∉ op.symbol := by
  rcases hd with rfl | rfl <;> cases op <;> decide

theorem not_mem_name {name : List Char} {d : Char} (hname : IsName name)
    (hd : Text.isNameChar d = false) : d ∉ name := by
  intro hmem
  rw [hname.2 d hmem] at hd
  cases hd

/-- Neither joint stands in a comparison. -/
theorem not_mem_text {d : Char} (hd : d = '&' ∨ d = '|') (hc : c.IsPlain) : d ∉ c.text := by
  have hother : Text.isNameChar d = false ∧ d ≠ '$' ∧ d ≠ ' ' ∧ d ≠ '{' ∧ d ≠ '}' ∧ d ≠ '\'' := by
    rcases hd with rfl | rfl <;> decide +kernel
  obtain ⟨hname, hdollar, hspace, hopen, hclose, hquote⟩ := hother
  have hoperand : d ∉ c.operand.text := by
    have hplain := hc.operand
    cases hoperand : c.operand with
    | column name =>
      rw [hoperand] at hplain
      simp [Operand.text, hdollar, hopen, hclose, not_mem_name hplain hname]
    | literal s =>
      rw [hoperand] at hplain
      have hliteral : d ∉ s.toList := by
        rcases hd with rfl | rfl
        · exact hplain.1
        · exact hplain.2.1
      simp [Operand.text, hquote, hliteral]
  simp [text, tail, hdollar, hspace, not_mem_name hc.column hname, not_mem_symbol hd, hoperand]

theorem readOperator?_symbol (op : Comparator) (rest : List Char) :
    readOperator? (op.symbol ++ ' ' :: rest) = some (op, ' ' :: rest) := by
  have hspace : Text.isKnownWordChar ' ' = false := by decide +kernel
  cases op with
  | contains => simp [readOperator?, Comparator.symbol, Text.dropLead?, hspace]
  | _ => rfl

theorem newline_not_mem_text (ho : o.IsPlain) : '\n' ∉ o.text := by
  cases o with
  | column name =>
    have hname : '\n' ∉ name.toList := not_mem_name ho (by decide +kernel)
    simp [Operand.text, hname]
  | literal s =>
    have hliteral : '\n' ∉ s.toList := ho.2.2
    simp [Operand.text, hliteral]

/-- Behind the name stand the operator and the operand. -/
theorem readTail?_tail (hc : c.operand.IsPlain) :
    readTail? c.tail = some (c.op, c.operand.text) := by
  have hsymbol : ∀ d ∈ (c.op.symbol ++ ' ' :: c.operand.text).head?, Text.isBlank d = false := by
    intro d hd
    cases hop : c.op <;> rw [hop] at hd <;> cases hd <;> decide
  have hread : readOperator? (Text.trimStart c.tail) = some (c.op, ' ' :: c.operand.text) := by
    rw [tail, Text.trimStart_space hsymbol, readOperator?_symbol]
  have hoperand : Text.trimStart (' ' :: c.operand.text) = c.operand.text :=
    Text.trimStart_space (tight_text_operand c.operand).head
  have hnewline : c.operand.text.contains '\n' = false := by simpa using newline_not_mem_text hc
  unfold readTail?
  split
  · next heq => exact absurd (List.cons.inj heq).1 (by decide)
  · simp only [hread, hoperand, hnewline, Bool.false_eq_true, if_false]

theorem between?_delimiters (first last : Char) (inner : List Char) :
    Text.between? first last (first :: (inner ++ [last])) = some inner := by
  simp [Text.between?, Text.dropLast?]

theorem operandOf_text (o : Operand) : operandOf o.text = o := by
  cases o with
  | column name => simp [Operand.text, operandOf, between?_delimiters]
  | literal s => simp [Operand.text, operandOf, unquote, between?_delimiters]

/-- A comparison is read back if its column has no recent characters. -/
theorem ofChars?_text (hc : c.IsPlain) (hknown : ∀ d ∈ c.column.toList, Text.isRecent d = false) :
    ofChars? c.text = some c := by
  have hstop : ∀ d ∈ c.tail.head?, Text.isKnownNameChar d = false := by
    rintro d ⟨⟩
    decide +kernel
  have hrun : ∀ d ∈ c.column.toList, Text.isKnownNameChar d = true := by
    intro d hd
    simp [Text.isKnownNameChar, hc.column.2 d hd, hknown d hd]
  obtain ⟨htake, hdrop⟩ := Text.takeWhile_run hrun hstop
  have hopen : Text.dropLead? ['{'] (c.column.toList ++ c.tail) = none := by
    obtain ⟨d, name, hname⟩ := List.exists_cons_of_ne_nil hc.column.1
    have hd : '{' ≠ d := by
      rintro rfl
      exact not_mem_name hc.column (not_isNameChar_brace (.inl rfl)) (by simp [hname])
    simp [hname, Text.dropLead?, hd]
  -- the whole run is tried first, and an operator follows it
  have hnamed : readNamed? c.column.toList c.tail c.column.toList.length =
      some (c.column.toList, c.op, c.operand.text) := by
    obtain ⟨n, hn⟩ := Nat.exists_eq_add_one.2 (List.length_pos_iff.2 hc.column.1)
    rw [hn, readNamed?, ← hn, List.drop_length, List.nil_append, readTail?_tail hc.operand,
      List.take_length]
  have hdollar : Text.dropLead? ['$'] c.text = some (c.column.toList ++ c.tail) := rfl
  have htrim := Text.trim_of_tight (tight_text_operand c.operand)
  simp only [ofChars?, hdollar, hopen, htake, hdrop, hnamed, htrim, operandOf_text,
    String.ofList_toList, Option.bind_eq_bind, Option.bind_some, Option.getD_none]

/-- A column that is read has no recent characters. -/
theorem known_of_ofChars? {part : List Char} (h : ofChars? part = some c) :
    ∀ d ∈ c.column.toList, Text.isRecent d = false := by
  unfold ofChars? at h
  obtain ⟨cs, -, h⟩ := Option.bind_eq_some_iff.1 h
  dsimp only at h
  obtain ⟨⟨name, op, operand⟩, hnamed, h⟩ := Option.bind_eq_some_iff.1 h
  cases h
  obtain ⟨n, -, rfl, -⟩ := exists_tail_of_readNamed? hnamed
  intro d hd
  rw [String.toList_ofList] at hd
  have hknown := List.mem_takeWhile_imp (List.mem_of_mem_take hd)
  simpa using (Bool.and_eq_true_iff.1 hknown).2

/-- Both sides of a comparison have texts on a row, and these compare as the operator says. -/
def TrueOn (row : Row) (c : Comparison) : Prop :=
  ∃ left right, row.textOf c.column = .ok left ∧ c.operand.textIn row = .ok right ∧
    c.op.holds left right = true

theorem exists_textOf {row : Row} {n : String} (h : ∃ v, row.get? n = some v) :
    ∃ t, row.textOf n = .ok t := by
  obtain ⟨v, hv⟩ := h
  exact ⟨v.toText, by rw [Row.textOf, hv]⟩

theorem exists_holds {row : Row} (h : ∀ n ∈ c.columns, ∃ v, row.get? n = some v) :
    ∃ b, c.holds row = .ok b ∧ (b = true ↔ c.TrueOn row) := by
  obtain ⟨left, hleft⟩ := exists_textOf (h c.column List.mem_cons_self)
  have hright : ∃ right, c.operand.textIn row = .ok right := by
    cases hoperand : c.operand with
    | column name => exact exists_textOf (h name (by simp [columns, hoperand, Operand.columns]))
    | literal s => exact ⟨s, rfl⟩
  obtain ⟨right, hright⟩ := hright
  refine ⟨c.op.holds left right, by rw [holds, hleft, hright], fun htrue => ?_, ?_⟩
  · exact ⟨left, right, hleft, hright, htrue⟩
  · rintro ⟨left', right', hleft', hright', htrue⟩
    rw [hleft] at hleft'
    rw [hright] at hright'
    cases hleft'
    cases hright'
    exact htrue

end Comparison

/-! ## The whole condition -/

namespace Condition

/-- A group as it is written. -/
def groupText (group : List Comparison) : List Char := Text.join '&' (group.map Comparison.text)

/-- Groups as they are written. -/
def text (groups : List (List Comparison)) : List Char := Text.join '|' (groups.map groupText)

/-- The groups that can be written: none is missing, and their comparisons can be. -/
structure IsPlain (groups : List (List Comparison)) : Prop where
  ne_nil : groups ≠ []
  group_ne_nil : ∀ group ∈ groups, group ≠ []
  comparison : ∀ group ∈ groups, ∀ c ∈ group, c.IsPlain

variable {group : List Comparison} {groups : List (List Comparison)} {row : Row}

theorem tight_groupText (hne : group ≠ []) : Text.IsTight (groupText group) := by
  refine Text.tight_join (by simpa using hne) fun part hpart => ?_
  obtain ⟨c, -, rfl⟩ := List.mem_map.1 hpart
  exact Comparison.tight_text c

theorem tight_text (h : IsPlain groups) : Text.IsTight (text groups) := by
  refine Text.tight_join (by simpa using h.ne_nil) fun part hpart => ?_
  obtain ⟨group, hgroup, rfl⟩ := List.mem_map.1 hpart
  exact tight_groupText (h.group_ne_nil group hgroup)

theorem splitOn_groupText (hne : group ≠ []) (hplain : ∀ c ∈ group, c.IsPlain) :
    Text.splitOn '&' (groupText group) = group.map Comparison.text := by
  refine Text.splitOn_join (by simpa using hne) fun part hpart => ?_
  obtain ⟨c, hc, rfl⟩ := List.mem_map.1 hpart
  exact Comparison.not_mem_text (.inl rfl) (hplain c hc)

theorem splitOn_text (h : IsPlain groups) :
    Text.splitOn '|' (text groups) = groups.map groupText := by
  refine Text.splitOn_join (by simpa using h.ne_nil) fun part hpart => ?_
  obtain ⟨group, hgroup, rfl⟩ := List.mem_map.1 hpart
  refine Text.not_mem_join (by decide) fun part hpart => ?_
  obtain ⟨c, hc, rfl⟩ := List.mem_map.1 hpart
  exact Comparison.not_mem_text (.inr rfl) (h.comparison group hgroup c hc)

theorem ofPart_text {c : Comparison} (hc : c.IsPlain)
    (hknown : ∀ d ∈ c.column.toList, Text.isRecent d = false) :
    Comparison.ofPart c.text = .ok c := by
  rw [Comparison.ofPart, Text.trim_of_tight (Comparison.tight_text c),
    Comparison.ofChars?_text hc hknown]

theorem groupsOf_text (h : IsPlain groups)
    (hknown : ∀ group ∈ groups, ∀ c ∈ group, ∀ d ∈ c.column.toList, Text.isRecent d = false) :
    groupsOf (text groups) = .ok groups := by
  rw [groupsOf, splitOn_text h]
  refine mapM_map_ok fun group hgroup => ?_
  rw [splitOn_groupText (h.group_ne_nil group hgroup) (h.comparison group hgroup)]
  refine mapM_map_ok fun c hc => ?_
  exact ofPart_text (h.comparison group hgroup c hc) (hknown group hgroup c hc)

/-- What begins with a dollar sign is not the word for the condition that always holds. -/
theorem not_default_text (h : IsPlain groups) :
    Text.equalIgnoringAsciiCase (text groups) ['d', 'e', 'f', 'a', 'u', 'l', 't'] = false := by
  obtain ⟨group, groups, rfl⟩ := List.exists_cons_of_ne_nil h.ne_nil
  obtain ⟨c, group, rfl⟩ := List.exists_cons_of_ne_nil (h.group_ne_nil group List.mem_cons_self)
  obtain ⟨later, hlater⟩ :=
    Text.exists_join_cons '|' (groupText (c :: group)) (groups.map groupText)
  obtain ⟨more, hmore⟩ := Text.exists_join_cons '&' c.text (group.map Comparison.text)
  have hdollar : text ((c :: group) :: groups) =
      '$' :: (c.column.toList ++ c.tail ++ more ++ later) := by
    rw [text, List.map_cons, hlater, groupText, List.map_cons, hmore]
    rfl
  have hd : Text.asciiLower '$' ≠ Text.asciiLower 'd' := by decide
  rw [hdollar]
  simp [Text.equalIgnoringAsciiCase, hd]

theorem exists_allHold (h : ∀ c ∈ group, ∀ n ∈ c.columns, ∃ v, row.get? n = some v) :
    ∃ b, allHold row group = .ok b ∧ (b = true ↔ ∀ c ∈ group, c.TrueOn row) := by
  induction group with
  | nil => exact ⟨true, rfl, by simp⟩
  | cons c rest ih =>
    obtain ⟨b, hb, hbtrue⟩ := Comparison.exists_holds (h c List.mem_cons_self)
    obtain ⟨b', hb', hrest⟩ := ih fun d hd => h d (List.mem_cons_of_mem c hd)
    rw [List.forall_mem_cons, ← hbtrue]
    cases b with
    | false => exact ⟨false, by rw [allHold, hb], by simp⟩
    | true => exact ⟨b', by rw [allHold, hb]; exact hb', by simpa using hrest⟩

theorem exists_anyHolds
    (h : ∀ group ∈ groups, ∀ c ∈ group, ∀ n ∈ c.columns, ∃ v, row.get? n = some v) :
    ∃ b, anyHolds row groups = .ok b ∧
      (b = true ↔ ∃ group ∈ groups, ∀ c ∈ group, c.TrueOn row) := by
  induction groups with
  | nil => exact ⟨false, rfl, by simp⟩
  | cons group rest ih =>
    obtain ⟨b, hb, hbtrue⟩ := exists_allHold (h group List.mem_cons_self)
    obtain ⟨b', hb', hrest⟩ := ih fun d hd => h d (List.mem_cons_of_mem group hd)
    rw [List.exists_mem_cons_iff, ← hbtrue]
    cases b with
    | true => exact ⟨true, by rw [anyHolds, hb], by simp⟩
    | false => exact ⟨b', by rw [anyHolds, hb]; exact hb', by simpa using hrest⟩

/-- Groups that are written are read back, unless a column on the left has a recent character in its
name. On a row that has all its columns the condition holds if all comparisons of some group do. -/
theorem ofText_text_iff (h : IsPlain groups) :
    (ofText (String.ofList (text groups)) = .ok (.anyOf groups) ↔
      ∀ group ∈ groups, ∀ c ∈ group, ∀ d ∈ c.column.toList, Text.isRecent d = false) ∧
    ∀ row : Row, (∀ n ∈ (anyOf groups).columns, ∃ v, row.get? n = some v) →
      ∃ b, (anyOf groups).holds row = .ok b ∧
        (b = true ↔ ∃ group ∈ groups, ∀ c ∈ group, c.TrueOn row) := by
  refine ⟨⟨fun hread group hgroup c hc => ?_, fun hknown => ?_⟩, fun row hrow => ?_⟩
  · have hmem : c ∈ groups.flatten := List.mem_flatten.2 ⟨group, hgroup, hc⟩
    obtain ⟨part, -, hpart⟩ := exists_of_forall₂ (comparisons_of_ofText hread).flip hmem
    exact Comparison.known_of_ofChars? hpart
  · rw [ofText, String.toList_ofList, Text.trim_of_tight (tight_text h), groupsOf_text h hknown]
    simp [not_default_text h]
  · refine exists_anyHolds fun group hgroup c hc n hn => hrow n ?_
    exact List.mem_flatMap.2 ⟨group, hgroup, List.mem_flatMap.2 ⟨c, hc, hn⟩⟩

/-- Two groups, with operators, dollar signs, braces and quotes in the literals. -/
def nested : List (List Comparison) :=
  [[⟨"a", .atLeast, .literal "$x = $\x7by\x7d"⟩, ⟨"b", .contains, .literal "it's \"so\""⟩],
    [⟨"b", .notEqual, .column "a"⟩]]

theorem ofText_text_iff_nested :
    IsPlain nested ∧
      ofText "$a >= '$x = $\x7by\x7d'&$b contains 'it's \"so\"'|$b != $\x7ba\x7d" =
        .ok (.anyOf nested) ∧
      ∃ b, (anyOf nested).holds (.ofValues [⟨"a", false⟩, ⟨"b", false⟩] [.text "1", .text "2"]) =
        .ok b := by
  have ha : IsName "a".toList := ⟨by decide, List.all_eq_true.1 (by decide +kernel)⟩
  have hb : IsName "b".toList := ⟨by decide, List.all_eq_true.1 (by decide +kernel)⟩
  have hplain : IsPlain nested := by
    refine ⟨by decide, by decide, List.forall_mem_cons.2
      ⟨List.forall_mem_cons.2 ⟨⟨ha, ?_⟩, List.forall_mem_singleton.2 ⟨hb, ?_⟩⟩,
        List.forall_mem_singleton.2 (List.forall_mem_singleton.2 ⟨hb, ha⟩)⟩⟩
    · exact ⟨by decide, by decide, by decide⟩
    · exact ⟨by decide, by decide, by decide⟩
  obtain ⟨hread, hholds⟩ := ofText_text_iff hplain
  obtain ⟨b, hb, -⟩ := hholds (.ofValues [⟨"a", false⟩, ⟨"b", false⟩] [.text "1", .text "2"]) (by
    intro n hn
    have hn' : n = "a" ∨ n = "b" := by
      revert n
      decide
    rcases hn' with rfl | rfl
    · exact ⟨.text "1", by decide⟩
    · exact ⟨.text "2", by decide⟩)
  have hknown : (nested.all (·.all (·.column.toList.all (!Text.isRecent ·)))) = true := by
    decide +kernel
  simp only [List.all_eq_true, Bool.not_eq_true'] at hknown
  exact ⟨hplain, hread.2 hknown, b, hb⟩

/-- One comparison with a column whose name is a recent letter. -/
def recent : List (List Comparison) := [[⟨"\u088f", .equal, .literal "x"⟩]]

/-- A recent letter is a character of names, and yet a condition on its column is not read. -/
theorem not_ofText_text_recent :
    IsPlain recent ∧ ofText (String.ofList (text recent)) ≠ .ok (.anyOf recent) := by
  have hname : IsName "\u088f".toList := ⟨by decide, List.all_eq_true.1 (by decide +kernel)⟩
  refine ⟨⟨by decide, by decide, ?_⟩, by decide +kernel⟩
  exact List.forall_mem_singleton.2
    (List.forall_mem_singleton.2 ⟨hname, by decide, by decide, by decide⟩)

end Condition

end SynthTable
