import Mathlib.Data.List.Forall2
import SynthTable.Proofs.Computation.Reads

/-!
# How conditions are spelled

The names that the scan of a condition finds are those of its parts (`namesIn_partsOf`). In a part
that is read as a comparison the scan finds what the first dollar sign refers to and what is in the
text of the operand (`namesIn_part`), so it finds the columns that the comparison reads if these are
spelled in full. Other spellings are read too, and the scan then misses a column or finds a name that
is no column: `found_iff_read` says when the two agree all the same, and
`not_found_iff_read_unclosed` gives a condition for which they do not.
-/

namespace SynthTable

open Reference

/-- The parts of a condition, of which each is a comparison. -/
def Condition.partsOf (source : String) : List (List Char) :=
  ((Text.splitOn '|' (Text.trim source.toList)).flatMap (Text.splitOn '&')).map Text.trim

namespace Comparison

/-! ## One part -/

/-- A part begins with a reference that ends where the name ends: in braces of which both are there,
or before a character that is none of a name. -/
def BeginsWith (name : String) (part : List Char) : Prop :=
  IsName name.toList ∧
    ((∃ rest, part = '$' :: '{' :: (name.toList ++ '}' :: rest)) ∨
      ∃ rest, part = '$' :: (name.toList ++ rest) ∧ ∀ c ∈ rest.head?, Text.isNameChar c = false)

theorem beginsWith_iff {name : String} {cs : List Char} :
    BeginsWith name ('$' :: cs) ↔ (afterDollar conditionStyle cs).name? = some name.toList := by
  rw [name?_afterDollar_eq_some_iff, BeginsWith]
  simp [conditionStyle]

theorem eq_of_beginsWith {n m : String} {part : List Char} (hn : BeginsWith n part)
    (hm : BeginsWith m part) : n = m := by
  obtain ⟨cs, rfl⟩ : ∃ cs, part = '$' :: cs := by
    rcases hn.2 with ⟨rest, rfl⟩ | ⟨rest, rfl, -⟩ <;> exact ⟨_, rfl⟩
  rw [beginsWith_iff] at hn hm
  exact String.toList_inj.1 (Option.some.inj (hn.symm.trans hm))

theorem namesIn_cons_of_ne {c : Char} {cs : List Char} (hc : c ≠ '$') :
    namesIn conditionStyle (c :: cs) = namesIn conditionStyle cs :=
  namesIn_plain (by simp [Style.marks, hc, conditionStyle])

theorem eq_append_of_dropLead? {lead cs rest : List Char} (h : Text.dropLead? lead cs = some rest) :
    cs = lead ++ rest := by
  induction lead generalizing cs with
  | nil =>
    cases h
    rfl
  | cons a lead ih =>
    cases cs with
    | nil => cases h
    | cons c cs =>
      unfold Text.dropLead? at h
      split at h
      · next hac => rw [hac, ih h, List.cons_append]
      · cases h

/-- An operator is a sign of one or two characters or a word. -/
theorem exists_symbol_of_readOperator? {cs rest : List Char} {op : Comparator}
    (h : readOperator? cs = some (op, rest)) : ∃ symbol, cs = symbol ++ rest ∧ '$' ∉ symbol := by
  unfold readOperator? at h
  split at h
  case h_9 =>
    split at h
    · next hword =>
      split at h <;> cases h
      exact ⟨_, eq_append_of_dropLead? hword, by decide⟩
    · cases h
  all_goals
    cases h
    first
      | exact ⟨[_, _], rfl, by decide⟩
      | exact ⟨[_], rfl, by decide⟩

theorem namesIn_of_readOperator? {cs rest : List Char} {op : Comparator}
    (h : readOperator? cs = some (op, rest)) :
    namesIn conditionStyle cs = namesIn conditionStyle rest := by
  obtain ⟨symbol, rfl, hsymbol⟩ := exists_symbol_of_readOperator? h
  refine namesIn_append_plain fun c hc => ?_
  rintro (rfl | ⟨hskip, -⟩)
  · exact hsymbol hc
  · cases hskip

theorem namesIn_trimStart (cs : List Char) :
    namesIn conditionStyle (Text.trimStart cs) = namesIn conditionStyle cs :=
  namesIn_dropWhile fun _ => not_marks_of_isBlank

theorem namesIn_afterBrace (cs : List Char) :
    namesIn conditionStyle (match cs with
      | '}' :: rest => rest
      | cs => cs) = namesIn conditionStyle cs := by
  split
  · exact (namesIn_cons_of_ne (by decide)).symm
  · rfl

/-- Behind a name the scan finds what is in the operand. -/
theorem namesIn_of_readTail? {cs operand : List Char} {op : Comparator}
    (h : readTail? cs = some (op, operand)) :
    namesIn conditionStyle cs = namesIn conditionStyle operand := by
  unfold readTail? at h
  dsimp only at h
  split at h
  · next rest hoperator =>
    split at h <;> cases h
    rw [namesIn_trimStart, ← namesIn_of_readOperator? hoperator, namesIn_trimStart]
    exact (namesIn_afterBrace cs).symm
  · cases h

theorem exists_tail_of_readNamed? {run after : List Char} {count : Nat} {name operand : List Char}
    {op : Comparator} (h : readNamed? run after count = some (name, op, operand)) :
    ∃ n, n < count ∧ name = run.take (n + 1) ∧
      readTail? (run.drop (n + 1) ++ after) = some (op, operand) := by
  induction count with
  | zero => cases h
  | succ count ih =>
    unfold readNamed? at h
    split at h
    · next htail =>
      cases h
      exact ⟨count, Nat.lt_succ_self count, rfl, htail⟩
    · obtain ⟨n, hn, hrest⟩ := ih h
      exact ⟨n, Nat.lt_succ_of_lt hn, hrest⟩

theorem isNameChar_of_isKnownNameChar {c : Char} (h : Text.isKnownNameChar c = true) :
    Text.isNameChar c = true := by
  rw [Text.isKnownNameChar, Bool.and_eq_true] at h
  exact h.1

/-- In a part that is read as a comparison the scan finds what the first dollar sign refers to and
what is in the text of the operand. -/
theorem namesIn_part {part : List Char} {c : Comparison} (h : ofChars? part = some c) :
    IsName c.column.toList ∧ ∃ cs operand, part = '$' :: cs ∧
      c.operand = operandOf (Text.trim operand) ∧
      namesIn conditionStyle part =
        ((afterDollar conditionStyle cs).name?.map String.ofList).toList ++
          namesIn conditionStyle (Text.trim operand) := by
  unfold ofChars? at h
  obtain ⟨cs, hdollar, h⟩ := Option.bind_eq_some_iff.1 h
  dsimp only at h
  obtain ⟨⟨name, op, operand⟩, hnamed, h⟩ := Option.bind_eq_some_iff.1 h
  cases h
  obtain ⟨n, hn, rfl, htail⟩ := exists_tail_of_readNamed? hnamed
  -- the name and what follows it make up the text after the sign, up to a brace
  generalize hrest : (Text.dropLead? ['{'] cs).getD cs = rest at htail hn
  have hname : IsName ((rest.takeWhile Text.isKnownNameChar).take (n + 1)) := by
    refine ⟨fun hnil => ?_, fun d hd => ?_⟩
    · have hlength := congrArg List.length hnil
      rw [List.length_take_of_le hn] at hlength
      cases hlength
    · exact isNameChar_of_isKnownNameChar (List.mem_takeWhile_imp (List.mem_of_mem_take hd))
  have hcut : (rest.takeWhile Text.isKnownNameChar).take (n + 1) ++
      ((rest.takeWhile Text.isKnownNameChar).drop (n + 1) ++
        rest.dropWhile Text.isKnownNameChar) = rest := by
    rw [← List.append_assoc, List.take_append_drop, List.takeWhile_append_dropWhile]
  have hnames : namesIn conditionStyle rest = namesIn conditionStyle operand := by
    rw [← namesIn_of_readTail? htail]
    conv => lhs; rw [← hcut]
    exact namesIn_append_plain fun d hd => not_marks_of_isNameChar (hname.2 d hd)
  have hbrace : namesIn conditionStyle cs = namesIn conditionStyle rest := by
    cases hopen : Text.dropLead? ['{'] cs with
    | none => rw [← hrest, hopen, Option.getD_none]
    | some inner =>
      rw [← hrest, hopen, Option.getD_some, eq_append_of_dropLead? hopen]
      exact namesIn_cons_of_ne (by decide)
  refine ⟨by rwa [String.toList_ofList], cs, operand, eq_append_of_dropLead? hdollar, rfl, ?_⟩
  rw [eq_append_of_dropLead? hdollar]
  show namesIn conditionStyle ('$' :: cs) = _
  rw [namesIn_dollar, hbrace, hnames, namesIn_trim rfl]

/-- The scan of a part finds a name if the part begins with it or the operand has it. -/
theorem mem_namesIn_part {part : List Char} {c : Comparison} (h : ofChars? part = some c) :
    ∃ operand, c.operand = operandOf operand ∧ ∀ n,
      n ∈ namesIn conditionStyle part ↔ BeginsWith n part ∨ n ∈ namesIn conditionStyle operand := by
  obtain ⟨-, cs, operand, rfl, hoperand, hnames⟩ := namesIn_part h
  refine ⟨_, hoperand, fun n => ?_⟩
  rw [hnames, List.mem_append, beginsWith_iff, Option.mem_toList, Option.map_eq_some_iff]
  refine or_congr_left ⟨?_, fun hn => ⟨_, hn, String.ofList_toList⟩⟩
  rintro ⟨name, hname, rfl⟩
  rw [hname, String.toList_ofList]

/-! ## The operand -/

theorem eq_concat_of_dropLast? {last : Char} {cs front : List Char}
    (h : Text.dropLast? last cs = some front) : cs = front ++ [last] := by
  unfold Text.dropLast? at h
  split at h
  · next d hlast =>
    split at h
    · next hd =>
      cases h
      obtain ⟨ys, rfl⟩ := List.getLast?_eq_some_iff.1 hlast
      rw [hd, List.dropLast_concat]
    · cases h
  · cases h

theorem eq_of_between? {first last : Char} {cs inner : List Char}
    (h : Text.between? first last cs = some inner) : cs = first :: (inner ++ [last]) := by
  cases cs with
  | nil => cases h
  | cons c rest =>
    rw [Text.between?] at h
    split at h
    · next hfirst => rw [hfirst, eq_concat_of_dropLast? h]
    · cases h

/-- The operand is a reference that is spelled in full, and so the only one that is found. -/
theorem namesIn_operand_of_column {text : List Char} {n : String}
    (h : operandOf text = .column n) (hn : IsName n.toList) : namesIn conditionStyle text = [n] := by
  unfold operandOf at h
  split at h
  · next name =>
    cases h
    rw [String.toList_ofList] at hn
    cases hbraced : Text.between? '{' '}' name with
    | some inner =>
      rw [hbraced, Option.getD_some] at hn
      rw [Option.getD_some]
      obtain rfl := eq_of_between? hbraced
      have hname : (afterDollar conditionStyle ('{' :: (inner ++ ['}']))).name? = some inner :=
        name?_afterDollar_eq_some_iff.2 ⟨hn, .inl ⟨[], rfl⟩⟩
      have hnone : namesIn conditionStyle ('{' :: (inner ++ ['}'])) = [] := by
        rw [namesIn_cons_of_ne (by decide),
          namesIn_append_plain fun d hd => not_marks_of_isNameChar (hn.2 d hd),
          namesIn_cons_of_ne (by decide), namesIn_nil]
      rw [namesIn_dollar, hname, hnone]
      rfl
    | none =>
      rw [hbraced, Option.getD_none] at hn
      rw [Option.getD_none]
      have hname : (afterDollar conditionStyle name).name? = some name :=
        name?_afterDollar_eq_some_iff.2 ⟨hn, .inr ⟨rfl, [], by simp, by simp⟩⟩
      have hnone : namesIn conditionStyle name = [] := by
        rw [← List.append_nil name,
          namesIn_append_plain fun d hd => not_marks_of_isNameChar (hn.2 d hd), namesIn_nil]
      rw [namesIn_dollar, hname, hnone]
      rfl
  · cases h

theorem isBoundary_of_quote {c : Char} (h : c = '\'' ∨ c = '"') : IsBoundary c := by
  rcases h with rfl | rfl <;> refine ⟨?_, ?_, ?_, ?_⟩ <;> decide +kernel

theorem namesIn_quotes {quote : Char} (h : quote = '\'' ∨ quote = '"') (inner : List Char) :
    namesIn conditionStyle (quote :: (inner ++ [quote])) = namesIn conditionStyle inner := by
  have hquote := isBoundary_of_quote h
  rw [namesIn_cons_of_ne hquote.2.2.2, namesIn_append rfl hquote, namesIn_nil, List.append_nil]

/-- In a literal the scan finds the names that it would find without the quotes. -/
theorem namesIn_operand_of_literal {text : List Char} {s : String}
    (h : operandOf text = .literal s) :
    namesIn conditionStyle text = namesIn conditionStyle s.toList := by
  unfold operandOf at h
  split at h
  · cases h
  · cases h
    rw [String.toList_ofList, unquote]
    split
    · next inner hinner =>
      rw [eq_of_between? hinner]
      exact namesIn_quotes (.inl rfl) inner
    · cases hdouble : Text.between? '"' '"' text with
      | none => rfl
      | some inner =>
        rw [eq_of_between? hdouble]
        exact namesIn_quotes (.inr rfl) inner

/-! ## Scanned and read -/

/-- The part spells out what the comparison reads: its column with a whole name, the column that its
operand names too, and nothing else that looks like a reference. -/
structure SpellsOut (part : List Char) (c : Comparison) : Prop where
  column : BeginsWith c.column part
  operand : ∀ n, c.operand = .column n → IsName n.toList
  literal : ∀ s, c.operand = .literal s → namesIn conditionStyle s.toList = []

theorem SpellsOut.namesIn_eq {part : List Char} {c : Comparison} (hs : SpellsOut part c)
    (h : ofChars? part = some c) : namesIn conditionStyle part = c.columns := by
  obtain ⟨-, cs, operand, rfl, hoperand, hnames⟩ := namesIn_part h
  have hcolumn := beginsWith_iff.1 hs.column
  have hrest : namesIn conditionStyle (Text.trim operand) = c.operand.columns := by
    cases hc : c.operand with
    | column n =>
      rw [hc] at hoperand
      exact namesIn_operand_of_column hoperand.symm (hs.operand n hc)
    | literal s =>
      rw [hc] at hoperand
      exact (namesIn_operand_of_literal hoperand.symm).trans (hs.literal s hc)
  rw [hnames, hcolumn, hrest, Option.map_some, String.ofList_toList]
  rfl

/-- What the scan makes of a comparison in a condition in which it finds the names `found` and of
which the columns `read` are read. -/
structure Agrees (found read : List String) (part : List Char) (c : Comparison) : Prop where
  /-- If the part does not begin with the whole name of its column, the scan finds that column
  elsewhere, and what it finds in its place is read elsewhere. -/
  column : ¬ BeginsWith c.column part →
    c.column ∈ found ∧ ∀ n, BeginsWith n part → n ∈ read
  /-- A column that the operand names has the name of a reference. -/
  operand : ∀ n, c.operand = .column n → IsName n.toList
  /-- What looks like a reference in a literal is read elsewhere. -/
  literal : ∀ s, c.operand = .literal s → ∀ n ∈ namesIn conditionStyle s.toList, n ∈ read

section

variable {found read : List String} {part : List Char} {c : Comparison}

theorem agrees_of_mem (h : ofChars? part = some c)
    (hread : ∀ n ∈ namesIn conditionStyle part, n ∈ read) (hfound : ∀ n ∈ c.columns, n ∈ found)
    (hname : ∀ n ∈ found, IsName n.toList) : Agrees found read part c := by
  obtain ⟨text, htext, hnames⟩ := mem_namesIn_part h
  refine ⟨fun _ => ⟨hfound _ List.mem_cons_self, fun n hn => ?_⟩, fun n hn => ?_,
    fun s hs n hn => ?_⟩
  · exact hread n ((hnames n).2 (.inl hn))
  · exact hname n (hfound n (by simp [columns, hn, Operand.columns]))
  · rw [hs] at htext
    rw [← namesIn_operand_of_literal htext.symm] at hn
    exact hread n ((hnames n).2 (.inr hn))

theorem Agrees.mem_read (ha : Agrees found read part c) (h : ofChars? part = some c) {n : String}
    (hn : n ∈ namesIn conditionStyle part) : n ∈ c.columns ∨ n ∈ read := by
  obtain ⟨text, htext, hnames⟩ := mem_namesIn_part h
  rcases (hnames n).1 hn with hbegins | hn
  · by_cases hcolumn : BeginsWith c.column part
    · rw [eq_of_beginsWith hbegins hcolumn]
      exact .inl List.mem_cons_self
    · exact .inr ((ha.column hcolumn).2 n hbegins)
  · cases hoperand : c.operand with
    | column m =>
      rw [hoperand] at htext
      rw [namesIn_operand_of_column htext.symm (ha.operand m hoperand), List.mem_singleton] at hn
      exact .inl (by simp [columns, hoperand, Operand.columns, hn])
    | literal s =>
      rw [hoperand] at htext
      rw [namesIn_operand_of_literal htext.symm] at hn
      exact .inr (ha.literal s hoperand n hn)

theorem Agrees.mem_found (ha : Agrees found read part c) (h : ofChars? part = some c) {n : String}
    (hn : n ∈ c.columns) : n ∈ namesIn conditionStyle part ∨ n ∈ found := by
  obtain ⟨text, htext, hnames⟩ := mem_namesIn_part h
  rcases List.mem_cons.1 hn with rfl | hn
  · by_cases hcolumn : BeginsWith c.column part
    · exact .inl ((hnames _).2 (.inl hcolumn))
    · exact .inr (ha.column hcolumn).1
  · cases hoperand : c.operand with
    | column m =>
      rw [hoperand] at htext hn
      obtain rfl := List.mem_singleton.1 hn
      refine .inl ((hnames n).2 (.inr ?_))
      rw [namesIn_operand_of_column htext.symm (ha.operand n hoperand)]
      exact List.mem_cons_self
    | literal s =>
      rw [hoperand] at hn
      cases hn

end

end Comparison

/-! ## The whole condition -/

namespace Condition

/-- The comparisons of a condition are those of its parts. -/
theorem comparisons_of_ofText {source : String} {groups : List (List Comparison)}
    (h : ofText source = .ok (.anyOf groups)) :
    List.Forall₂ (fun part c => Comparison.ofChars? part = some c) (partsOf source)
      groups.flatten := by
  unfold ofText at h
  dsimp only at h
  split at h
  · cases h
  · split at h
    · next hgroups =>
      cases h
      rw [partsOf, List.forall₂_map_left_iff, List.flatMap_def]
      refine List.rel_flatten (List.forall₂_map_left_iff.2 ?_)
      refine (forall₂_of_mapM hgroups).imp fun group comparisons hgroup => ?_
      refine (forall₂_of_mapM hgroup).imp fun part c hpart => ?_
      unfold Comparison.ofPart at hpart
      dsimp only at hpart
      split at hpart
      · next hread =>
        cases hpart
        exact hread
      · cases hpart
    · cases h

theorem isBoundary_of_joint {c : Char} (h : c = '|' ∨ c = '&') : IsBoundary c := by
  rcases h with rfl | rfl <;> refine ⟨?_, ?_, ?_, ?_⟩ <;> decide +kernel

/-- The names that the scan finds in a condition are those of its parts, in order. -/
theorem namesIn_partsOf (source : String) :
    Reference.names (conditionVariables source) =
      (partsOf source).flatMap (namesIn conditionStyle) := by
  have hparts : ∀ groups : List (List Char),
      ((groups.flatMap (Text.splitOn '&')).map Text.trim).flatMap (namesIn conditionStyle) =
        groups.flatMap (namesIn conditionStyle) := by
    intro groups
    rw [List.flatMap_map, List.flatMap_assoc]
    refine List.flatMap_congr fun group _ => ?_
    rw [← namesIn_splitOn rfl (isBoundary_of_joint (.inr rfl)) group]
    exact List.flatMap_congr fun part _ => namesIn_trim rfl part
  rw [conditionVariables, names_scan, partsOf, hparts,
    namesIn_splitOn rfl (isBoundary_of_joint (.inl rfl)), namesIn_trim rfl]

theorem columns_anyOf (groups : List (List Comparison)) :
    (anyOf groups).columns = groups.flatten.flatMap Comparison.columns := by
  induction groups with
  | nil => rfl
  | cons group rest ih =>
    rw [columns, List.flatMap_cons, List.flatten_cons, List.flatMap_append, ← ih]
    rfl

/-- If every part spells out what it reads, the scan finds the columns of a condition in the order
in which they are read. In general it finds just the columns that are read if and only if, in each
part, what it misses is found elsewhere and what it finds besides is read elsewhere. -/
theorem found_iff_read {source : String} {groups : List (List Comparison)}
    (h : ofText source = .ok (.anyOf groups)) :
    ((∀ part ∈ partsOf source, ∀ c, Comparison.ofChars? part = some c →
        Comparison.SpellsOut part c) →
      Reference.names (conditionVariables source) = (anyOf groups).columns) ∧
    ((∀ n, n ∈ Reference.names (conditionVariables source) ↔ n ∈ (anyOf groups).columns) ↔
      ∀ part ∈ partsOf source, ∀ c, Comparison.ofChars? part = some c →
        Comparison.Agrees (Reference.names (conditionVariables source)) (anyOf groups).columns
          part c) := by
  have hcomparisons := comparisons_of_ofText h
  rw [namesIn_partsOf, columns_anyOf]
  refine ⟨fun hspelled => ?_, fun hsame part hpart c hc => ?_, fun hagrees n => ?_⟩
  · clear h
    generalize partsOf source = parts at hcomparisons hspelled
    generalize groups.flatten = comparisons at hcomparisons
    induction hcomparisons with
    | nil => rfl
    | cons hc hrest ih =>
      rw [List.flatMap_cons, List.flatMap_cons, (hspelled _ List.mem_cons_self _ hc).namesIn_eq hc,
        ih fun part hpart => hspelled part (List.mem_cons_of_mem _ hpart)]
  · obtain ⟨c', hc', hread⟩ := exists_of_forall₂ hcomparisons hpart
    obtain rfl := Option.some.inj (hc.symm.trans hread)
    refine Comparison.agrees_of_mem hc (fun n hn => ?_) (fun n hn => ?_) fun n hn => ?_
    · exact (hsame n).1 (List.mem_flatMap.2 ⟨part, hpart, hn⟩)
    · exact (hsame n).2 (List.mem_flatMap.2 ⟨c, hc', hn⟩)
    · obtain ⟨other, -, hother⟩ := List.mem_flatMap.1 hn
      exact isName_of_mem_namesIn rfl hother
  · constructor
    · intro hn
      obtain ⟨part, hpart, hn⟩ := List.mem_flatMap.1 hn
      obtain ⟨c, hc, hread⟩ := exists_of_forall₂ hcomparisons hpart
      rcases (hagrees part hpart c hread).mem_read hread hn with hn | hn
      · exact List.mem_flatMap.2 ⟨c, hc, hn⟩
      · exact hn
    · intro hn
      obtain ⟨c, hc, hn⟩ := List.mem_flatMap.1 hn
      obtain ⟨part, hpart, hread⟩ := exists_of_forall₂ hcomparisons.flip hc
      rcases (hagrees part hpart c hread).mem_found hread hn with hn | hn
      · exact List.mem_flatMap.2 ⟨part, hpart, hn⟩
      · exact hn

/-- A name in a literal does no harm where another part reads the column. -/
theorem found_iff_read_quoted :
    ofText "$a = '$b' & ${b} > 1" =
        .ok (.anyOf [[⟨"a", .equal, .literal "$b"⟩, ⟨"b", .greater, .literal "1"⟩]]) ∧
      ∀ part ∈ partsOf "$a = '$b' & ${b} > 1", ∀ c, Comparison.ofChars? part = some c →
        Comparison.Agrees ["a", "b", "b"] ["a", "b"] part c := by
  have hread : ofText "$a = '$b' & ${b} > 1" =
      .ok (.anyOf [[⟨"a", .equal, .literal "$b"⟩, ⟨"b", .greater, .literal "1"⟩]]) := by
    decide +kernel
  have hfound : Reference.names (conditionVariables "$a = '$b' & ${b} > 1") = ["a", "b", "b"] := by
    decide +kernel
  obtain ⟨-, hagrees⟩ := found_iff_read hread
  rw [hfound] at hagrees
  exact ⟨hread, hagrees.1 fun n => by simp [columns, Comparison.columns, Operand.columns]⟩

/-- A condition on the column `a`, with a brace that is not closed. -/
def unclosed : String := "$\x7ba > 3"

/-- A brace that is not closed: the column is read, and the scan finds nothing. -/
theorem not_found_iff_read_unclosed :
    ofText unclosed = .ok (.anyOf [[⟨"a", .greater, .literal "3"⟩]]) ∧
      ¬ ∀ n, n ∈ Reference.names (conditionVariables unclosed) ↔
        n ∈ (anyOf [[⟨"a", .greater, .literal "3"⟩]]).columns := by
  refine ⟨by decide +kernel, fun h => ?_⟩
  have hnone : Reference.names (conditionVariables unclosed) = [] := by decide +kernel
  have hfound := (h "a").2 (by decide)
  rw [hnone] at hfound
  cases hfound

end Condition

end SynthTable
