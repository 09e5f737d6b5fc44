import SynthTable.Proofs.Text.Parts
import SynthTable.Schema.Derivation

/-!
# The names that a scan finds

A scan cuts a text into segments, and what others read of it are the names of the references among
these, in order (`names_scan`). The names of a text are found by passing over it: plain characters
are passed by one by one (`namesIn_append_plain`), a dollar sign takes what belongs to its reference
(`namesIn_dollar`), and a quote takes the quoted part (`namesIn_quoted`).
-/

namespace SynthTable.Reference

/-- The name of a segment that is a reference. -/
def Segment.name? : Segment → Option String
  | .plain _ => none
  | .reference _ name => some (String.ofList name)

/-- The names of the references in a text, in order. -/
def namesIn (style : Style) (cs : List Char) : List String :=
  (segments style cs).filterMap Segment.name?

theorem names_locate (position : Nat) (parts : List Segment) :
    names (locate position parts) = parts.filterMap Segment.name? := by
  induction parts generalizing position with
  | nil => rfl
  | cons part rest ih =>
    cases part with
    | plain text => exact ih _
    | reference text name =>
      show String.ofList name :: names (locate _ rest) = _
      rw [ih]
      rfl

theorem names_scan (style : Style) (text : String) :
    names (scan style text) = namesIn style text.toList :=
  names_locate 0 _

/-- The characters that do not stand for themselves. -/
def Style.marks (style : Style) (c : Char) : Prop :=
  c = '$' ∨ style.skipQuoted = true ∧ (c = '\'' ∨ c = '"')

variable {style : Style} {c : Char} {cs : List Char}

theorem namesIn_nil : namesIn style [] = [] := by
  simp [namesIn, segments]

theorem namesIn_plain (h : ¬ style.marks c) : namesIn style (c :: cs) = namesIn style cs := by
  obtain ⟨hdollar, hquote⟩ := not_or.1 h
  have hskip : (style.skipQuoted && (c == '\'' || c == '"')) = false := by
    simpa using hquote
  rw [namesIn, segments, if_neg (by simp [hskip]), if_neg hdollar]
  rfl

theorem namesIn_append_plain {pre : List Char} (h : ∀ c ∈ pre, ¬ style.marks c) :
    namesIn style (pre ++ cs) = namesIn style cs := by
  induction pre with
  | nil => rfl
  | cons c rest ih =>
    rw [List.cons_append, namesIn_plain (h c List.mem_cons_self)]
    exact ih fun d hd => h d (List.mem_cons_of_mem c hd)

theorem namesIn_dropWhile {p : Char → Bool} (h : ∀ c, p c = true → ¬ style.marks c) :
    namesIn style (cs.dropWhile p) = namesIn style cs := by
  have hcut := List.takeWhile_append_dropWhile (p := p) (l := cs)
  rw [← namesIn_append_plain (fun c hc => h c (List.mem_takeWhile_imp hc)), hcut]

theorem namesIn_quoted (hskip : style.skipQuoted = true) (hc : c = '\'' ∨ c = '"') :
    namesIn style (c :: cs) = namesIn style (quotedPart c cs).2 := by
  have hquote : (style.skipQuoted && (c == '\'' || c == '"')) = true := by
    simpa [hskip] using hc
  rw [namesIn, segments, if_pos hquote]
  rfl

/-! ## Characters that are no marks -/

/-- No character of a name is a mark. -/
theorem not_marks_of_isNameChar (h : Text.isNameChar c = true) : ¬ style.marks c := by
  rintro (rfl | ⟨-, rfl | rfl⟩) <;> revert h <;> decide +kernel

theorem not_marks_of_isBlank (h : Text.isBlank c = true) : ¬ style.marks c := by
  rintro (rfl | ⟨-, rfl | rfl⟩) <;> revert h <;> decide

/-! ## Names -/

/-- A run of name characters. -/
def IsName (name : List Char) : Prop := name ≠ [] ∧ ∀ c ∈ name, Text.isNameChar c = true

theorem not_isNameChar_brace {c : Char} (h : c = '{' ∨ c = '}') : Text.isNameChar c = false := by
  rcases h with rfl | rfl <;> decide +kernel

/-! ## After a dollar sign -/

theorem name?_afterDollar_brace {inner : List Char} :
    (afterDollar style ('{' :: inner)).name? =
      if inner.takeWhile Text.isNameChar ≠ [] ∧
          (inner.dropWhile Text.isNameChar).head? = some '}' then
        some (inner.takeWhile Text.isNameChar)
      else none := by
  unfold afterDollar
  split
  · next heq =>
    obtain rfl := (List.cons.inj heq).2
    dsimp only
    split
    · next hnil => rw [if_neg fun h => h.1 hnil]
    · next rest hafter hne => rw [if_pos ⟨hne, by rw [hafter]; rfl⟩]
    · next hopen =>
      rw [if_neg]
      rintro ⟨hne, hhead⟩
      obtain ⟨rest, hrest⟩ := List.head?_eq_some_iff.1 hhead
      exact hopen rest hrest
  · next hbrace => exact absurd rfl (hbrace inner)

theorem name?_afterDollar_bare (h : cs.head? ≠ some '{') :
    (afterDollar style cs).name? =
      if style.bare = true ∧ cs.takeWhile Text.isNameChar ≠ [] then
        some (cs.takeWhile Text.isNameChar)
      else none := by
  unfold afterDollar
  split
  · exact absurd rfl h
  · split
    · next hbare =>
      split
      · next hnil => rw [if_neg (by simp [hnil])]
      · next hne => rw [if_pos ⟨hbare, hne⟩]
    · next hbare => rw [if_neg (by simp [hbare])]

/-- What a dollar sign refers to: a name in braces, or a name without braces up to its end. -/
theorem name?_afterDollar_eq_some_iff {name : List Char} :
    (afterDollar style cs).name? = some name ↔ IsName name ∧
      ((∃ rest, cs = '{' :: (name ++ '}' :: rest)) ∨
        style.bare = true ∧ ∃ rest, cs = name ++ rest ∧
          ∀ c ∈ rest.head?, Text.isNameChar c = false) := by
  constructor
  · intro h
    by_cases hhead : cs.head? = some '{'
    · obtain ⟨inner, rfl⟩ := List.head?_eq_some_iff.1 hhead
      rw [name?_afterDollar_brace] at h
      split at h
      · next hclosed =>
        cases h
        obtain ⟨rest, hrest⟩ := List.head?_eq_some_iff.1 hclosed.2
        refine ⟨⟨hclosed.1, fun c hc => List.mem_takeWhile_imp hc⟩, .inl ⟨rest, ?_⟩⟩
        rw [← hrest, List.takeWhile_append_dropWhile]
      · cases h
    · rw [name?_afterDollar_bare hhead] at h
      split at h
      · next hbare =>
        cases h
        refine ⟨⟨hbare.2, fun c hc => List.mem_takeWhile_imp hc⟩, .inr ⟨hbare.1, _,
          List.takeWhile_append_dropWhile.symm, fun c hc => ?_⟩⟩
        have hstop := List.head?_dropWhile_not Text.isNameChar cs
        rw [Option.mem_def.1 hc] at hstop
        exact hstop
      · cases h
  · rintro ⟨hname, ⟨rest, rfl⟩ | ⟨hbare, rest, rfl, hrest⟩⟩
    · have hstop : ∀ c ∈ ('}' :: rest).head?, Text.isNameChar c = false := by
        rintro c ⟨⟩
        exact not_isNameChar_brace (.inr rfl)
      obtain ⟨htake, hdrop⟩ := Text.takeWhile_run hname.2 hstop
      rw [name?_afterDollar_brace, htake, hdrop, if_pos ⟨hname.1, rfl⟩]
    · have hhead : (name ++ rest).head? ≠ some '{' := by
        obtain ⟨c, name, rfl⟩ := List.exists_cons_of_ne_nil hname.1
        rintro ⟨⟩
        have hc := hname.2 '{' List.mem_cons_self
        rw [not_isNameChar_brace (.inl rfl)] at hc
        cases hc
      rw [name?_afterDollar_bare hhead, (Text.takeWhile_run hname.2 hrest).1,
        if_pos ⟨hbare, hname.1⟩]

/-- A name in braces is read with them. -/
theorem afterDollar_braces {name : List Char} (h : IsName name) (rest : List Char) :
    afterDollar style ('{' :: (name ++ '}' :: rest)) =
      ⟨some name, '{' :: name ++ ['}'], rest⟩ := by
  have hstop : ∀ c ∈ ('}' :: rest).head?, Text.isNameChar c = false := by
    rintro c ⟨⟩
    exact not_isNameChar_brace (.inr rfl)
  obtain ⟨htake, hdrop⟩ := Text.takeWhile_run h.2 hstop
  obtain ⟨c, more, rfl⟩ := List.exists_cons_of_ne_nil h.1
  simp only [afterDollar, htake, hdrop]

/-- What is taken after a dollar sign are braces and characters of names. -/
theorem taken_afterDollar (style : Style) (cs : List Char) :
    (afterDollar style cs).taken ++ (afterDollar style cs).rest = cs ∧
      ∀ c ∈ (afterDollar style cs).taken, Text.isNameChar c = true ∨ c = '{' ∨ c = '}' := by
  have hrun : ∀ {c : Char} {run : List Char}, c ∈ run.takeWhile Text.isNameChar →
      Text.isNameChar c = true ∨ c = '{' ∨ c = '}' := fun hc => .inl (List.mem_takeWhile_imp hc)
  unfold afterDollar
  split
  · next inner =>
    have hcut := List.takeWhile_append_dropWhile (p := Text.isNameChar) (l := inner)
    dsimp only
    split
    · next hnil =>
      rw [hnil] at hcut
      refine ⟨congrArg _ hcut, fun c hc => ?_⟩
      exact .inr (.inl (List.mem_singleton.1 hc))
    · next rest hafter _ =>
      refine ⟨by simpa [hafter] using hcut, fun c hc => ?_⟩
      rcases List.mem_append.1 hc with hc | hc
      · rcases List.mem_cons.1 hc with hc | hc
        · exact .inr (.inl hc)
        · exact hrun hc
      · exact .inr (.inr (List.mem_singleton.1 hc))
    · refine ⟨congrArg _ hcut, fun c hc => ?_⟩
      rcases List.mem_cons.1 hc with hc | hc
      · exact .inr (.inl hc)
      · exact hrun hc
  · split
    · split
      · exact ⟨rfl, by simp⟩
      · exact ⟨List.takeWhile_append_dropWhile, fun c hc => hrun hc⟩
    · exact ⟨rfl, by simp⟩

theorem not_marks_of_brace (h : c = '{' ∨ c = '}') : ¬ style.marks c := by
  rcases h with rfl | rfl <;> simp [Style.marks]

theorem namesIn_rest : namesIn style (afterDollar style cs).rest = namesIn style cs := by
  obtain ⟨htaken, hplain⟩ := taken_afterDollar style cs
  rw [← namesIn_append_plain fun c hc => (hplain c hc).elim not_marks_of_isNameChar
    not_marks_of_brace, htaken]

/-- What stands after a dollar sign is scanned as if the sign was not there, but for the name that
the sign refers to. -/
theorem namesIn_dollar :
    namesIn style ('$' :: cs) =
      ((afterDollar style cs).name?.map String.ofList).toList ++ namesIn style cs := by
  rw [namesIn, segments, if_neg (by simp), if_pos rfl, ← namesIn_rest]
  cases (afterDollar style cs).name? <;> rfl

/-! ## Texts of which no part is quoted -/

/-- Where quotes count as plain text, the names found are names. -/
theorem isName_of_mem_namesIn (hplain : style.skipQuoted = false) {n : String}
    (h : n ∈ namesIn style cs) : IsName n.toList := by
  induction cs with
  | nil =>
    rw [namesIn_nil] at h
    cases h
  | cons c rest ih =>
    by_cases hc : c = '$'
    · rw [hc, namesIn_dollar, List.mem_append] at h
      rcases h with hself | hrest
      · simp only [Option.mem_toList, Option.map_eq_some_iff] at hself
        obtain ⟨name, hname, rfl⟩ := hself
        rw [String.toList_ofList]
        exact (name?_afterDollar_eq_some_iff.1 hname).1
      · exact ih hrest
    · rw [namesIn_plain (by simp [Style.marks, hc, hplain])] at h
      exact ih h

/-- The characters that no reference goes over. -/
def IsBoundary (c : Char) : Prop :=
  Text.isNameChar c = false ∧ c ≠ '{' ∧ c ≠ '}' ∧ c ≠ '$'

theorem name?_afterDollar_append {d : Char} (hd : IsBoundary d) (xs ys : List Char) :
    (afterDollar style (xs ++ d :: ys)).name? = (afterDollar style xs).name? := by
  obtain ⟨hname, hopen, hclose, -⟩ := hd
  by_cases hhead : xs.head? = some '{'
  · obtain ⟨inner, rfl⟩ := List.head?_eq_some_iff.1 hhead
    rw [List.cons_append, name?_afterDollar_brace, name?_afterDollar_brace,
      Text.takeWhile_append_stop hname, Text.dropWhile_append_stop hname]
    cases inner.dropWhile Text.isNameChar with
    | nil => simp [hclose]
    | cons e es => rfl
  · have hhead' : (xs ++ d :: ys).head? ≠ some '{' := by
      cases xs with
      | nil => simpa using hopen
      | cons c xs => exact hhead
    rw [name?_afterDollar_bare hhead, name?_afterDollar_bare hhead',
      Text.takeWhile_append_stop hname]

theorem namesIn_append (hplain : style.skipQuoted = false) {d : Char} (hd : IsBoundary d)
    (xs ys : List Char) : namesIn style (xs ++ d :: ys) = namesIn style xs ++ namesIn style ys := by
  induction xs with
  | nil =>
    rw [List.nil_append, namesIn_nil, namesIn_plain (by simp [Style.marks, hd.2.2.2, hplain])]
    rfl
  | cons c xs ih =>
    rw [List.cons_append]
    by_cases hc : c = '$'
    · rw [hc, namesIn_dollar, namesIn_dollar, name?_afterDollar_append hd, ih, List.append_assoc]
    · have hmark : ¬ style.marks c := by simp [Style.marks, hc, hplain]
      rw [namesIn_plain hmark, namesIn_plain hmark, ih]

/-! ## Texts cut into parts -/

theorem exists_range_of_inRanges {ranges : List Text.CodeRange} {n : Nat}
    (h : Text.inRanges ranges n = true) : ∃ r ∈ ranges, r.1 ≤ n ∧ n ≤ r.2 := by
  induction ranges with
  | nil => cases h
  | cons r rest ih =>
    unfold Text.inRanges at h
    split at h
    · cases h
    · next hlow =>
      rcases Bool.or_eq_true_iff.1 h with hhigh | hrest
      · exact ⟨r, List.mem_cons_self, Nat.le_of_not_lt hlow, of_decide_eq_true hhigh⟩
      · exact (ih hrest).imp fun _ hr => ⟨List.mem_cons_of_mem _ hr.1, hr.2⟩

/-- No blank is a character of a name. -/
theorem not_isNameChar_of_isBlank (h : Text.isBlank c = true) : Text.isNameChar c = false := by
  have hblanks : ∀ r ∈ Text.blankRanges, ∀ n ∈ List.range' r.1 (r.2 - r.1 + 1),
      Text.inRanges Text.alphabeticRanges n = false ∧
        Text.inRanges Text.numericRanges n = false ∧ n ≠ '_'.toNat := by
    decide +kernel
  obtain ⟨r, hr, hlow, hhigh⟩ := exists_range_of_inRanges h
  obtain ⟨halphabetic, hnumeric, hunderscore⟩ := hblanks r hr c.toNat (by
    rw [List.mem_range'_1]
    omega)
  have hc : c ≠ '_' := fun hc => hunderscore (congrArg Char.toNat hc)
  simp [Text.isNameChar, Text.isAlphabetic, Text.isNumeric, halphabetic, hnumeric, hc]

theorem isBoundary_of_isBlank (h : Text.isBlank c = true) : IsBoundary c := by
  refine ⟨not_isNameChar_of_isBlank h, ?_, ?_, ?_⟩ <;> rintro rfl <;> revert h <;> decide

theorem splitOn_ne_nil (sep : Char) (cs : List Char) : Text.splitOn sep cs ≠ [] := by
  cases cs with
  | nil => simp [Text.splitOn]
  | cons c rest =>
    unfold Text.splitOn
    split
    · simp
    · split <;> simp

theorem splitOn_eq_cons {sep : Char} {cs part : List Char} {parts : List (List Char)}
    (h : Text.splitOn sep cs = part :: parts) : cs = part ∨ ∃ more, cs = part ++ sep :: more := by
  induction cs generalizing part parts with
  | nil =>
    cases h
    exact .inl rfl
  | cons c rest ih =>
    unfold Text.splitOn at h
    split at h
    · next hc =>
      cases h
      exact .inr ⟨rest, by rw [hc]; rfl⟩
    · split at h
      · next hrest =>
        cases h
        have hne := splitOn_ne_nil sep rest
        exact absurd hrest hne
      · next first later hrest =>
        cases h
        exact (ih hrest).imp (congrArg _) fun ⟨more, hmore⟩ => ⟨more, by rw [hmore]; rfl⟩

section

variable (hplain : style.skipQuoted = false)
include hplain

theorem namesIn_append_boundaries (xs : List Char) {ys : List Char} (h : ∀ c ∈ ys, IsBoundary c) :
    namesIn style (xs ++ ys) = namesIn style xs := by
  cases ys with
  | nil => rw [List.append_nil]
  | cons d ys =>
    have hys : ∀ c ∈ ys, ¬ style.marks c := by
      intro c hc
      have hd := h c (List.mem_cons_of_mem d hc)
      simp [Style.marks, hd.2.2.2, hplain]
    rw [namesIn_append hplain (h d List.mem_cons_self), ← List.append_nil ys,
      namesIn_append_plain hys, namesIn_nil, List.append_nil]

theorem namesIn_trim (cs : List Char) : namesIn style (Text.trim cs) = namesIn style cs := by
  have hend : ∀ xs : List Char, namesIn style (Text.trimEnd xs) = namesIn style xs := by
    intro xs
    have hcut : Text.trimEnd xs ++ (xs.reverse.takeWhile Text.isBlank).reverse = xs := by
      rw [Text.trimEnd, ← List.reverse_append, List.takeWhile_append_dropWhile,
        List.reverse_reverse]
    rw [← namesIn_append_boundaries hplain (Text.trimEnd xs) fun c hc =>
      isBoundary_of_isBlank (List.mem_takeWhile_imp (List.mem_reverse.1 hc)), hcut]
  rw [Text.trim, hend, Text.trimStart]
  exact namesIn_dropWhile fun _ => not_marks_of_isBlank

/-- Cutting a text where no reference goes over does not change the names found. -/
theorem namesIn_splitOn {sep : Char} (hsep : IsBoundary sep) (cs : List Char) :
    (Text.splitOn sep cs).flatMap (namesIn style) = namesIn style cs := by
  induction cs with
  | nil => simp [Text.splitOn, namesIn_nil]
  | cons c rest ih =>
    have hplainOf : ∀ d, d ≠ '$' → ¬ style.marks d := by
      intro d hd
      simp [Style.marks, hd, hplain]
    unfold Text.splitOn
    split
    · next hc =>
      rw [List.flatMap_cons, namesIn_nil, ih, hc, namesIn_plain (hplainOf sep hsep.2.2.2)]
      rfl
    · split
      · next hrest => exact absurd hrest (splitOn_ne_nil sep rest)
      · next part parts hrest =>
        rw [hrest, List.flatMap_cons] at ih
        rw [List.flatMap_cons]
        by_cases hc : c = '$'
        · -- the reference of this dollar sign ends before the cut
          have hname : (afterDollar style part).name? = (afterDollar style rest).name? := by
            rcases splitOn_eq_cons hrest with rfl | ⟨more, rfl⟩
            · rfl
            · exact (name?_afterDollar_append hsep part more).symm
          rw [hc, namesIn_dollar, namesIn_dollar, hname, List.append_assoc, ih]
        · rw [namesIn_plain (hplainOf c hc), namesIn_plain (hplainOf c hc), ih]

end

end SynthTable.Reference
