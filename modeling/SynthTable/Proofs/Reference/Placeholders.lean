import SynthTable.Proofs.Reference.Names
import SynthTable.Proofs.Text.Utf8
import SynthTable.Text.ByteOffset

/-!
# Placeholders and their places

A placeholder is a name in braces after a dollar sign. The scan of a template cuts the text step by
step (`Cut`): a placeholder as a whole, or a character at which no placeholder begins with what
belongs to it. By induction on these steps the scan finds all placeholders of a text and nothing
else (`mem_placeholders_iff`), and it finds them from left to right without overlap
(`pairwise_locate`).
-/

namespace SynthTable.Reference

/-- The placeholder of a name. -/
def braced (name : List Char) : List Char := '$' :: '{' :: (name ++ ['}'])

/-- A placeholder stands at the start of the text. -/
def Opens (cs : List Char) : Prop := ∃ name rest, IsName name ∧ cs = braced name ++ rest

/-- A placeholder of the text, with its name and the bytes that it takes. -/
def StandsIn (cs : List Char) (r : Reference) : Prop :=
  ∃ before name after, IsName name ∧ cs = before ++ (braced name ++ after) ∧
    r = ⟨widthOf before, widthOf (before ++ braced name), String.ofList name⟩

/-- A text cut into placeholders and plain text, where no placeholder begins in plain text. -/
inductive Cut : List Char → List Segment → Prop
  | nil : Cut [] []
  | plain {c : Char} {more rest : List Char} {parts : List Segment}
    (hfirst : ¬ Opens (c :: (more ++ rest))) (hmore : '$' ∉ more) (hrest : Cut rest parts) :
    Cut (c :: (more ++ rest)) (.plain (c :: more) :: parts)
  | placeholder {name rest : List Char} {parts : List Segment} (hname : IsName name)
    (hrest : Cut rest parts) : Cut (braced name ++ rest) (.reference (braced name) name :: parts)

variable {name other before after cs rest : List Char} {parts : List Segment} {r : Reference}

/-! ## Placeholders -/

theorem braced_append (name rest : List Char) :
    braced name ++ rest = '$' :: '{' :: (name ++ '}' :: rest) := by
  simp [braced]

theorem dollar_notMem_name (h : IsName name) : '$' ∉ name := by
  intro hdollar
  exact absurd (h.2 '$' hdollar) (by decide +kernel)

/-- A text begins with at most one placeholder. -/
theorem braced_append_inj (hname : IsName name) (hother : IsName other)
    (h : braced name ++ rest = braced other ++ after) : name = other ∧ rest = after := by
  rw [braced_append, braced_append] at h
  have hread := congrArg (afterDollar templateStyle) (List.cons.inj h).2
  rw [afterDollar_braces hname, afterDollar_braces hother] at hread
  injection hread with hname? _ hrest
  exact ⟨Option.some.inj hname?, hrest⟩

theorem name?_eq_some_iff_opens :
    (∃ name, (afterDollar templateStyle cs).name? = some name) ↔ Opens ('$' :: cs) := by
  simp only [name?_afterDollar_eq_some_iff, Opens, braced_append]
  constructor
  · rintro ⟨name, hname, ⟨rest, rfl⟩ | ⟨hbare, -⟩⟩
    · exact ⟨name, rest, hname, rfl⟩
    · exact absurd hbare Bool.false_ne_true
  · rintro ⟨name, rest, hname, hcs⟩
    exact ⟨name, hname, .inl ⟨rest, (List.cons.inj hcs).2⟩⟩

/-- What has no dollar sign stands before the placeholder that follows. -/
theorem exists_of_append_eq {plain : List Char} (hplain : '$' ∉ plain)
    (h : plain ++ rest = before ++ (braced name ++ after)) :
    ∃ middle, before = plain ++ middle ∧ rest = middle ++ (braced name ++ after) := by
  rcases List.append_eq_append_iff.1 h with ⟨middle, hbefore, hrest⟩ | ⟨middle, hbefore, hrest⟩
  · exact ⟨middle, hbefore, hrest⟩
  · cases middle with
    | nil => exact ⟨[], by simpa using hbefore.symm, by simpa using hrest.symm⟩
    | cons c middle =>
      obtain ⟨rfl, -⟩ := List.cons.inj hrest
      exact absurd (by simp [hbefore]) hplain

/-! ## The scan of a template -/

/-- The scan of a template cuts the text at its placeholders. -/
theorem cut_segments (cs : List Char) : Cut cs (segments templateStyle cs) := by
  fun_induction segments templateStyle cs with
  | case1 => exact .nil
  | case2 c rest hquote => simp [templateStyle] at hquote
  | case3 rest _ later name hread _ ih =>
    obtain ⟨hname, ⟨after, rfl⟩ | ⟨hbare, -⟩⟩ := name?_afterDollar_eq_some_iff.1 hread
    · simp only [later, afterDollar_braces hname] at ih ⊢
      rw [← braced_append]
      exact .placeholder hname ih
    · exact absurd hbare Bool.false_ne_true
  | case4 rest _ _ hread _ ih =>
    obtain ⟨htaken, hplain⟩ := taken_afterDollar templateStyle rest
    have hopens : ¬ Opens ('$' :: rest) := by
      rw [← name?_eq_some_iff_opens, hread]
      simp
    have hmore : '$' ∉ (afterDollar templateStyle rest).taken := by
      intro hdollar
      rcases hplain _ hdollar with hchar | hbrace
      · exact absurd hchar (by decide +kernel)
      · simp at hbrace
    conv => arg 1; rw [← htaken]
    exact .plain (by rwa [htaken]) hmore ih
  | case5 c rest _ hdollar ih =>
    have hopens : ¬ Opens (c :: ([] ++ rest)) := by
      rintro ⟨name, after, -, hcs⟩
      rw [braced_append] at hcs
      exact hdollar (List.cons.inj hcs).1
    exact .plain hopens List.not_mem_nil ih

theorem Cut.text (h : Cut cs parts) : parts.flatMap Segment.text = cs := by
  induction h with
  | nil => rfl
  | plain hfirst hmore hrest ih =>
    rw [List.flatMap_cons, ih]
    rfl
  | placeholder hname hrest ih =>
    rw [List.flatMap_cons, ih]
    rfl

/-- What is cut out as a reference is a placeholder. -/
theorem Cut.eq_braced (h : Cut cs parts) {text : List Char}
    (hmem : .reference text name ∈ parts) : IsName name ∧ text = braced name := by
  induction h with
  | nil => cases hmem
  | plain hfirst hmore hrest ih =>
    rcases List.mem_cons.1 hmem with heq | hmem
    · cases heq
    · exact ih hmem
  | placeholder hname hrest ih =>
    rcases List.mem_cons.1 hmem with heq | hmem
    · cases heq
      exact ⟨hname, rfl⟩
    · exact ih hmem

/-- Every placeholder of the text is cut out. -/
theorem Cut.exists_parts (h : Cut cs parts) (hname : IsName name)
    (hcs : cs = before ++ (braced name ++ after)) : ∃ front back,
      parts = front ++ .reference (braced name) name :: back ∧
        front.flatMap Segment.text = before := by
  induction h generalizing before with
  | nil => simp [braced] at hcs
  | @plain c more rest parts hfirst hmore hrest ih =>
    cases before with
    | nil => exact absurd ⟨name, after, hname, hcs⟩ hfirst
    | cons d before =>
      obtain ⟨rfl, htail⟩ := List.cons.inj hcs
      obtain ⟨middle, rfl, hmiddle⟩ := exists_of_append_eq hmore htail
      obtain ⟨front, back, rfl, rfl⟩ := ih hmiddle
      exact ⟨.plain (c :: more) :: front, back, rfl, rfl⟩
  | @placeholder first rest parts hfirst hrest ih =>
    cases before with
    | nil =>
      obtain ⟨rfl, -⟩ := braced_append_inj hfirst hname hcs
      exact ⟨[], parts, rfl, rfl⟩
    | cons d before =>
      obtain ⟨rfl, htail⟩ := List.cons.inj hcs
      have hplain : '$' ∉ '{' :: (first ++ ['}']) := by
        simp [dollar_notMem_name hfirst]
      obtain ⟨middle, rfl, hmiddle⟩ := exists_of_append_eq hplain htail
      obtain ⟨front, back, rfl, rfl⟩ := ih hmiddle
      exact ⟨.reference (braced first) first :: front, back, rfl, rfl⟩

/-! ## Places -/

theorem widthOf_append (xs ys : List Char) : widthOf (xs ++ ys) = widthOf xs + widthOf ys := by
  simp [widthOf, Text.encodeUtf8]

theorem widthOf_eq (cs : List Char) : widthOf cs = Text.byteLength cs := by
  induction cs with
  | nil => rfl
  | cons c rest ih =>
    rw [← List.singleton_append, widthOf_append, ih, Text.byteLength_append, widthOf,
      Text.encodeUtf8, List.flatMap_singleton, Text.length_utf8Bytes]
    rfl

theorem widthOf_pos (h : cs ≠ []) : 0 < widthOf cs := by
  obtain ⟨c, rest, rfl⟩ := List.exists_cons_of_ne_nil h
  rw [widthOf_eq, Text.byteLength]
  exact Nat.add_pos_left c.utf8Size_pos _

theorem mem_locate_cons {position : Nat} {part : Segment} :
    r ∈ locate position (part :: parts) ↔
      (∃ name, part = .reference part.text name ∧
        r = ⟨position, position + widthOf part.text, String.ofList name⟩) ∨
      r ∈ locate (position + widthOf part.text) parts := by
  cases part with
  | plain text => simp [locate, Segment.text]
  | reference text name => simp [locate, Segment.text]

/-- Each segment that is a reference is located at the bytes after those of the segments before. -/
theorem mem_locate_iff {position : Nat} : r ∈ locate position parts ↔
    ∃ front text name back, parts = front ++ .reference text name :: back ∧
      r = ⟨position + widthOf (front.flatMap Segment.text),
        position + widthOf (front.flatMap Segment.text ++ text), String.ofList name⟩ := by
  induction parts generalizing position with
  | nil => simp [locate]
  | cons part parts ih =>
    have hshift (xs : List Char) : position + widthOf (part.text ++ xs) =
        position + widthOf part.text + widthOf xs := by
      rw [widthOf_append, Nat.add_assoc]
    rw [mem_locate_cons, ih]
    constructor
    · rintro (⟨name, hpart, rfl⟩ | ⟨front, text, name, back, rfl, rfl⟩)
      · exact ⟨[], part.text, name, parts, by rw [← hpart]; rfl, rfl⟩
      · refine ⟨part :: front, text, name, back, rfl, ?_⟩
        rw [List.flatMap_cons, List.append_assoc, hshift, hshift]
    · rintro ⟨front, text, name, back, hparts, rfl⟩
      cases front with
      | nil =>
        obtain ⟨rfl, rfl⟩ := List.cons.inj hparts
        exact .inl ⟨name, rfl, rfl⟩
      | cons first front =>
        obtain ⟨rfl, rfl⟩ := List.cons.inj hparts
        refine .inr ⟨front, text, name, back, rfl, ?_⟩
        rw [List.flatMap_cons, List.append_assoc, hshift, hshift]

/-- The references found are the placeholders of the text. -/
theorem mem_placeholders_iff {text : String} : r ∈ placeholders text ↔ StandsIn text.toList r := by
  have hcut := cut_segments text.toList
  rw [placeholders, scan, mem_locate_iff]
  simp only [Nat.zero_add]
  constructor
  · rintro ⟨front, written, name, back, hparts, rfl⟩
    obtain ⟨hname, rfl⟩ := hcut.eq_braced (hparts ▸ List.mem_append_right _ List.mem_cons_self)
    refine ⟨front.flatMap Segment.text, name, back.flatMap Segment.text, hname, ?_, rfl⟩
    rw [← hcut.text, hparts, List.flatMap_append, List.flatMap_cons]
    rfl
  · rintro ⟨before, name, after, hname, hcs, rfl⟩
    obtain ⟨front, back, hparts, rfl⟩ := hcut.exists_parts hname hcs
    exact ⟨front, braced name, name, back, hparts, rfl⟩

theorem le_of_mem_locate {position : Nat} (h : r ∈ locate position parts) :
    position ≤ r.start ∧ r.start ≤ r.stop := by
  obtain ⟨front, text, name, back, -, rfl⟩ := mem_locate_iff.1 h
  simp only [widthOf_append]
  omega

/-- References are located one after another. -/
theorem pairwise_locate (position : Nat) (parts : List Segment) :
    (locate position parts).Pairwise fun r later => r.stop ≤ later.start := by
  induction parts generalizing position with
  | nil => exact .nil
  | cons part parts ih =>
    cases part with
    | plain text => exact ih _
    | reference text name =>
      refine List.pairwise_cons.2 ⟨fun later hlater => ?_, ih _⟩
      exact (le_of_mem_locate hlater).1

theorem StandsIn.start_lt_stop (h : StandsIn cs r) : r.start < r.stop := by
  obtain ⟨before, name, after, -, -, rfl⟩ := h
  have hpositive : 0 < widthOf (braced name) := widthOf_pos (List.cons_ne_nil _ _)
  simp only [widthOf_append]
  omega

end SynthTable.Reference
