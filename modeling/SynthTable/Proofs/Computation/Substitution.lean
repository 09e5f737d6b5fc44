import SynthTable.Computation.Basic
import SynthTable.Proofs.Reference.Placeholders

/-!
# Templates substitute at once

A template puts values in the place of its placeholders. What that means is said in two ways that do
not mention the scan. `Substitutes` passes over the text from left to right: a placeholder gives the
text of its value, any other character gives itself, and nothing that was put in is read again.
`slices?` cuts the text at given bytes, and fails where these are not between two characters.

The main result (`render_substitutes`) says that a template does what `Substitutes` says, that the
references found are the placeholders of the text, one after another, and that to cut the text at
their places never fails and gives the same template.
-/

namespace SynthTable.Template

open Reference

/-- What stands in the place of a placeholder: the text of the value of its name, or the placeholder
itself if the row has no value. -/
def filling (row : Row) (name : List Char) : List Char :=
  match row.get? (String.ofList name) with
  | some v => v.toText.toList
  | none => braced name

/-- A text and what it becomes when its placeholders are replaced. -/
inductive Substitutes (row : Row) : List Char → List Char → Prop
  | done : Substitutes row [] []
  | fills {name rest out : List Char} (hname : IsName name) (hrest : Substitutes row rest out) :
    Substitutes row (braced name ++ rest) (filling row name ++ out)
  | keeps {c : Char} {rest out : List Char} (h : ¬ Opens (c :: rest))
    (hrest : Substitutes row rest out) : Substitutes row (c :: rest) (c :: out)

/-- The plain text between two bytes, if there is any. -/
def plainBetween? (start stop : Nat) (cs : List Char) : Option (List Segment) :=
  if start < stop then (Text.sliceBytes? start stop cs).map fun text => [.plain text] else some []

/-- The text from the byte `cursor` on, cut at the places of references. -/
def slices? (cs : List Char) (cursor : Nat) : List Reference → Option (List Segment)
  | [] => plainBetween? cursor (widthOf cs) cs
  | r :: later => do
    let plain ← plainBetween? cursor r.start cs
    let text ← Text.sliceBytes? r.start r.stop cs
    let parts ← slices? cs r.stop later
    some (plain ++ .reference text r.name.toList :: parts)

variable {row : Row} {cs out : List Char} {parts : List Segment}

/-! ## Substitution -/

theorem segmentText_braced (row : Row) (name : List Char) :
    segmentText row (.reference (braced name) name) = filling row name := by
  cases hvalue : row.get? (String.ofList name) <;> simp only [segmentText, filling, hvalue]

/-- Characters other than the dollar sign are kept. -/
theorem Substitutes.append_plain {plain : List Char} (hplain : '$' ∉ plain)
    (h : Substitutes row cs out) : Substitutes row (plain ++ cs) (plain ++ out) := by
  induction plain with
  | nil => exact h
  | cons c plain ih =>
    obtain ⟨hc, hplain⟩ := not_or.1 (List.mem_cons.not.1 hplain)
    refine .keeps ?_ (ih hplain)
    rintro ⟨name, rest, -, hcs⟩
    rw [braced_append] at hcs
    exact hc (List.cons.inj hcs).1.symm

/-- To fill in the segments of a text that is cut at its placeholders is to replace these. -/
theorem Substitutes.of_cut (row : Row) (h : Cut cs parts) :
    Substitutes row cs (parts.flatMap (segmentText row)) := by
  induction h with
  | nil => exact .done
  | plain hfirst hmore hrest ih => exact .keeps hfirst (ih.append_plain hmore)
  | placeholder hname hrest ih =>
    rw [List.flatMap_cons, segmentText_braced]
    exact .fills hname ih

/-- A text becomes one text only. -/
theorem Substitutes.unique {other : List Char} (h : Substitutes row cs out)
    (hother : Substitutes row cs other) : out = other := by
  induction h generalizing other with
  | done => cases hother; rfl
  | @fills name rest out hname hrest ih =>
    generalize hcs : braced name ++ rest = cs at hother
    cases hother with
    | done => simp [braced] at hcs
    | fills hname' hrest' =>
      obtain ⟨rfl, rfl⟩ := braced_append_inj hname hname' hcs
      rw [ih hrest']
    | keeps hopens => exact absurd ⟨name, rest, hname, hcs.symm⟩ hopens
  | @keeps c rest out hopens hrest ih =>
    generalize hcs : c :: rest = cs at hother
    cases hother with
    | done => cases hcs
    | @fills name rest' _ hname => exact absurd ⟨name, rest', hname, hcs⟩ hopens
    | keeps _ hrest' =>
      obtain ⟨rfl, rfl⟩ := List.cons.inj hcs
      rw [ih hrest']

theorem substitutes_iff (source : String) (row : Row) (out : List Char) :
    Substitutes row source.toList out ↔ out = ((ofText source).render row).toList := by
  have hrender : Substitutes row source.toList ((ofText source).render row).toList := by
    rw [render, ofText, String.toList_ofList]
    exact .of_cut row (cut_segments source.toList)
  constructor
  · intro h
    exact h.unique hrender
  · rintro rfl
    exact hrender

/-! ## Slices -/

/-- Between two places of a text that are no places inside a character stands the text between
them. -/
theorem sliceBytes?_widthOf (before middle after : List Char) :
    Text.sliceBytes? (widthOf before) (widthOf (before ++ middle)) (before ++ middle ++ after) =
      some middle := by
  rw [widthOf_eq, widthOf_eq]
  exact Text.sliceBytes?_byteLength before middle after

theorem exists_plainBetween? (before plain after : List Char) : ∃ parts,
    plainBetween? (widthOf before) (widthOf (before ++ plain)) (before ++ plain ++ after) =
        some parts ∧ ∀ row, parts.flatMap (segmentText row) = plain := by
  rw [plainBetween?, sliceBytes?_widthOf]
  split
  · exact ⟨[.plain plain], rfl, fun row => List.flatMap_singleton ..⟩
  · next hempty =>
    rw [widthOf_append] at hempty
    have hplain : plain = [] := by
      by_contra hne
      have hpositive := widthOf_pos hne
      omega
    exact ⟨[], rfl, fun row => hplain.symm⟩

/-- Of segments whose text follows some plain text, to cut at their places gives segments that are
filled in alike. The plain text is what was passed by since the last reference. -/
theorem exists_slices? (parts : List Segment) (before plain : List Char) : ∃ slices,
    slices? (before ++ plain ++ parts.flatMap Segment.text) (widthOf before)
        (locate (widthOf (before ++ plain)) parts) = some slices ∧
      ∀ row, slices.flatMap (segmentText row) = plain ++ parts.flatMap (segmentText row) := by
  induction parts generalizing before plain with
  | nil =>
    obtain ⟨slices, hslices, htext⟩ := exists_plainBetween? before plain []
    refine ⟨slices, ?_, fun row => by rw [htext row]; simp⟩
    simpa [slices?, locate] using hslices
  | cons part parts ih =>
    cases part with
    | plain text =>
      obtain ⟨slices, hslices, htext⟩ := ih before (plain ++ text)
      refine ⟨slices, ?_, fun row => by rw [htext row]; simp [segmentText]⟩
      simpa [locate, Segment.text, widthOf_append, Nat.add_assoc] using hslices
    | reference text name =>
      obtain ⟨first, hfirst, hplain⟩ :=
        exists_plainBetween? before plain (text ++ parts.flatMap Segment.text)
      have htext := sliceBytes?_widthOf (before ++ plain) text (parts.flatMap Segment.text)
      obtain ⟨slices, hslices, hlater⟩ := ih (before ++ plain ++ text) []
      refine ⟨first ++ .reference text name :: slices, ?_, fun row => ?_⟩
      · rw [List.append_nil, widthOf_append (before ++ plain)] at hslices
        rw [widthOf_append (before ++ plain)] at htext
        have hall : before ++ plain ++ List.flatMap Segment.text (.reference text name :: parts) =
            before ++ plain ++ text ++ parts.flatMap Segment.text := by
          simp [Segment.text]
        rw [← List.append_assoc] at hfirst
        rw [hall, locate, slices?, hfirst, htext, hslices]
        simp
      · rw [List.flatMap_append, List.flatMap_cons, hplain row, hlater row]
        rfl

/-- A template replaces its placeholders at once: what it gives for a row is what the text becomes
when each placeholder with a value is replaced by the text of the value and all else is kept. The
references found are the placeholders of the text, from left to right and without overlap. Their
places are not inside characters, so that the text can be cut there, which gives a template of the
same texts. -/
theorem render_substitutes (source : String) :
    (∀ row out, Substitutes row source.toList out ↔
      out = ((ofText source).render row).toList) ∧
    (∀ r, r ∈ placeholders source ↔ StandsIn source.toList r) ∧
    ((placeholders source).Pairwise fun r later => r.start < r.stop ∧ r.stop ≤ later.start) ∧
    ∃ slices, slices? source.toList 0 (placeholders source) = some slices ∧
      ∀ row, (Template.mk slices).render row = (ofText source).render row := by
  refine ⟨substitutes_iff source, fun r => mem_placeholders_iff, ?_, ?_⟩
  · refine (pairwise_locate 0 _).imp_of_mem fun hr _ hapart => ⟨?_, hapart⟩
    exact (mem_placeholders_iff.1 hr).start_lt_stop
  · obtain ⟨slices, hslices, htext⟩ := exists_slices?
      (Reference.segments templateStyle source.toList) [] []
    rw [(cut_segments source.toList).text] at hslices
    refine ⟨slices, hslices, fun row => ?_⟩
    rw [render, render, htext row]
    rfl

end SynthTable.Template
