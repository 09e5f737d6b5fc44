import SynthTable.Text.Name
import SynthTable.Text.Utf8

/-!
# References in texts

A reference to a column is written `$name` or `${name}` inside another text. A text is cut into
references and the plain text between them; which forms count, and whether quoted parts are passed
over, depends on the kind of text. The segments of a text make up the text.
-/

namespace SynthTable

/-- A reference and the bytes of the text it takes, from `start` up to but not including `stop`. -/
structure Reference where
  start : Nat
  stop : Nat
  name : String
  deriving DecidableEq, Repr

namespace Reference

/-- What counts as a reference in a text. -/
structure Style where
  /-- A name may follow the dollar sign without braces. -/
  bare : Bool
  /-- Text between quotes is skipped. -/
  skipQuoted : Bool

/-- Number of bytes of a text. -/
def widthOf (cs : List Char) : Nat := (Text.encodeUtf8 cs).length

/-- The characters up to the closing quote and the text after it. A backslash takes the next
character with it; a quote that is never closed takes the whole text. -/
def quotedPart (quote : Char) : List Char → List Char × List Char
  | [] => ([], [])
  | ['\\'] => (['\\'], [])
  | '\\' :: c :: rest =>
    let (part, rest) := quotedPart quote rest
    ('\\' :: c :: part, rest)
  | c :: rest =>
    if c = quote then ([c], rest)
    else
      let (part, rest) := quotedPart quote rest
      (c :: part, rest)

theorem length_quotedPart_le (quote : Char) (cs : List Char) :
    (quotedPart quote cs).2.length ≤ cs.length := by
  fun_induction quotedPart quote cs <;> simp_all <;> omega

/-- What stands after a dollar sign: the name referred to, if there is a reference, the characters
that belong to it or to the attempt at one, and the text after them. -/
structure Attempt where
  name? : Option (List Char)
  taken : List Char
  rest : List Char

/-- Reads after a dollar sign. -/
def afterDollar (style : Style) : List Char → Attempt
  | '{' :: inner =>
    let name := inner.takeWhile Text.isNameChar
    let after := inner.dropWhile Text.isNameChar
    match name, after with
    | [], _ => ⟨none, ['{'], after⟩
    | _, '}' :: rest => ⟨some name, '{' :: name ++ ['}'], rest⟩
    | _, _ => ⟨none, '{' :: name, after⟩
  | cs =>
    if style.bare then
      match cs.takeWhile Text.isNameChar with
      | [] => ⟨none, [], cs⟩
      | name => ⟨some name, name, cs.dropWhile Text.isNameChar⟩
    else ⟨none, [], cs⟩

theorem length_dropWhile_le (p : Char → Bool) (cs : List Char) :
    (cs.dropWhile p).length ≤ cs.length :=
  (List.dropWhile_sublist p).length_le

theorem length_afterDollar_le (style : Style) (cs : List Char) :
    (afterDollar style cs).rest.length ≤ cs.length := by
  unfold afterDollar
  split
  · next inner =>
    have h := length_dropWhile_le Text.isNameChar inner
    dsimp only
    split <;> simp_all <;> omega
  · have h := length_dropWhile_le Text.isNameChar cs
    split
    · split <;> simp_all
    · simp

/-- A part of a text. -/
inductive Segment where
  /-- Text that is no reference. -/
  | plain (text : List Char)
  /-- A reference to `name`, as it is written. -/
  | reference (text name : List Char)
  deriving DecidableEq

/-- A segment as it is written. -/
def Segment.text : Segment → List Char
  | .plain text => text
  | .reference text _ => text

/-- The segments of a text. -/
def segments (style : Style) : List Char → List Segment
  | [] => []
  | c :: rest =>
    if style.skipQuoted && (c == '\'' || c == '"') then
      have := length_quotedPart_le c rest
      .plain (c :: (quotedPart c rest).1) :: segments style (quotedPart c rest).2
    else if c = '$' then
      have := length_afterDollar_le style rest
      let later := segments style (afterDollar style rest).rest
      match (afterDollar style rest).name? with
      | some name => .reference (c :: (afterDollar style rest).taken) name :: later
      | none => .plain (c :: (afterDollar style rest).taken) :: later
    else .plain [c] :: segments style rest
termination_by cs => cs.length
decreasing_by all_goals (simp only [List.length_cons]; omega)

/-- The references of segments of which the first begins at the byte `position`. -/
def locate (position : Nat) : List Segment → List Reference
  | [] => []
  | .plain text :: rest => locate (position + widthOf text) rest
  | .reference text name :: rest =>
    let stop := position + widthOf text
    ⟨position, stop, String.ofList name⟩ :: locate stop rest

/-- The style of templates: references in braces only. -/
def templateStyle : Style := ⟨false, false⟩

/-- The style of conditions: references with and without braces. -/
def conditionStyle : Style := ⟨true, false⟩

/-- The style of formulas: references with and without braces outside quoted text. -/
def formulaStyle : Style := ⟨true, true⟩

/-- The references of a text. -/
def scan (style : Style) (text : String) : List Reference :=
  locate 0 (segments style text.toList)

/-- The references of a template. -/
def placeholders (text : String) : List Reference := scan templateStyle text

/-- The references of a condition. -/
def conditionVariables (text : String) : List Reference := scan conditionStyle text

/-- The references of a formula. -/
def formulaVariables (text : String) : List Reference := scan formulaStyle text

end Reference

end SynthTable
