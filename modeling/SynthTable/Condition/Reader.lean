import SynthTable.Condition.Basic
import SynthTable.Text.Name
import SynthTable.Text.Split

/-!
# Reading conditions

Comparisons are joined by `&` into groups and groups by `|`; the word `default` is the condition
that always holds. A comparison is a reference, an operator and the rest of the text: another
reference, or a literal with or without quotes around it.
-/

namespace SynthTable

/-- A part of a condition that is no comparison. -/
structure ConditionError where
  part : String
  deriving DecidableEq, Repr

/-- The text of an error. -/
def ConditionError.message (e : ConditionError) : String :=
  "cannot parse condition '" ++ e.part ++ "', expected '$column OP value'"

namespace Comparison

/-- The operator at the start of a text, the longest that fits, and the rest. The word `contains`
must end where it ends. -/
def readOperator? (cs : List Char) : Option (Comparator × List Char) :=
  match cs with
  | '>' :: '=' :: rest => some (.atLeast, rest)
  | '<' :: '=' :: rest => some (.atMost, rest)
  | '!' :: '=' :: rest => some (.notEqual, rest)
  | '=' :: '=' :: rest => some (.equal, rest)
  | '=' :: rest => some (.equal, rest)
  | '!' :: rest => some (.notEqual, rest)
  | '>' :: rest => some (.greater, rest)
  | '<' :: rest => some (.less, rest)
  | _ =>
    match Text.dropLead? ['c', 'o', 'n', 't', 'a', 'i', 'n', 's'] cs with
    | some rest => if rest.head?.any Text.isKnownWordChar then none else some (.contains, rest)
    | none => none

/-- The operator and the operand after a name. The operand is on one line. -/
def readTail? (cs : List Char) : Option (Comparator × List Char) :=
  let cs :=
    match cs with
    | '}' :: rest => rest
    | cs => cs
  match readOperator? (Text.trimStart cs) with
  | some (op, rest) =>
    let operand := Text.trimStart rest
    if operand.contains '\n' then none else some (op, operand)
  | none => none

/-- A name of the first `count` characters of `run`, or of fewer if no operator follows there. -/
def readNamed? (run after : List Char) : (count : Nat) → Option (List Char × Comparator × List Char)
  | 0 => none
  | count + 1 =>
    match readTail? (run.drop (count + 1) ++ after) with
    | some (op, operand) => some (run.take (count + 1), op, operand)
    | none => readNamed? run after count

/-- The text between quotes of one kind, if there are any. -/
def unquote (cs : List Char) : List Char :=
  match Text.between? '\'' '\'' cs with
  | some inner => inner
  | none => (Text.between? '"' '"' cs).getD cs

/-- The operand of a text. -/
def operandOf (cs : List Char) : Operand :=
  match cs with
  | '$' :: name => .column (String.ofList ((Text.between? '{' '}' name).getD name))
  | cs => .literal (String.ofList (unquote cs))

/-- The comparison of a text without blanks around it. -/
def ofChars? (cs : List Char) : Option Comparison := do
  let rest ← Text.dropLead? ['$'] cs
  let rest := (Text.dropLead? ['{'] rest).getD rest
  let run := rest.takeWhile Text.isKnownNameChar
  let (name, op, operand) ← readNamed? run (rest.dropWhile Text.isKnownNameChar) run.length
  some ⟨String.ofList name, op, operandOf (Text.trim operand)⟩

/-- The comparison of a part of a condition. -/
def ofPart (cs : List Char) : Except ConditionError Comparison :=
  let cs := Text.trim cs
  match ofChars? cs with
  | some c => .ok c
  | none => .error ⟨String.ofList cs⟩

end Comparison

namespace Condition

/-- The groups of a text. -/
def groupsOf (cs : List Char) : Except ConditionError (List (List Comparison)) :=
  (Text.splitOn '|' cs).mapM fun group => (Text.splitOn '&' group).mapM Comparison.ofPart

/-- The condition of a text. -/
def ofText (source : String) : Except ConditionError Condition :=
  let cs := Text.trim source.toList
  if Text.equalIgnoringAsciiCase cs ['d', 'e', 'f', 'a', 'u', 'l', 't'] then .ok .always
  else
    match groupsOf cs with
    | .ok groups => .ok (.anyOf groups)
    | .error e => .error e

end Condition

end SynthTable
