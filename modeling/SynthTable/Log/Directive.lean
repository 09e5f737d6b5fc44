import SynthTable.Log.ValuePattern
import SynthTable.Number.Decimal
import SynthTable.Text.ByteOffset
import SynthTable.Text.Case
import SynthTable.Text.Order
import SynthTable.Text.Split

/-!
# Log directives

A directive says up to which level something is logged: all parts of the program, the parts whose
names begin in some way, what happens inside spans of some name, or what has a field. Its parts are
found in the text without the blanks around it and cut at the same places out of the text with
them, so blanks at the start shift what is cut.
-/

namespace SynthTable

/-- A condition on a field: it is there, and it may have to fit a number or a pattern. -/
structure FieldCondition where
  name : String
  value? : Option String
  deriving DecidableEq, Repr

/-- A level for what happens in some parts of the program. -/
structure LogDirective where
  /-- The beginning of the names of the parts; all parts if there is none. -/
  target? : Option String
  /-- The name of the spans; with one, the directive is about events inside such spans. -/
  span? : Option String
  field? : Option FieldCondition
  /-- The greatest rank of a level that is logged. -/
  rank : Nat
  deriving DecidableEq, Repr

/-- Why a text is no directive. -/
inductive DirectiveFault where
  | malformed
  /-- A part would begin or end inside a character. -/
  | insideCharacter
  deriving DecidableEq, Repr

namespace FieldCondition

/-- Whether a field may have to fit a value. The words for truth values are patterns, too. -/
def admitsValue (cs : List Char) : Bool :=
  (Numeral.double? cs).isSome || ValuePattern.isPattern cs

/-- The condition of a text: a name, and a value after an equals sign. -/
def ofChars? (cs : List Char) : Option FieldCondition :=
  match Text.splitOn '=' cs with
  | name :: value :: _ =>
    if admitsValue value then some ⟨String.ofList name, some (String.ofList value)⟩ else none
  | _ => if cs.isEmpty then none else some ⟨String.ofList cs, none⟩

end FieldCondition

namespace LogDirective

/-- The rank up to which everything is logged. -/
def allRanks : Nat := 5

/-- The directive that logs everything up to a rank. -/
def upTo (rank : Nat) : LogDirective := ⟨none, none, none, rank⟩

/-- The rank that a word or a number stands for. -/
def rank? (word : List Char) : Option Nat :=
  match (Numeral.uint64? word).filter (· ≤ 5) with
  | some n => some n.toNat
  | none =>
    (["off", "error", "warn", "info", "debug", "trace"].findIdx? fun name =>
      Text.equalIgnoringAsciiCase name.toList word)

/-- Whether a name of parts may begin with a character. -/
def startsName (c : Char) : Bool :=
  c == '-' || c == ':' || c == '_' || Text.isAlphabetic c || Text.isNumeric c

/-- The part of a text between two places. -/
def part (text : List Char) (start stop : Nat) : Except DirectiveFault (List Char) :=
  match Text.sliceBytes? start stop text with
  | some cs => .ok cs
  | none => .error .insideCharacter

/-- The rank from a place on; all ranks if nothing stands there. -/
def rankFrom (text : List Char) (place : Nat) : Except DirectiveFault Nat :=
  match Text.dropBytes? place text with
  | none => .error .insideCharacter
  | some [] => .ok allRanks
  | some word =>
    match rank? word with
    | some rank => .ok rank
    | none => .error .malformed

/-- The directive with the rank that follows its brackets, where `rest` begins at a place. -/
def withRank (d : LogDirective) (text : List Char) (place : Nat) (rest : List Char) :
    Except DirectiveFault LogDirective :=
  match rest with
  | [] => .ok d
  | '=' :: _ => do return { d with rank := ← rankFrom text (place + 1) }
  | _ => .error .malformed

/-- The directive with the field after an opening brace, where `cs` begins at a place. -/
def withField (d : LogDirective) (text : List Char) (place : Nat) (cs : List Char) :
    Except DirectiveFault LogDirective :=
  let stop := place + Text.byteLength (cs.takeWhile (· != '}'))
  match cs.dropWhile (· != '}') with
  | [] => .error .malformed
  | _ :: rest => do
    match FieldCondition.ofChars? (← part text place stop), rest with
    | some field, ']' :: rest => withRank { d with field? := some field } text (stop + 2) rest
    | _, _ => .error .malformed

/-- The directive with the span and the field after an opening bracket, where `cs` begins at a
place. Before a field the name of the span may be left out. -/
def withSpan (d : LogDirective) (text : List Char) (place : Nat) (cs : List Char) :
    Except DirectiveFault LogDirective :=
  let goesOn (c : Char) : Bool := c != ']' && c != '{'
  let stop := place + Text.byteLength (cs.takeWhile goesOn)
  match cs.dropWhile goesOn with
  | [] => .error .malformed
  | ']' :: rest => do
    let name ← part text place stop
    withRank { d with span? := some (String.ofList name) } text (stop + 1) rest
  | _ :: rest => do
    let name ← part text place stop
    let span? := if name.isEmpty then none else some (String.ofList name)
    withField { d with span? := span? } text (stop + 1) rest

/-- The directive of a text that is a level or a name of parts. -/
def ofWord (text : List Char) : LogDirective :=
  match rank? text with
  | some rank => upTo rank
  | none => { upTo allRanks with target? := some (String.ofList text) }

/-- The directive of a text. -/
def ofChars (text : List Char) : Except DirectiveFault LogDirective :=
  let goesOn (c : Char) : Bool := c != '=' && c != '['
  match Text.trim text with
  | [] => .error .malformed
  | '[' :: rest => withSpan (upTo allRanks) text 1 rest
  | c :: rest =>
    if startsName c then
      let stop := Text.byteLength ((c :: rest).takeWhile goesOn)
      match (c :: rest).dropWhile goesOn with
      | [] => .ok (ofWord text)
      | mark :: rest => do
        let d := { upTo allRanks with target? := some (String.ofList (← part text 0 stop)) }
        if mark = '=' then return { d with rank := ← rankFrom text (stop + 1) }
        else withSpan d text (stop + 1) rest
    else .error .malformed

/-- Whether a directive is about events anywhere. One with a span or a value is about events inside
spans only, and there are no spans. -/
def isGeneral (d : LogDirective) : Bool :=
  d.span?.isNone && d.field?.all (·.value?.isNone)

/-- Whether a directive is about events with some fields in a part of a name. -/
def concerns (target : String) (fields : List String) (d : LogDirective) : Bool :=
  d.isGeneral && d.target?.all (fun name => name.toList.isPrefixOf target.toList) &&
    d.field?.all fun field => fields.contains field.name

/-- How narrow the names of the parts are: zero for all parts, else one more than the length. -/
def targetWidth (d : LogDirective) : Nat :=
  match d.target? with
  | none => 0
  | some name => name.utf8ByteSize + 1

/-- Orders directives by how narrow they are: a longer name of parts is narrower, then a field is,
then a later name of a field. -/
def compareNarrowness (a b : LogDirective) : Ordering :=
  (compare a.targetWidth b.targetWidth).then <|
    match a.field?, b.field? with
    | none, none => .eq
    | none, some _ => .lt
    | some _, none => .gt
    | some x, some y => Text.compareTexts x.name.toList y.name.toList

end LogDirective

end SynthTable
