import SynthTable.Order.Sorted
import SynthTable.Reference.Link
import SynthTable.Reference.Scan
import SynthTable.Number.Decimal

/-!
# Derivations

A derivation computes a column from earlier columns of the same row: by conditions tried in order,
by a formula, by a template, or by a link to an attribute of a value. Conditions lead to literals or
to further derivations.
-/

namespace SynthTable

mutual

/-- A rule that computes a value. -/
inductive Derivation where
  /-- Conditions tried in order, and what applies if none holds. -/
  | conditional (rules : List ConditionalRule) (default? : Option ConditionalValue)
  /-- An expression over columns. -/
  | formula (source : String)
  /-- A text with columns filled in. -/
  | injection (source : String)
  /-- An attribute of the value of a column. -/
  | link (source : String)

/-- A condition and the value that applies if it holds. -/
inductive ConditionalRule where
  | mk (when : String) (value : ConditionalValue)

/-- A literal or a further derivation. -/
inductive ConditionalValue where
  | text (s : String)
  | integer (n : Int64)
  | float (x : Double)
  | bool (b : Bool)
  | derived (d : Derivation)

end

/-- The condition of a rule. -/
def ConditionalRule.when : ConditionalRule → String
  | .mk w _ => w

/-- The value of a rule. -/
def ConditionalRule.value : ConditionalRule → ConditionalValue
  | .mk _ v => v

/-- The names of the references of a list. -/
def Reference.names (found : List Reference) : List String := found.map (·.name)

mutual

/-- The column names that a derivation reads, in the order of the text; those of templates only if
`withTemplates`. -/
def Derivation.readNames (withTemplates : Bool) : Derivation → List String
  | .conditional rules default? =>
    ConditionalRule.readNamesOfList withTemplates rules ++
      ConditionalValue.readNamesOfOption withTemplates default?
  | .formula source => Reference.names (Reference.formulaVariables source)
  | .injection source =>
    if withTemplates then Reference.names (Reference.placeholders source) else []
  | .link source => ((LinkTarget.ofText? source).map (·.column)).toList

/-- The column names that rules read. -/
def ConditionalRule.readNamesOfList (withTemplates : Bool) : List ConditionalRule → List String
  | [] => []
  | .mk w v :: rest =>
    Reference.names (Reference.conditionVariables w) ++
      ConditionalValue.readNames withTemplates v ++
      ConditionalRule.readNamesOfList withTemplates rest

/-- The column names that a value reads. -/
def ConditionalValue.readNames (withTemplates : Bool) : ConditionalValue → List String
  | .derived d => Derivation.readNames withTemplates d
  | _ => []

/-- The column names that the value after all rules reads. -/
def ConditionalValue.readNamesOfOption (withTemplates : Bool) :
    Option ConditionalValue → List String
  | some v => ConditionalValue.readNames withTemplates v
  | none => []

end

mutual

/-- The links of a derivation in the order of the text. -/
def Derivation.links : Derivation → List LinkTarget
  | .conditional rules default? =>
    ConditionalRule.linksOfList rules ++ ConditionalValue.linksOfOption default?
  | .link source => (LinkTarget.ofText? source).toList
  | _ => []

/-- The links of rules. -/
def ConditionalRule.linksOfList : List ConditionalRule → List LinkTarget
  | [] => []
  | .mk _ v :: rest => ConditionalValue.links v ++ ConditionalRule.linksOfList rest

/-- The links of a value. -/
def ConditionalValue.links : ConditionalValue → List LinkTarget
  | .derived d => Derivation.links d
  | _ => []

/-- The links of the value after all rules. -/
def ConditionalValue.linksOfOption : Option ConditionalValue → List LinkTarget
  | some v => ConditionalValue.links v
  | none => []

end

namespace Derivation

/-- The name of the form of a derivation. -/
def label : Derivation → String
  | .conditional _ _ => "conditional"
  | .formula _ => "formula"
  | .injection _ => "injection"
  | .link _ => "link"

/-- Every column name that a derivation reads. -/
def references (d : Derivation) : Names := .ofList (d.readNames true)

/-- The names that must be columns. A template keeps what it cannot fill in, so its references are
left out. -/
def requiredReferences (d : Derivation) : Names := .ofList (d.readNames false)

end Derivation

end SynthTable
