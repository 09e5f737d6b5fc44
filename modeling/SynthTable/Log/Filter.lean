import SynthTable.Log.Directive
import SynthTable.Log.Event

/-!
# Log filters

A filter is a list of directives with commas between them. The narrowest directive that concerns an
event decides whether it is logged.
-/

namespace SynthTable

/-- Directives, of which the narrowest one decides, and of equally narrow ones the last. -/
structure LogFilter where
  directives : List LogDirective
  deriving DecidableEq, Repr

namespace LogFilter

/-- The filter of a text, or the fault of its first directive that has one. Empty directives are
passed over. -/
def ofText (text : String) : Except DirectiveFault LogFilter := do
  let parts := (Text.splitOn ',' text.toList).filter (!·.isEmpty)
  return ⟨← parts.mapM LogDirective.ofChars⟩

/-- The narrower of two directives, the second one if they are equally narrow. -/
def narrower (best? : Option LogDirective) (d : LogDirective) : Option LogDirective :=
  match best? with
  | none => some d
  | some best => if d.compareNarrowness best = .lt then some best else some d

/-- The directive that decides about events with some fields in a part of a name. -/
def deciding? (f : LogFilter) (target : String) (fields : List String) : Option LogDirective :=
  (f.directives.filter (·.concerns target fields)).foldl narrower none

/-- Whether an event is logged, given the names of the parts. -/
def keeps (f : LogFilter) (target : LogPart → String) (e : Event) : Bool :=
  (f.deciding? (target e.part) e.fieldNames).any fun d => e.level.rank ≤ d.rank

end LogFilter

end SynthTable
