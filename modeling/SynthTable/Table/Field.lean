import SynthTable.Computation.Basic
import SynthTable.Domain.Cast
import SynthTable.Domain.Descriptor
import SynthTable.Domain.Draw

/-!
# Fields

A field is a column ready for generation. A declared field draws from its domain, or evaluates its
computation and casts the text; an external field gets its texts from outside.
-/

namespace SynthTable

/-- Texts supplied from outside, computed from the columns filled so far. -/
structure ExternalSource where
  id : String
  compute : Row → Except Crash (Except CellError String)

/-- Where the values of a field come from. -/
inductive FieldContent where
  | declared (kind : ColumnKind) (domain : Domain) (computation? : Option Computation)
  | external (source : ExternalSource)

/-- A column ready for generation. -/
structure Field where
  name : String
  ghost : Bool
  content : FieldContent

/-- Why a column cannot be made ready. -/
inductive FieldError where
  | domain (error : DomainError)
  | derivation (error : DerivationError)
  deriving DecidableEq

/-- The text of an error. -/
def FieldError.message : FieldError → String
  | .domain error => error.message
  | .derivation error => error.message

/-- The crash that stands behind an error. -/
def FieldError.crash? : FieldError → Option Crash
  | .domain error => error.crash?
  | .derivation _ => none

namespace Field

/-- The computation of a column, if it has one. -/
def computationOf (c : Column) : Except DerivationError (Option Computation) :=
  match c.derivation? with
  | none => .ok none
  | some d => (Computation.ofDerivation d).map some

/-- Makes a column ready. -/
def build (c : Column) (assets : AssetSource) : Except FieldError Field :=
  match Domain.build c assets with
  | .error e => .error (.domain e)
  | .ok domain =>
    match computationOf c with
    | .error e => .error (.derivation e)
    | .ok computation? => .ok ⟨c.name, c.ghost, .declared c.kind domain computation?⟩

/-- A field with texts from outside. -/
def external (name : String) (source : ExternalSource) : Field := ⟨name, false, .external source⟩

/-- What is worth a warning about a field. -/
def warnings (f : Field) : List String :=
  match f.content with
  | .declared _ domain _ => domain.warnings
  | .external _ => []

/-- Whether the values of a field are computed and not drawn. -/
def isComputed (f : Field) : Bool :=
  match f.content with
  | .declared _ _ computation? => computation?.isSome
  | .external _ => true

/-- The kind of a field in reports. -/
def kindLabel (f : Field) : String :=
  match f.content with
  | .declared kind _ _ => kind.label
  | .external _ => "external"

/-- The form of the computation of a field in reports. -/
def derivationLabel? (f : Field) : Option String :=
  match f.content with
  | .declared _ _ computation? => computation?.map Computation.label
  | .external source => some source.id

/-- A text as a value of a field. Kinds that keep no empty text take it as no value. -/
def cast (f : Field) (text : String) : Except CellError Value :=
  match f.content with
  | .declared kind domain _ =>
    if text = "" && !Domain.keepsEmptyText kind then .ok .null else domain.cast text
  | .external _ => .ok (.text text)

/-- A drawn value; external fields have none. -/
def generate {σ : Type} [RandomSource σ] (f : Field) (w : World σ) :
    Except Crash Value × World σ :=
  match f.content with
  | .declared _ domain _ => domain.generate f.name w
  | .external _ => (.ok .null, w)

/-- The value of a field computed from the columns filled so far. -/
def compute (f : Field) (row : Row) : Except Crash (Except CellError Value) :=
  match f.content with
  | .declared _ _ none => .ok (.ok .null)
  | .declared _ _ (some c) =>
    match c.evaluate row with
    | .ok text => .ok (f.cast text)
    | .error e => .ok (.error e)
  | .external source =>
    match source.compute row with
    | .error crash => .error crash
    | .ok (.ok text) => .ok (f.cast text)
    | .ok (.error e) => .ok (.error e)

/-- The value of a field for a row filled so far. -/
def valueFor {σ : Type} [RandomSource σ] (f : Field) (row : Row) (w : World σ) :
    Except Crash (Except CellError Value) × World σ :=
  if f.isComputed then (f.compute row, w)
  else
    match f.generate w with
    | (.ok v, w) => (.ok (.ok v), w)
    | (.error crash, w) => (.error crash, w)

/-- Whether a link may read an attribute of the values of a field. -/
def exposes (f : Field) (name : String) : Option Bool :=
  match f.content with
  | .declared _ (.csv _ all _) _ => some (all.head?.any fun r => r.header.contains name)
  | .declared kind _ _ => kind.linkAttributes.allows? name
  | .external _ => some false

/-- The description of a field. -/
def descriptor (f : Field) : Descriptor :=
  let d := Descriptor.plain f.name f.kindLabel f.ghost f.derivationLabel?
  match f.content with
  | .declared _ domain _ => d.withDomain domain
  | .external _ => d

end Field

end SynthTable
