import SynthTable.Schema.Kind

/-!
# Records with attributes

Cities, first names and records of a file are values that stand for one text but have further
attributes.
-/

namespace SynthTable

/-- A city of the dictionary. -/
structure City where
  name : String
  latitude : String
  longitude : String
  country : String
  population : UInt64
  deriving DecidableEq

namespace City

/-- A city of which only the name is known. -/
def named (name : String) : City := ⟨name, "", "", "", 0⟩

/-- The city that stands in when no dictionary can be read. -/
def standIn : City := ⟨"world", "0", "0", "world", 8000000000⟩

/-- The attribute of a name. -/
def attribute? (c : City) (name : String) : Option String :=
  match name with
  | "name" => some c.name
  | "lat" => some c.latitude
  | "latitude" => some c.latitude
  | "long" => some c.longitude
  | "longitude" => some c.longitude
  | "country" => some c.country
  | "population" => some (toString c.population.toNat)
  | _ => none

end City

/-- A first name of the dictionary. -/
structure PersonName where
  firstName : String
  country : String
  male : Bool
  female : Bool
  unisex : Bool
  deriving DecidableEq

namespace PersonName

/-- A first name of which nothing else is known. -/
def named (firstName : String) : PersonName := ⟨firstName, "", false, false, true⟩

/-- The name that stands in when no dictionary can be read. -/
def standIn : PersonName := named "Anonymous"

/-- The sex that a name tells. -/
def sex (n : PersonName) : String :=
  if n.unisex then "UNKNOWN" else if n.male then "MALE" else "FEMALE"

/-- The attribute of a name. -/
def attribute? (n : PersonName) (name : String) : Option String :=
  match name with
  | "name" => some n.firstName
  | "first_name" => some n.firstName
  | "country" => some n.country
  | "sex" => some n.sex
  | "male" => some (toString n.male)
  | "female" => some (toString n.female)
  | "unisex" => some (toString n.unisex)
  | _ => none

end PersonName

/-- The digits that the telephone numbers of a country begin with. -/
structure DialCode where
  indicator : String
  country : String
  deriving DecidableEq

/-- The digits that stand in when no dictionary can be read. -/
def DialCode.standIn : DialCode := ⟨"00", ""⟩

/-- A record of a file with the names of its fields and the place of the field that stands for
it. -/
structure CsvRecord where
  header : List String
  fields : List String
  mainIndex : Nat
  deriving DecidableEq

namespace CsvRecord

/-- A record of one field. -/
def single (name value : String) : CsvRecord := ⟨[name], [value], 0⟩

/-- The field that stands for the record. -/
def mainValue (r : CsvRecord) : String := r.fields.getD r.mainIndex ""

/-- The field of a name; fields left out at the end of a record are empty. -/
def get? (r : CsvRecord) (name : String) : Option String :=
  (r.header.findIdx? (· = name)).map fun i => r.fields.getD i ""

end CsvRecord

end SynthTable
