/-!
# Kinds of columns

The closed catalogue of kinds, their names in documents and the attributes that links may read from
their values.
-/

namespace SynthTable

/-- What the values of a column are. -/
inductive ColumnKind where
  | string
  | stringAz
  | stringRegex
  | integer
  | long
  | float
  | incrementInteger
  | incrementLong
  | boolean
  | bytes
  | hash
  | uuid
  | ip
  | timestamp
  | date
  | dateAsString
  | birthdate
  | name
  | city
  | country
  | email
  | phone
  | csv
  deriving DecidableEq, Repr, Inhabited

/-- The attributes of the values of a kind. -/
inductive LinkAttributes where
  /-- The values have these attributes. -/
  | fixed (names : List String)
  /-- The values have the columns of a file as attributes. -/
  | ofFile
  /-- The values have no attributes. -/
  | none
  deriving DecidableEq, Repr

/-- Whether a link may read an attribute; unknown if that depends on a file. -/
def LinkAttributes.allows? (attributes : LinkAttributes) (name : String) : Option Bool :=
  match attributes with
  | .fixed names => some (names.contains name)
  | .ofFile => Option.none
  | .none => some false

namespace ColumnKind

/-- All kinds. -/
def all : List ColumnKind :=
  [.string, .stringAz, .stringRegex, .integer, .long, .float, .incrementInteger, .incrementLong,
    .boolean, .bytes, .hash, .uuid, .ip, .timestamp, .date, .dateAsString, .birthdate, .name, .city,
    .country, .email, .phone, .csv]

/-- The name of a kind in documents and messages. -/
def label : ColumnKind → String
  | .string => "string"
  | .stringAz => "string_az"
  | .stringRegex => "string_regex"
  | .integer => "integer"
  | .long => "long"
  | .float => "float"
  | .incrementInteger => "increment_integer"
  | .incrementLong => "increment_long"
  | .boolean => "boolean"
  | .bytes => "bytes"
  | .hash => "hash"
  | .uuid => "uuid"
  | .ip => "ip"
  | .timestamp => "timestamp"
  | .date => "date"
  | .dateAsString => "date_as_string"
  | .birthdate => "birthdate"
  | .name => "name"
  | .city => "city"
  | .country => "country"
  | .email => "email"
  | .phone => "phone"
  | .csv => "csv"

/-- The kind of a name. -/
def ofLabel? (text : String) : Option ColumnKind := all.find? (·.label = text)

/-- Kinds whose bounds are compared as numbers. -/
def isNumeric : ColumnKind → Bool
  | .integer | .long | .float | .incrementInteger | .incrementLong => true
  | _ => false

/-- The attributes of cities. -/
def cityAttributes : List String :=
  ["name", "lat", "latitude", "long", "longitude", "country", "population"]

/-- The attributes of first names. -/
def nameAttributes : List String :=
  ["name", "first_name", "country", "sex", "male", "female", "unisex"]

/-- The attributes of the values of a kind. -/
def linkAttributes : ColumnKind → LinkAttributes
  | .city => .fixed cityAttributes
  | .name => .fixed nameAttributes
  | .csv => .ofFile
  | _ => .none

end ColumnKind

end SynthTable
