import SynthTable.Csv.Reader

/-!
# Tables of files

Dictionaries and the files of users are tables of separated records, with or without a header. A
file that does not exist is an empty table with a mark; a file that cannot be read is an error.
-/

namespace SynthTable

/-- What is found at a path. -/
inductive FileContent where
  | bytes (content : List UInt8)
  | missing
  /-- The file cannot be opened. -/
  | closed (reason : String)
  /-- The file can be opened but not read. -/
  | unreadable (reason : String)
  deriving DecidableEq, Repr

/-- A table read from a file. -/
structure AssetTable where
  header : List String
  records : List (List String)
  missing : Bool
  deriving DecidableEq, Repr

/-- The table of a file that does not exist. -/
def AssetTable.absent : AssetTable := ⟨[], [], true⟩

/-- Why a table cannot be read. -/
inductive AssetError where
  | closed (path reason : String)
  | header (path reason : String)
  | record (path reason : String)
  deriving DecidableEq, Repr

/-- The text of an error. -/
def AssetError.message : AssetError → String
  | .closed path reason => "failed to read asset " ++ path ++ ": " ++ reason
  | .header path reason => "invalid header in " ++ path ++ ": " ++ reason
  | .record path reason => "invalid record in " ++ path ++ ": " ++ reason

namespace AssetTable

/-- The texts of records; records with nothing but empty fields are left out. -/
def decodeAll (path : String) : List Csv.RawRecord → Except AssetError (List (List String))
  | [] => .ok []
  | raw :: rest =>
    match raw.decode with
    | .error e => .error (.record path e.message)
    | .ok fields =>
      match decodeAll path rest with
      | .error e => .error e
      | .ok records => .ok (if fields.all (· = "") then records else fields :: records)

/-- A table with a header. -/
def withHeader (path : String) (separator : UInt8) (content : List UInt8) :
    Except AssetError AssetTable :=
  match Csv.cut separator content with
  | [] => .ok ⟨[], [], false⟩
  | first :: rest =>
    match first.decode with
    | .error e => .error (.header path e.message)
    | .ok header =>
      match decodeAll path (rest.map Csv.RawRecord.trimmed) with
      | .error e => .error e
      | .ok records => .ok ⟨header, records, false⟩

/-- A table without header. -/
def withoutHeader (path : String) (separator : UInt8) (content : List UInt8) :
    Except AssetError AssetTable :=
  let raw :=
    match Csv.cut separator content with
    | [] => []
    | first :: rest => first :: rest.map Csv.RawRecord.trimmed
  match decodeAll path raw with
  | .error e => .error e
  | .ok records => .ok ⟨[], records, false⟩

/-- The table of a file. -/
def ofFile (path : String) (separator : UInt8) (hasHeader : Bool) (file : FileContent) :
    Except AssetError AssetTable :=
  match file with
  | .missing => .ok absent
  | .closed reason => .error (.closed path reason)
  | .unreadable reason =>
    .error (if hasHeader then .header path reason else .record path reason)
  | .bytes content =>
    if hasHeader then withHeader path separator content else withoutHeader path separator content

end AssetTable

end SynthTable
