import SynthTable.Assets.Source

/-!
# Cache of tables

Tables are read once and kept under a label made of the path, the separator and the header mode. A
missing file is kept as missing; errors are not kept.
-/

namespace SynthTable

/-- What is asked for: a dictionary by its name, or a file of a user by its path and separator. -/
inductive AssetRequest where
  | dictionary (name : String)
  | table (path : String) (separator : UInt8)
  deriving DecidableEq, Repr

/-- The tables read so far by their labels; nothing stands for a missing file. -/
abbrev AssetCache := List (String × Option AssetTable)

namespace AssetCache

/-- The label of a table. -/
def label (path : String) (separator : UInt8) (hasHeader : Bool) : String :=
  path ++ "|" ++ String.ofList [Char.ofNat separator.toNat] ++ "|" ++ toString hasHeader

/-- What is kept under a label. -/
def find? (cache : AssetCache) (key : String) : Option (Option AssetTable) :=
  (List.find? (·.1 = key) cache).map (·.2)

/-- The table of a path, from the cache or else from the file, and the cache with it. -/
def load (cache : AssetCache) (read : String → FileContent) (path : String) (separator : UInt8)
    (hasHeader : Bool) : Except AssetError AssetTable × AssetCache :=
  let key := label path separator hasHeader
  match cache.find? key with
  | some (some table) => (.ok table, cache)
  | some none => (.ok .absent, cache)
  | none =>
    match AssetTable.ofFile path separator hasHeader (read path) with
    | .error e => (.error e, cache)
    | .ok table => (.ok table, (key, if table.missing then none else some table) :: cache)

/-- The answer to a request, and the cache with it. Dictionaries lie under the root. -/
def answer (cache : AssetCache) (root : String) (read : String → FileContent) :
    AssetRequest → Except AssetError AssetTable × AssetCache
  | .dictionary name => cache.load read (joinPath root name) 59 false
  | .table path separator => cache.load read path separator true

/-- The answers to requests, one after another, and the cache that they leave. -/
def answers (cache : AssetCache) (root : String) (read : String → FileContent) :
    List AssetRequest → List (Except AssetError AssetTable) × AssetCache
  | [] => ([], cache)
  | request :: rest =>
    let (table, cache) := cache.answer root read request
    let (tables, cache) := answers cache root read rest
    (table :: tables, cache)

/-- Whether a dictionary has been looked for and is missing. -/
def isMissing (cache : AssetCache) (path : String) : Bool :=
  cache.find? (label path 59 false) == some none

end AssetCache

end SynthTable
