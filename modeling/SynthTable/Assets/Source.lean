import SynthTable.Assets.Table

/-!
# Sources of files

Where dictionaries and the files of users are read from. Dictionaries lie under a root, files of
users are named by their own paths.
-/

namespace SynthTable

/-- A path under a root; a path that starts at the top stands for itself. -/
def joinPath (root path : String) : String :=
  if path.toList.head? = some '/' then path
  else if root = "" then path
  else if root.toList.getLast? = some '/' then root ++ path
  else root ++ "/" ++ path

/-- The files that columns draw on. -/
structure AssetSource where
  /-- The directory that holds the dictionaries. -/
  root : String
  /-- The dictionary of a name. -/
  dictionaryFile : String → FileContent
  /-- The file of a user at a path. -/
  userFile : String → FileContent

namespace AssetSource

/-- Dictionaries under a root and files of users, all found by `read`. -/
def ofDirectory (root : String) (read : String → FileContent) : AssetSource :=
  ⟨root, fun name => read (joinPath root name), read⟩

/-- A dictionary: records divided by semicolons, without header. -/
def dictionary (source : AssetSource) (name : String) : Except AssetError AssetTable :=
  AssetTable.ofFile (joinPath source.root name) 59 false (source.dictionaryFile name)

/-- A file of a user, with header. -/
def table (source : AssetSource) (path : String) (separator : UInt8) :
    Except AssetError AssetTable :=
  AssetTable.ofFile path separator true (source.userFile path)

end AssetSource

end SynthTable
