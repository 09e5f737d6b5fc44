import SynthTable.Assets.Bundled
import SynthTable.Command.Error
import SynthTable.Command.Machine
import SynthTable.Json.Reader
import SynthTable.Log.Filter
import SynthTable.Log.PlanEvents
import SynthTable.Schema.Document

/-!
# Commands

What both commands do: they read a schema, find its dictionaries and files, and make a plan of it.
-/

namespace SynthTable

/-- What the program is called where it runs. -/
structure Program where
  /-- The file of settings that is read if none is named. -/
  settingsFile : String
  /-- The names of its parts in logs. -/
  target : LogPart → String

/-- How a command ends. -/
structure Completion where
  exitCode : UInt32
  /-- What is printed. -/
  output : String
  error? : Option CommandError
  /-- The events that are shown. -/
  events : List Event

namespace Completion

/-- The end of a command that succeeds. -/
def success (output : String) (events : List Event) : Completion := ⟨0, output, none, events⟩

/-- The end of a command that fails. -/
def failure (error : CommandError) (output : String) (events : List Event) : Completion :=
  ⟨1, output, some error, events⟩

/-- The end of a command with wrong arguments. -/
def wrongUsage : Completion := ⟨2, "", none, []⟩

/-- The end of a command that breaks off in the middle. -/
def crashed (events : List Event) : Completion := ⟨101, "", none, events⟩

end Completion

namespace Schema

/-- The schema in a file. It must have the version that is supported. -/
def ofFile (file : FileContent) : Except CommandError Schema :=
  match file with
  | .bytes content =>
    match Text.decodeUtf8 content with
    | .error _ => .error .schemaUnreadable
    | .ok text =>
      match (Json.read? text).bind Schema.ofJson? with
      | none => .error .schemaMalformed
      | some schema =>
        if schema.version = defaultVersion then .ok schema else .error (.version schema.version)
  | _ => .error .schemaUnreadable

/-- The paths of the files that the columns name. -/
def filePaths (s : Schema) : List String := s.columns.filterMap fun c => c.source?.map (·.path)

end Schema

namespace AssetSource

/-- The paths of all dictionaries under a root. -/
def dictionaryPaths (root : String) : List String :=
  [Dictionary.citiesPath, Dictionary.namesPath, Dictionary.dialCodesPath].map (joinPath root)

/-- The files that a schema draws on, with the dictionaries under a root or else the bundled
ones. -/
def ofSchema {m : Type → Type} [Monad m] [Machine m] (s : Schema) (root? : Option String) :
    m AssetSource := do
  let dictionaries := (root?.map dictionaryPaths).getD []
  let files ← ReadFiles.ofPaths (s.filePaths ++ dictionaries)
  return match root? with
    | some root => ofDirectory root files.contentAt
    | none => Bundled.source files.contentAt

end AssetSource

end SynthTable
