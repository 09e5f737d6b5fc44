import SynthTable.Files.Tree
import SynthTable.Schema.Check
import SynthTable.Settings.Document
import SynthTable.Sink.Basic
import SynthTable.Text.Quoted

/-!
# Errors of commands

Why a command fails, and how the failure is shown: by the name of its kind and the data in
brackets.
-/

namespace SynthTable

/-- The kinds of errors of commands. -/
inductive ErrorKind where
  | registry
  | settings
  | generation
  | json
  | io
  | invalidConfig
  | failed
  deriving DecidableEq, Repr

/-- The name of a kind. -/
def ErrorKind.label : ErrorKind → String
  | .registry => "Registry"
  | .settings => "Settings"
  | .generation => "Generation"
  | .json => "Json"
  | .io => "Io"
  | .invalidConfig => "InvalidConfig"
  | .failed => "Failed"

/-- Why a command fails. -/
inductive CommandError where
  | settings (error : SettingsError)
  /-- The schema cannot be read. -/
  | schemaUnreadable
  /-- The schema is no document of a schema. -/
  | schemaMalformed
  /-- The schema has another version. -/
  | version (found : String)
  /-- The directory of the run cannot be made. -/
  | runDirectory (path : String)
  /-- The level of the log is no filter. -/
  | logLevel (text : String)
  /-- The names of the columns are not in order. -/
  | names (fault : NameFault)
  /-- The directory for the rows cannot be made. -/
  | rowsDirectory (path : String)
  /-- The file for the rows cannot be written. -/
  | rowsFile (fault : FileFault)
  | sink (error : SinkError)
  /-- A strict check found dropped columns or warnings. -/
  | strict (dropped warnings : Nat)
  /-- The generation crashed. -/
  | failed (reason : String)
  deriving DecidableEq, Repr

namespace FileFault

/-- A fault of a file as it is shown. -/
def shown : FileFault → String
  | .missing => system 2 "NotFound" "No such file or directory"
  | .notDirectory => system 20 "NotADirectory" "Not a directory"
  | .directory => system 21 "IsADirectory" "Is a directory"
  | .nameTooLong => system 36 "InvalidFilename" "File name too long"
  | .other reason => "Custom(" ++ Text.quoted reason ++ ")"
where
  /-- A fault with its number, its name and its text. -/
  system (code : Nat) (name text : String) : String :=
    "Os \x7b code: " ++ toString code ++ ", kind: " ++ name ++ ", message: " ++
      Text.quoted text ++ " \x7d"

end FileFault

namespace CommandError

/-- The kind of an error. -/
def kind : CommandError → ErrorKind
  | .settings _ => .settings
  | .schemaUnreadable | .rowsDirectory _ => .io
  | .schemaMalformed => .json
  | .version _ | .strict _ _ => .invalidConfig
  | .runDirectory _ | .logLevel _ => .registry
  | .names _ | .rowsFile _ | .sink _ => .generation
  | .failed _ => .failed

/-- The data of an error. -/
def detail : CommandError → String
  | .settings (.unreadable path) => "Unreadable(" ++ Text.quoted path ++ ")"
  | .settings (.malformed path) => "Malformed(" ++ Text.quoted path ++ ")"
  | .schemaUnreadable => Text.quoted "the model cannot be read"
  | .schemaMalformed => Text.quoted "the model is no valid document"
  | .version found =>
    Text.quoted ("unsupported model_version '" ++ found ++ "' (expected " ++
      Schema.defaultVersion ++ ")")
  | .runDirectory path => "Io(" ++ Text.quoted path ++ ")"
  | .logLevel text => "Logging(" ++ Text.quoted text ++ ")"
  | .names fault => "Core(InvalidModel(" ++ Text.quoted fault.message ++ "))"
  | .rowsDirectory path => Text.quoted path
  | .rowsFile fault => "Io(" ++ fault.shown ++ ")"
  | .sink error => "Sink(" ++ Text.quoted error.message ++ ")"
  | .strict dropped warnings =>
    Text.quoted ("strict check failed: " ++ toString dropped ++ " dropped column(s), " ++
      toString warnings ++ " warning(s)")
  | .failed reason => Text.quoted reason

/-- An error as it is shown. -/
def shown (e : CommandError) : String := e.kind.label ++ "(" ++ e.detail ++ ")"

end CommandError

end SynthTable
