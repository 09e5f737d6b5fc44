import SynthTable.Assets.Table
import SynthTable.Settings.Basic
import SynthTable.Text.Utf8
import SynthTable.Toml.Decode
import SynthTable.Toml.Reader

/-!
# Files of settings

Settings are the tables `generation` and `logging` of a document; keys that are no settings are
passed over. A file that is not asked for by name may be missing.
-/

namespace SynthTable

/-- Settings of generation from a value. -/
def GenerationSettings.ofToml? (v : Toml) : Option GenerationSettings := do
  let fields ←
    v.fields? ["threads", "batch_size", "seed", "max_recorded_issues", "dictionaries_dir"]
  match fields with
  | [threads, batchSize, seed, noticeLimit, dictionaries] => some {
      threads? := ← Toml.optional? Toml.nat? threads
      batchSize? := ← Toml.optional? Toml.nat? batchSize
      seed? := ← Toml.optional? Toml.nat? seed
      noticeLimit? := ← Toml.optional? Toml.nat? noticeLimit
      dictionaries? := ← Toml.optional? Toml.string? dictionaries }
  | _ => none

/-- Settings of the log from a value. -/
def LogSettings.ofToml? (v : Toml) : Option LogSettings := do
  match ← v.fields? ["level", "json_file"] with
  | [level, toFile] => some {
      level := ← Toml.orDefault? Toml.string? LogSettings.default.level level
      toFile := ← Toml.orDefault? Toml.bool? LogSettings.default.toFile toFile }
  | _ => none

/-- Why there are no settings. -/
inductive SettingsError where
  | unreadable (path : String)
  | malformed (path : String)
  deriving DecidableEq, Repr

namespace Settings

/-- Settings from the table of a document. -/
def ofToml? (v : Toml) : Option Settings := do
  match ← v.fields? ["generation", "logging"] with
  | [generation, log] => some {
      generation := ← Toml.orDefault? GenerationSettings.ofToml? .unset generation
      log := ← Toml.orDefault? LogSettings.ofToml? .default log }
  | _ => none

/-- Settings from the text of a document. -/
def ofText? (text : String) : Option Settings := (Toml.ofText? text).bind ofToml?

/-- Settings from a file; if it is not `required`, it may be missing. -/
def ofFile (path : String) (required : Bool) (file : FileContent) : Except SettingsError Settings :=
  match file with
  | .bytes content =>
    match Text.decodeUtf8 content with
    | .error _ => .error (.unreadable path)
    | .ok text =>
      match ofText? (String.ofList text) with
      | some settings => .ok settings
      | none => .error (.malformed path)
  | .missing => if required then .error (.unreadable path) else .ok .default
  | .closed _ | .unreadable _ => .error (.unreadable path)

end Settings

end SynthTable
