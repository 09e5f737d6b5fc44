import SynthTable.Json.Basic

/-!
# Settings

Settings come from a file, and single ones may be overridden for a run. What neither gives has a
default; the number of threads is then that of the processors.
-/

namespace SynthTable

/-- Settings of generation; all of them may be left open. -/
structure GenerationSettings where
  threads? : Option Nat
  batchSize? : Option Nat
  seed? : Option Nat
  /-- The number of notices to keep in a report. -/
  noticeLimit? : Option Nat
  /-- The directory that holds the dictionaries. -/
  dictionaries? : Option String
  deriving DecidableEq, Repr

/-- Settings of the log. -/
structure LogSettings where
  /-- Which events are logged. -/
  level : String
  /-- Whether the events are written to a file of the run. -/
  toFile : Bool
  deriving DecidableEq, Repr

/-- All settings. -/
structure Settings where
  generation : GenerationSettings
  log : LogSettings
  deriving DecidableEq, Repr

/-- What overrides the settings for one run. -/
structure Overrides where
  threads? : Option Nat
  batchSize? : Option Nat
  seed? : Option Nat
  dictionaries? : Option String
  deriving DecidableEq, Repr

/-- How a run generates. -/
structure Options where
  /-- None stands for the number of processors. -/
  threads? : Option Nat
  batchSize : Nat
  /-- None stands for a seed drawn at random. -/
  seed? : Option Nat
  noticeLimit : Nat
  /-- None stands for the bundled dictionaries. -/
  dictionaries? : Option String
  deriving DecidableEq, Repr

/-- Nothing is set. -/
def GenerationSettings.unset : GenerationSettings := ⟨none, none, none, none, none⟩

/-- Events of some weight are logged, to a file, too. -/
def LogSettings.default : LogSettings := ⟨"info", true⟩

/-- The settings without a file. -/
def Settings.default : Settings := ⟨.unset, .default⟩

/-- Nothing is overridden. -/
def Overrides.empty : Overrides := ⟨none, none, none, none⟩

namespace Options

/-- The number of rows of a batch where none is set. -/
def defaultBatchSize : Nat := 1000

/-- The number of notices to keep where none is set. -/
def defaultNoticeLimit : Nat := 100

/-- An override wins over a setting, and a setting over the default. Threads and rows of a batch are
at least one. -/
def of (settings : GenerationSettings) (overrides : Overrides) : Options :=
  { threads? := (overrides.threads?.or settings.threads?).map (max · 1)
    batchSize := max ((overrides.batchSize?.or settings.batchSize?).getD defaultBatchSize) 1
    seed? := overrides.seed?.or settings.seed?
    noticeLimit := settings.noticeLimit?.getD defaultNoticeLimit
    dictionaries? := overrides.dictionaries?.or settings.dictionaries? }

/-- Options as a JSON object, with what stands for the number of processors. -/
def toJson (processors : Json) (o : Options) : Json :=
  .object [("threads", (o.threads?.map Json.ofNat).getD processors),
    ("batch_size", .ofNat o.batchSize), ("seed", .orNull .ofNat o.seed?),
    ("max_recorded_issues", .ofNat o.noticeLimit),
    ("dictionaries_dir", .orNull .string o.dictionaries?)]

end Options

namespace Settings

/-- How a run with these settings generates. -/
def options (s : Settings) (overrides : Overrides) : Options := .of s.generation overrides

/-- Settings as a JSON object. -/
def toJson (s : Settings) : Json :=
  .object [
    ("generation", .object [("threads", .orNull .ofNat s.generation.threads?),
      ("batch_size", .orNull .ofNat s.generation.batchSize?),
      ("seed", .orNull .ofNat s.generation.seed?),
      ("max_recorded_issues", .orNull .ofNat s.generation.noticeLimit?),
      ("dictionaries_dir", .orNull .string s.generation.dictionaries?)]),
    ("logging", .object [("level", .string s.log.level), ("json_file", .bool s.log.toFile)])]

end Settings

end SynthTable
