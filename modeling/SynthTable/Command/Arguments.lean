import SynthTable.Number.Decimal
import SynthTable.Text.Split

/-!
# Arguments of commands

A command is a word with options after it. An option is `--name value` or `--name=value`; flags have
no value. Options are read in order, each at most once, and the first fault or call for help ends
the reading.
-/

namespace SynthTable

/-- The forms that rows are written in. -/
inductive OutputFormat where
  | csv
  | jsonl
  deriving DecidableEq, Repr

namespace OutputFormat

/-- The name of a format; files of rows end with it. -/
def label : OutputFormat → String
  | .csv => "csv"
  | .jsonl => "jsonl"

/-- The format of a name. -/
def ofLabel? (s : String) : Option OutputFormat := [csv, jsonl].find? (·.label = s)

end OutputFormat

/-- What the command `generate` is asked for. -/
structure GenerateRequest where
  schemaPath : String
  rows : Nat
  threads? : Option Nat
  seed? : Option Nat
  batchSize? : Option Nat
  dictionaries? : Option String
  format : OutputFormat
  /-- The file for the rows; in the directory of the run if there is none. -/
  out? : Option String
  /-- The directory for the directories of runs. -/
  runsDirectory : String
  /-- The file of settings. -/
  settings? : Option String
  deriving DecidableEq, Repr

/-- What the command `check` is asked for. -/
structure CheckRequest where
  schemaPath : String
  /-- Dropped columns and warnings are a failure. -/
  strict : Bool
  dictionaries? : Option String
  deriving DecidableEq, Repr

/-- What the program is asked for. -/
inductive Invocation where
  | generate (request : GenerateRequest)
  | check (request : CheckRequest)
  | help
  | version
  deriving DecidableEq, Repr

/-- What follows the name of an option. -/
inductive OptionValue where
  /-- Nothing: the option is a flag. -/
  | flag
  /-- A number below 2^64. -/
  | number
  /-- A text that is not empty. -/
  | path
  /-- The name of a format. -/
  | format
  deriving DecidableEq, Repr

/-- Whether a text is a value of an option. -/
def OptionValue.accepts (text : String) : OptionValue → Bool
  | .flag => false
  | .number => (Numeral.uint64? text.toList).isSome
  | .path => text ≠ ""
  | .format => (OutputFormat.ofLabel? text).isSome

/-- The options of a command with what follows them. -/
abbrev OptionTable := List (String × OptionValue)

/-- Why arguments give no request. -/
inductive ArgumentStop where
  /-- The arguments ask for help. -/
  | help
  | fault
  deriving DecidableEq, Repr

/-- The options given so far with their values. -/
abbrev GivenOptions := List (String × String)

namespace GivenOptions

/-- Adds an option that is not given yet, with a value that it accepts. -/
def add (given : GivenOptions) (name value : String) (form : OptionValue) :
    Except ArgumentStop GivenOptions :=
  if (given.lookup name).isSome || !form.accepts value then .error .fault
  else .ok (given ++ [(name, value)])

/-- Adds a flag that is not given yet. -/
def addFlag (given : GivenOptions) (name : String) : Except ArgumentStop GivenOptions :=
  if (given.lookup name).isSome then .error .fault else .ok (given ++ [(name, "")])

/-- Whether an argument is a value and not an option; a lone dash is a value. -/
def isValue (argument : String) : Bool :=
  match argument.toList with
  | '-' :: _ :: _ => false
  | _ => true

/-- Reads options. Two dashes alone end them, and nothing may follow. -/
def readFrom (table : OptionTable) (given : GivenOptions) :
    List String → Except ArgumentStop GivenOptions
  | [] => .ok given
  | argument :: rest =>
    match argument.toList with
    | ['-', '-'] => if rest.isEmpty then .ok given else .error .fault
    | '-' :: '-' :: body =>
      let name := String.ofList (body.takeWhile (· != '='))
      let attached? := (body.dropWhile (· != '=')).tail?.map String.ofList
      match table.lookup name, attached? with
      | none, none => .error (if name = "help" then .help else .fault)
      | none, some _ => .error .fault
      | some .flag, some _ => .error .fault
      | some .flag, none => do readFrom table (← given.addFlag name) rest
      | some form, some value => do readFrom table (← given.add name value form) rest
      | some form, none =>
        match rest with
        | value :: rest =>
          if isValue value then do readFrom table (← given.add name value form) rest
          else .error .fault
        | [] => .error .fault
    | '-' :: 'h' :: _ => .error .help
    | _ => .error .fault

/-- The number given for an option. -/
def number? (given : GivenOptions) (name : String) : Option Nat :=
  (given.lookup name).bind fun text => (Numeral.uint64? text.toList).map (·.toNat)

end GivenOptions

namespace GenerateRequest

/-- The options of the command. -/
def options : OptionTable := [
  ("model", .path), ("rows", .number), ("threads", .number), ("seed", .number),
  ("batch-size", .number), ("dictionaries-dir", .path), ("format", .format), ("out", .path),
  ("run-dir", .path), ("config", .path)]

/-- The directory for the directories of runs where none is given. -/
def defaultRunsDirectory : String := "runs"

/-- The request of some options; a schema and a number of rows must be among them. -/
def ofOptions? (given : GivenOptions) : Option GenerateRequest := do
  some {
    schemaPath := ← given.lookup "model"
    rows := ← given.number? "rows"
    threads? := given.number? "threads"
    seed? := given.number? "seed"
    batchSize? := given.number? "batch-size"
    dictionaries? := given.lookup "dictionaries-dir"
    format := ((given.lookup "format").bind OutputFormat.ofLabel?).getD .csv
    out? := given.lookup "out"
    runsDirectory := (given.lookup "run-dir").getD defaultRunsDirectory
    settings? := given.lookup "config" }

end GenerateRequest

namespace CheckRequest

/-- The options of the command. -/
def options : OptionTable :=
  [("model", .path), ("strict", .flag), ("dictionaries-dir", .path)]

/-- The request of some options; a schema must be among them. -/
def ofOptions? (given : GivenOptions) : Option CheckRequest := do
  some {
    schemaPath := ← given.lookup "model"
    strict := (given.lookup "strict").isSome
    dictionaries? := given.lookup "dictionaries-dir" }

end CheckRequest

namespace Invocation

/-- A request from the options of its command. -/
def ofCommand {α : Type} (table : OptionTable) (request? : GivenOptions → Option α)
    (toInvocation : α → Invocation) (arguments : List String) : Option Invocation :=
  match GivenOptions.readFrom table [] arguments with
  | .error .help => some .help
  | .error .fault => none
  | .ok given => (request? given).map toInvocation

/-- What some arguments ask for; nothing if they are wrong. -/
def ofArguments? : List String → Option Invocation
  | "generate" :: rest =>
    ofCommand GenerateRequest.options GenerateRequest.ofOptions? .generate rest
  | "check" :: rest => ofCommand CheckRequest.options CheckRequest.ofOptions? .check rest
  | "help" :: _ | "--help" :: _ | "-h" :: _ => some .help
  | "--version" :: _ | "-V" :: _ => some .version
  | _ => none

end Invocation

end SynthTable
