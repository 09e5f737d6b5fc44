import Std.Time.DateTime.Timestamp
import SynthTable.Command.Check
import SynthTable.Command.Generate

/-!
# The program

Reads the arguments, runs the command on the machine, prints what it prints and shows events and
errors apart from it.
-/

namespace SynthTable

/-- The fault behind a failed step on a file. -/
def faultOf : IO.Error → FileFault
  | .noFileOrDirectory .. => .missing
  | .inappropriateType .. => .directory
  | e => .other (toString e)

instance : Machine IO where
  read := fun path => do
    try return .bytes (← IO.FS.readBinFile path).toList
    catch
      | .noFileOrDirectory .. => return .missing
      | e => return .closed (toString e)
  makeDirectories := fun path => do
    try
      IO.FS.createDirAll path
      return true
    catch _ => return false
  write := fun path content => do
    try
      IO.FS.writeBinFile path ⟨content.toArray⟩
      return none
    catch e => return some (faultOf e)
  milliseconds := IO.monoMsNow

namespace Program

/-- The names of the parts in logs. -/
def targetOf : LogPart → String
  | .commands => "synthtable::commands"
  | .engine => "synthtable::engine"
  | .dictionaries => "synthtable::dictionaries"
  | .files => "synthtable::files"
  | .patterns => "synthtable::patterns"
  | .texts => "synthtable::texts"

/-- The program as it is called on a machine. -/
def installed : Program := ⟨"synthtable.toml", targetOf⟩

/-- How the program is used. -/
def usage : String :=
  "Synthetic row generator\n\n" ++
  "Usage: synthtable <COMMAND> [OPTIONS]\n\n" ++
  "Commands:\n" ++
  "  generate  Generate rows from a model into a new run directory\n" ++
  "  check     Build a model and report what would be generated\n\n" ++
  "Options of generate:\n" ++
  "  --model <MODEL> --rows <ROWS> [--threads <THREADS>] [--seed <SEED>]\n" ++
  "  [--batch-size <BATCH_SIZE>] [--dictionaries-dir <DICTIONARIES_DIR>]\n" ++
  "  [--format <csv|jsonl>] [--out <OUT>] [--run-dir <RUN_DIR>] [--config <CONFIG>]\n\n" ++
  "Options of check:\n" ++
  "  --model <MODEL> [--strict] [--dictionaries-dir <DICTIONARIES_DIR>]\n"

end Program

/-- The present time in nanoseconds since the start of 1 January 1970. -/
def presentNanoseconds : IO Int := do
  return (← Std.Time.Timestamp.now).toNanosecondsSinceUnixEpoch.val

/-- The time of some nanoseconds since the start of 1 January 1970. -/
def timeOfNanoseconds (n : Int) : DateTime :=
  let start := DateTime.midnight Date.epoch
  let whole := (DateTime.ofEpochSeconds? (n / 1000000000)).getD start
  (DateTime.ofParts? whole.date whole.hour whole.minute whole.second
    (n % 1000000000).toNat).getD whole

/-- A number drawn by the machine. -/
def drawnSeed : IO UInt64 := do
  let bytes ← IO.getRandomBytes 8
  return bytes.toList.foldl (fun n b => n * 256 + b.toUInt64) 0

/-- The number of processors as the machine lists them, at least one. -/
def processorCount : IO Nat := do
  try
    let lines := (← IO.FS.readFile "/proc/cpuinfo").splitOn "\n"
    return max 1 (lines.filter fun line => line.startsWith "processor").length
  catch _ => return 1

/-- The present occasion. -/
def presentOccasion : IO Occasion := do
  let now := timeOfNanoseconds (← presentNanoseconds)
  let (id, _) := Domain.drawUuid (Random.Stream.ofSeed (← drawnSeed))
  return {
    runId := id.toText
    startedAt := now
    seed := ← drawnSeed
    processors := ← processorCount
    clock := ⟨fun _ => now, 0⟩ }

/-- Shows how a command ends. -/
def finish (c : Completion) : IO UInt32 := do
  for e in c.events do
    IO.eprintln (e.level.label ++ " " ++ e.message)
  IO.print c.output
  if let some error := c.error? then
    IO.eprintln ("Error: " ++ error.shown)
  return c.exitCode

end SynthTable

open SynthTable

def main (arguments : List String) : IO UInt32 := do
  match Invocation.ofArguments? arguments with
  | some .help =>
    IO.print Program.usage
    return 0
  | some .version =>
    IO.println "synthtable 0.1.0"
    return 0
  | some (.check request) => finish (← request.run Program.installed)
  | some (.generate request) => finish (← request.run Program.installed (← presentOccasion))
  | none =>
    IO.eprint Program.usage
    finish Completion.wrongUsage
