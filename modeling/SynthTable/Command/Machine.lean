import SynthTable.Files.Tree

/-!
# Machines

What a command does with the machine it runs on: it reads files, makes directories, writes files and
looks at a stop watch. A tree of files as a value is a machine, too.
-/

namespace SynthTable

/-- A machine with steps `m`. -/
class Machine (m : Type → Type) where
  /-- What is found at a path. -/
  read : String → m FileContent
  /-- Makes the directories on a path; tells whether they are there now. -/
  makeDirectories : String → m Bool
  /-- Writes a file anew, or tells why not. -/
  write : String → List UInt8 → m (Option FileFault)
  /-- The milliseconds on the stop watch. -/
  milliseconds : m Nat

/-- On a tree of files no time passes. -/
instance : Machine (StateM FileTree) where
  read := fun path tree => (tree.read path, tree)
  makeDirectories := fun path tree =>
    match tree.makeDirectories? path with
    | some tree => (true, tree)
    | none => (false, tree)
  write := fun path content tree =>
    match tree.create path content with
    | .ok tree => (none, tree)
    | .error fault => (some fault, tree)
  milliseconds := pure 0

/-- Files that were read, by their paths. -/
abbrev ReadFiles := List (String × FileContent)

namespace ReadFiles

/-- Reads some files. -/
def ofPaths {m : Type → Type} [Monad m] [Machine m] (paths : List String) : m ReadFiles :=
  paths.mapM fun path => do return (path, ← Machine.read path)

/-- What was found at a path. -/
def contentAt (files : ReadFiles) (path : String) : FileContent :=
  (files.lookup path).getD .missing

end ReadFiles

/-- The path of the directory that holds what is at a path; nothing stands for the directory that
paths start from. -/
def parentPath (path : String) : String :=
  let absolute := path.toList.head? = some '/'
  let kept := (FileTree.stepsOf path).zipIdx.filterMap fun (step, i) =>
    if step = "." && (absolute || 0 < i) then none else some step
  (if absolute then "/" else "") ++ "/".intercalate kept.dropLast

end SynthTable
