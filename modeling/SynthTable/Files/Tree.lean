import SynthTable.Assets.Table
import SynthTable.Order.Sorted
import SynthTable.Text.Split

/-!
# Trees of files

A directory with the files below it, as a value. Paths are resolved step by step from the top: `.`
stays, `..` goes up, and every step but the last must be a directory. Above the top there are
directories whose names are not known; files may be put there, too.
-/

namespace SynthTable

/-- Why a file cannot be written. -/
inductive FileFault where
  | missing
  | notDirectory
  | directory
  | nameTooLong
  | other (reason : String)
  deriving DecidableEq, Repr

/-- A file or a directory. -/
inductive FileNode where
  | file (content : List UInt8)
  | directory
  deriving DecidableEq, Repr

/-- The files and directories of a tree by the names on the way to them. -/
structure FileTree where
  nodes : List (List String × FileNode)
  deriving DecidableEq, Repr

namespace FileTree

/-- A directory without files. -/
def empty : FileTree := ⟨[]⟩

/-- The steps of a path; steps of no name are left out. -/
def stepsOf (path : String) : List String :=
  ((Text.splitOn '/' path.toList).filter (!·.isEmpty)).map String.ofList

/-- Whether a way leads to the top or up from it; there are directories. -/
def isUpward (way : List String) : Bool := way.all (· = "..")

/-- The way to the directory that holds the end of a way. -/
def above (way : List String) : List String :=
  if isUpward way then way ++ [".."] else way.dropLast

/-- The node at the end of a way. -/
def node? (tree : FileTree) (way : List String) : Option FileNode :=
  if isUpward way then some .directory else (tree.nodes.find? (·.1 = way)).map (·.2)

/-- The greatest number of bytes of a name. -/
def nameLimit : Nat := 255

/-- The number of bytes from which on a path is too long. -/
def pathLimit : Nat := 4096

/-- The tree with a node at a way, and nothing that was there before. -/
def put (tree : FileTree) (way : List String) (node : FileNode) : FileTree :=
  ⟨tree.nodes.filter (·.1 ≠ way) ++ [(way, node)]⟩

/-- The tree with the directories on a way. -/
def withDirectories (tree : FileTree) (way : List String) : FileTree :=
  (((List.range (way.length + 1)).map way.take).filter (!·.isEmpty)).foldl
    (fun tree w => if (tree.node? w).isSome then tree else tree.put w .directory) tree

/-- The tree with a file or a directory at a path, and the directories on the way. -/
def write (tree : FileTree) (path : String) (node : FileNode) : FileTree :=
  let way := (stepsOf path).filter (· ≠ ".")
  (tree.withDirectories way.dropLast).put way node

/-- The tree without what is at a path. -/
def remove (tree : FileTree) (path : String) : FileTree :=
  let way := (stepsOf path).filter (· ≠ ".")
  ⟨tree.nodes.filter fun (w, _) => !way.isPrefixOf w⟩

/-- Where a path leads. -/
inductive Found where
  | node (node : FileNode)
  | missing
  /-- A step goes on from a file. -/
  | throughFile
  | nameTooLong

/-- Follows steps from a way on. -/
def follow (tree : FileTree) : (way : List String) → List String → Found
  | way, [] =>
    match tree.node? way with
    | some node => .node node
    | none => .missing
  | way, step :: rest =>
    match tree.node? way with
    | some .directory =>
      if step = "." then follow tree way rest
      else if step = ".." then follow tree (above way) rest
      else if nameLimit < step.utf8ByteSize then .nameTooLong
      else follow tree (way ++ [step]) rest
    | some (.file _) => .throughFile
    | none => .missing

/-- The steps to follow for a path; a slash at its end asks for a directory. -/
def wayOf (path : String) : List String :=
  stepsOf path ++ if path.toList.getLast? = some '/' then ["."] else []

/-- What is found at a path. Paths that do not start from the top lead nowhere. -/
def read (tree : FileTree) (path : String) : FileContent :=
  if path.toList.contains '\x00' then .closed "file name contained an unexpected NUL byte"
  else if pathLimit ≤ path.utf8ByteSize then .closed "File name too long (os error 36)"
  else if path = "" || path.toList.head? = some '/' then .missing
  else
    match tree.follow [] (wayOf path) with
    | .missing => .missing
    | .nameTooLong => .closed "File name too long (os error 36)"
    | .throughFile => .closed "Not a directory (os error 20)"
    | .node .directory => .unreadable "Is a directory (os error 21)"
    | .node (.file content) => .bytes content

/-- The way that steps lead from a way on, if every step can be taken. -/
def landing (way steps : List String) : List String :=
  steps.foldl
    (fun way step =>
      if step = "." then way else if step = ".." then above way else way ++ [step])
    way

/-- Puts a file with its content at a path; the directory that holds it must be there. -/
def create (tree : FileTree) (path : String) (content : List UInt8) :
    Except FileFault FileTree :=
  let steps := stepsOf path
  match steps.getLast? with
  | none => .error (if path = "" then .missing else .directory)
  | some last =>
    if pathLimit ≤ path.utf8ByteSize then .error .nameTooLong
    else if path.toList.head? = some '/' then .error .missing
    else
      match tree.follow [] steps.dropLast with
      | .missing => .error .missing
      | .nameTooLong => .error .nameTooLong
      | .throughFile | .node (.file _) => .error .notDirectory
      | .node .directory =>
        let way := landing [] steps
        if nameLimit < last.utf8ByteSize then .error .nameTooLong
        else if last = "." || last = ".." || path.toList.getLast? = some '/' ||
            tree.node? way = some .directory then
          .error .directory
        else .ok (tree.put way (.file content))

/-- Makes the directories of steps from a way on, as far as they are missing. Nothing if a step goes
on from a file or its name is too long. -/
def makeSteps? (tree : FileTree) : (way : List String) → List String → Option FileTree
  | way, [] => if tree.node? way = some .directory then some tree else none
  | way, step :: rest =>
    match tree.node? way with
    | some .directory =>
      if nameLimit < step.utf8ByteSize then none
      else
        let way := landing way [step]
        let tree := if (tree.node? way).isSome then tree else tree.put way .directory
        makeSteps? tree way rest
    | _ => none

/-- Makes the directories on a path. -/
def makeDirectories? (tree : FileTree) (path : String) : Option FileTree :=
  if pathLimit ≤ path.utf8ByteSize || path.toList.head? = some '/' then none
  else tree.makeSteps? [] (stepsOf path)

/-- The names of the files and directories in a directory. -/
def namesIn (tree : FileTree) (path : String) : Names :=
  let way := landing [] (stepsOf path)
  .ofList (tree.nodes.filterMap fun (w, _) =>
    if w.dropLast = way then w.getLast? else none)

end FileTree

end SynthTable
