import SynthTable.Text.Alphabetic
import SynthTable.Text.Blank
import SynthTable.Text.Hex
import SynthTable.Text.Name
import SynthTable.Text.Utf8

/-!
# Patterns of field values

Which texts are regular expressions that one pass over a value can decide. Groups and character
classes are closed, a repetition has something to repeat, and escapes are known. There are no
back references and no looking around, and word boundaries are those between ASCII characters.
A number of repetitions is never read, since no brace is closed where these patterns stand.
-/

namespace SynthTable.ValuePattern

/-- How the parts of a pattern are read. -/
structure Mode where
  /-- Whether a pattern is about characters; otherwise it is about bytes below 128. -/
  unicode : Bool
  /-- Whether blanks and comments are passed over. -/
  verbose : Bool
  deriving DecidableEq, Repr

/-- The text after blanks and comments, from within a comment or not. A comment ends with its
line. -/
def afterComments : (inComment : Bool) → List Char → List Char
  | _, [] => []
  | true, c :: rest => afterComments (c != '\n') rest
  | false, c :: rest =>
    if Text.isBlank c then afterComments false rest
    else if c == '#' then afterComments true rest
    else c :: rest

namespace Mode

/-- The mode at the start of a pattern. -/
def initial : Mode := ⟨true, false⟩

/-- The text without what is passed over. -/
def skip (m : Mode) (cs : List Char) : List Char := if m.verbose then afterComments false cs else cs

/-- Whether a character may stand for itself in a class. -/
def admits (m : Mode) (c : Char) : Bool := m.unicode || c.toNat < 0x80

/-- The letters of the options of a group; those after the minus are turned off. -/
def optionLetters : List Char := ['i', 'm', 's', 'U', 'u', 'R', 'x', '-']

/-- Whether some letters are options: none twice, and no minus at the end. -/
def areOptions (letters : List Char) : Bool :=
  letters.all optionLetters.contains && decide letters.Nodup && letters.getLast? != some '-'

/-- The mode with some options. -/
def withOptions (m : Mode) (letters : List Char) : Mode :=
  let on := letters.takeWhile (· != '-')
  let off := letters.dropWhile (· != '-')
  let switched (letter : Char) (old : Bool) := on.contains letter || (old && !off.contains letter)
  ⟨switched 'u' m.unicode, switched 'x' m.verbose⟩

end Mode

/-! ## Escapes -/

/-- What an escape stands for. -/
inductive Escape where
  | char (c : Char)
  /-- Any character of a set. -/
  | set
  /-- A place between characters. -/
  | place
  deriving DecidableEq, Repr

/-- The number of some hexadecimal digits, added to the digits before them, and the rest. -/
def hexNumber? (m : Mode) : (count value : Nat) → List Char → Option (Nat × List Char)
  | 0, value, cs => some (value, cs)
  | count + 1, value, cs =>
    match m.skip cs with
    | [] => none
    | c :: rest => do hexNumber? m count (16 * value + (← Text.hexValue? c)) rest

/-- The character of some hexadecimal digits. -/
def hexChar? (m : Mode) (count : Nat) (cs : List Char) : Option (Escape × List Char) := do
  let (value, rest) ← hexNumber? m count 0 cs
  some (.char (← Text.scalar? 0 value), rest)

/-- The letters of the categories of characters. -/
def categoryLetters : List Char :=
  ['C', 'L', 'M', 'N', 'P', 'S', 'Z', 'c', 'l', 'm', 'n', 'p', 's', 'z']

/-- The names of the classes of ASCII characters. -/
def asciiClassNames : List (List Char) :=
  ["alnum", "alpha", "ascii", "blank", "cntrl", "digit", "graph", "lower", "print", "punct",
    "space", "upper", "word", "xdigit"].map String.toList

/-- Reads an escape after its backslash. A byte above 127, the other characters of a set and the
categories are no bytes below 128; a word boundary is one between bytes only. -/
def escape? (m : Mode) : List Char → Option (Escape × List Char)
  | [] => none
  | c :: rest =>
    match c with
    | 'x' => do
      let found ← hexChar? m 2 rest
      match found.1 with
      | .char c => if m.admits c then some found else none
      | _ => none
    | 'u' => hexChar? m 4 rest
    | 'U' => hexChar? m 8 rest
    | 'p' | 'P' =>
      match m.skip rest with
      | letter :: rest =>
        if m.unicode && categoryLetters.contains letter then some (.set, rest) else none
      | [] => none
    | 'd' | 's' | 'w' => some (.set, rest)
    | 'D' | 'S' | 'W' => if m.unicode then some (.set, rest) else none
    | 'a' => some (.char '\x07', rest)
    | 't' => some (.char '\t', rest)
    | 'n' => some (.char '\n', rest)
    | 'v' => some (.char '\x0b', rest)
    | 'f' => some (.char '\x0c', rest)
    | 'r' => some (.char '\r', rest)
    | 'A' | 'z' => some (.place, rest)
    | 'b' | 'B' | '<' | '>' => if m.unicode then none else some (.place, rest)
    | c => if c.toNat < 0x80 && !c.isAlphanum then some (.char c, rest) else none

/-! ## Classes -/

/-- Reads a character or a set in a class. -/
def classItem? (m : Mode) (cs : List Char) : Option (Escape × List Char) := do
  let found ←
    match cs with
    | [] => none
    | '\\' :: rest => escape? m rest
    | c :: rest => some (.char c, rest)
  match found.1 with
  | .char c => if m.admits c then some found else none
  | .set => some found
  | .place => none

/-- Reads an item of a class or a range; a range goes upwards from a character to a character. -/
def classRange? (m : Mode) (cs : List Char) : Option (List Char) := do
  let (first, rest) ← classItem? m cs
  match m.skip rest with
  | '-' :: after =>
    match m.skip after with
    | ']' :: _ | '-' :: _ => some ('-' :: after)
    | after =>
      let (last, rest) ← classItem? m after
      match first, last with
      | .char a, .char b => if a ≤ b then some rest else none
      | _, _ => none
  | rest => some rest

/-- Reads the name of a class of ASCII characters between colons; tells whether the other
characters are meant. -/
def asciiClass? : List Char → Option (Bool × List Char)
  | ':' :: cs =>
    let (negated, cs) := match cs with
      | '^' :: rest => (true, rest)
      | cs => (false, cs)
    match cs.dropWhile (· != ':') with
    | ':' :: ']' :: rest =>
      if asciiClassNames.contains (cs.takeWhile (· != ':')) then some (negated, rest) else none
    | _ => none
  | _ => none

/-- Reads the start of a class after its bracket: a sign for the other characters, which are no
bytes below 128, and a bracket that is an item since it comes first. -/
def classStart? (m : Mode) (cs : List Char) : Option (List Char) :=
  match m.skip cs with
  | '^' :: rest => if m.unicode then some (withoutBracket (m.skip rest)) else none
  | cs => some (withoutBracket cs)
where
  /-- The text without a closing bracket at its start. -/
  withoutBracket : List Char → List Char
    | ']' :: rest => rest
    | cs => cs

/-- Reads a class after its start, with some classes open around it. Each step of the fuel reads
one character or more. -/
def classEnd? (m : Mode) : (fuel depth : Nat) → List Char → Option (List Char)
  | 0, _, _ => none
  | fuel + 1, depth, cs =>
    match m.skip cs with
    | [] => none
    | '[' :: rest =>
      match asciiClass? rest with
      | some (negated, rest) => if negated && !m.unicode then none else classEnd? m fuel depth rest
      | none => do classEnd? m fuel (depth + 1) (← classStart? m rest)
    | ']' :: rest =>
      match depth with
      | 0 => some rest
      | depth + 1 => classEnd? m fuel depth rest
    | '&' :: '&' :: rest | '-' :: '-' :: rest | '~' :: '~' :: rest => classEnd? m fuel depth rest
    | cs => do classEnd? m fuel depth (← classRange? m cs)

/-- Reads a class after its bracket. -/
def bracketClass? (m : Mode) (cs : List Char) : Option (List Char) := do
  classEnd? m (cs.length + 1) 0 (← classStart? m cs)

/-! ## Patterns -/

/-- What was read of a pattern. -/
structure Progress where
  mode : Mode
  /-- The modes around the open groups. -/
  outer : List Mode
  /-- The names of the groups. -/
  names : List (List Char)
  /-- Whether something that can be repeated comes last. -/
  repeatable : Bool

namespace Progress

/-- Nothing was read. -/
def start : Progress := ⟨.initial, [], [], false⟩

/-- After something that can be repeated. -/
def afterItem (p : Progress) : Progress := { p with repeatable := true }

/-- In a new group with a mode. -/
def inGroup (p : Progress) (m : Mode) : Progress :=
  { p with mode := m, outer := p.mode :: p.outer, repeatable := false }

/-- Whether a group may have a name: it begins with a letter or an underscore and goes on with
name characters, points and brackets, and no other group has it. -/
def admitsName (p : Progress) (name : List Char) : Bool :=
  match name with
  | [] => false
  | c :: rest =>
    (c == '_' || Text.isAlphabetic c) &&
      rest.all (fun c => Text.isNameChar c || c == '.' || c == '[' || c == ']') &&
      !p.names.contains name

/-- Opens a group with a name. -/
def namedGroup? (p : Progress) (cs : List Char) : Option (Progress × List Char) :=
  let name := cs.takeWhile (· != '>')
  match cs.dropWhile (· != '>') with
  | _ :: rest =>
    if p.admitsName name then some ({ p with names := name :: p.names }.inGroup p.mode, rest)
    else none
  | [] => none

/-- Opens a group with options, or sets the options for the rest of the group around it. -/
def optionGroup? (p : Progress) (cs : List Char) : Option (Progress × List Char) :=
  let letters := cs.takeWhile fun c => c != ':' && c != ')'
  if Mode.areOptions letters then
    match cs.dropWhile fun c => c != ':' && c != ')' with
    | ':' :: rest => some (p.inGroup (p.mode.withOptions letters), rest)
    | _ :: rest =>
      if letters.isEmpty then none
      else some ({ p with mode := p.mode.withOptions letters, repeatable := false }, rest)
    | [] => none
  else none

/-- Opens a group after its bracket. -/
def group? (p : Progress) (cs : List Char) : Option (Progress × List Char) :=
  match p.mode.skip cs with
  | '?' :: 'P' :: '<' :: rest | '?' :: '<' :: rest => p.namedGroup? rest
  | '?' :: rest => p.optionGroup? rest
  | rest => some (p.inGroup p.mode, rest)

/-- Closes a group. -/
def closed? (p : Progress) : Option Progress :=
  match p.outer with
  | [] => none
  | m :: outer => some { p with mode := m, outer := outer, repeatable := true }

/-- The text after a sign of repetition, which may be followed by a sign for few repetitions. -/
def afterRepetition : List Char → List Char
  | '?' :: rest => rest
  | cs => cs

/-- Reads the next part of a pattern. -/
def step? (p : Progress) : List Char → Option (Progress × List Char)
  | [] => none
  | c :: rest =>
    match c with
    | '(' => p.group? rest
    | ')' => p.closed?.map (·, rest)
    | '|' => some ({ p with repeatable := false }, rest)
    | '[' => (bracketClass? p.mode rest).map (p.afterItem, ·)
    | '*' | '+' | '?' => if p.repeatable then some (p, afterRepetition rest) else none
    | '{' => none
    | '\\' => (escape? p.mode rest).map fun (_, rest) => (p.afterItem, rest)
    | '.' => if p.mode.unicode then some (p.afterItem, rest) else none
    | _ => some (p.afterItem, rest)

/-- Whether a pattern can be read to its end with all groups closed. Each step of the fuel reads
one character or more. -/
def completes (p : Progress) : (fuel : Nat) → List Char → Bool
  | 0, _ => false
  | fuel + 1, cs =>
    match p.mode.skip cs with
    | [] => p.outer.isEmpty
    | cs => (p.step? cs).any fun (p, rest) => completes p fuel rest

end Progress

/-- Whether a text is a pattern. -/
def isPattern (cs : List Char) : Bool := Progress.start.completes (cs.length + 1) cs

end SynthTable.ValuePattern
