import SynthTable.Text.Utf8
import SynthTable.Toml.Scalar

/-!
# Reading TOML documents

A document is a sequence of lines: comments, keys with their values, and headers of tables. Each
reader takes the text from its first character on and gives what it read with the text that follows;
it fails where the grammar fails or where a key is given twice.
-/

namespace SynthTable.Toml

/-- The blanks inside a line. -/
def isSpace (c : Char) : Bool := c == ' ' || c == '\t'

/-- Characters that may stand in comments and, but for their delimiters, in strings. -/
def isPlain (c : Char) : Bool := c == '\t' || (0x20 ≤ c.toNat && c.toNat != 0x7F)

/-- The text without the blanks at its start. -/
def skipSpace (cs : List Char) : List Char := cs.dropWhile isSpace

/-- What follows the end of a line. -/
def afterLineEnd? : List Char → Option (List Char)
  | '\n' :: rest => some rest
  | '\r' :: '\n' :: rest => some rest
  | _ => none

/-- The text without a comment at its start. -/
def skipComment : List Char → List Char
  | '#' :: rest => rest.dropWhile isPlain
  | cs => cs

/-- What follows the rest of a line, which holds nothing but blanks and a comment. -/
def finishLine? (cs : List Char) : Option (List Char) :=
  match skipComment (skipSpace cs) with
  | [] => some []
  | rest => afterLineEnd? rest

/-- The text without blanks, line ends and comments at its start, as they may stand in arrays. -/
def skipLines : (fuel : Nat) → List Char → List Char
  | 0, cs => cs
  | fuel + 1, cs =>
    let rest := skipComment (skipSpace cs)
    match afterLineEnd? rest with
    | some rest => skipLines fuel rest
    | none => rest

/-! ## Strings -/

/-- The character of a code point in hexadecimal digits. -/
def readCode? (width : Nat) (cs : List Char) : Option (Char × List Char) := do
  let digits := cs.take width
  if digits.length = width ∧ digits.all (isDigitOf 16) then
    some (← Text.scalar? 0 (valueOf 16 digits), cs.drop width)
  else none

/-- The character of an escape, after its backslash. -/
def readEscape? : List Char → Option (Char × List Char)
  | 'b' :: rest => some ('\x08', rest)
  | 't' :: rest => some ('\t', rest)
  | 'n' :: rest => some ('\n', rest)
  | 'f' :: rest => some ('\x0c', rest)
  | 'r' :: rest => some ('\r', rest)
  | '"' :: rest => some ('"', rest)
  | '\\' :: rest => some ('\\', rest)
  | 'u' :: rest => readCode? 4 rest
  | 'U' :: rest => readCode? 8 rest
  | _ => none

/-- The characters of a string on one line up to its closing quote. Escapes are read between double
quotes only. -/
def readChars? (quote : Char) : (fuel : Nat) → List Char → Option (List Char × List Char)
  | 0, _ => none
  | _ + 1, [] => none
  | fuel + 1, c :: rest =>
    if c = quote then some ([], rest)
    else if c = '\\' ∧ quote = '"' then do
      let (d, rest) ← readEscape? rest
      let (cs, rest) ← readChars? quote fuel rest
      some (d :: cs, rest)
    else if isPlain c then do
      let (cs, rest) ← readChars? quote fuel rest
      some (c :: cs, rest)
    else none

/-- The text without the blanks and line ends at its start. -/
def skipBlankLines : List Char → List Char
  | [] => []
  | '\r' :: '\n' :: rest => skipBlankLines rest
  | c :: rest => if isSpace c || c == '\n' then skipBlankLines rest else c :: rest

/-- What follows a backslash at the end of a line, without the blanks and line ends after it. -/
def afterFoldedLine? (cs : List Char) : Option (List Char) :=
  (afterLineEnd? (skipSpace cs)).map skipBlankLines

/-- The characters of a string on several lines up to its three closing quotes. Up to two quotes
more may stand in front of these. -/
def readLines? (quote : Char) : (fuel : Nat) → List Char → Option (List Char × List Char)
  | 0, _ => none
  | _ + 1, [] => none
  | fuel + 1, c :: rest =>
    if c = quote then
      let count := ((c :: rest).takeWhile (· = quote)).length
      if count < 3 then do
        let (cs, rest) ← readLines? quote fuel rest
        some (c :: cs, rest)
      else
        let kept := min (count - 3) 2
        some (List.replicate kept c, (c :: rest).drop (kept + 3))
    else if c = '\\' ∧ quote = '"' then
      match afterFoldedLine? rest with
      | some rest => readLines? quote fuel rest
      | none => do
        let (d, rest) ← readEscape? rest
        let (cs, rest) ← readLines? quote fuel rest
        some (d :: cs, rest)
    else
      match afterLineEnd? (c :: rest) with
      | some rest => do
        let (cs, rest) ← readLines? quote fuel rest
        some ('\n' :: cs, rest)
      | none =>
        if isPlain c then do
          let (cs, rest) ← readLines? quote fuel rest
          some (c :: cs, rest)
        else none

/-- A string from its first quote on. A line end right after three quotes is left out. -/
def readString? (quote : Char) (cs : List Char) : Option (String × List Char) := do
  let (text, rest) ←
    match Text.dropLead? [quote, quote, quote] cs with
    | some body => readLines? quote (body.length + 1) ((afterLineEnd? body).getD body)
    | none => readChars? quote cs.length (cs.drop 1)
  some (String.ofList text, rest)

/-! ## Keys -/

/-- The greatest number of keys with points between them, and of arrays and tables around a
value. -/
def levelLimit : Nat := 79

/-- Characters of keys without quotes. -/
def isKeyChar (c : Char) : Bool := c.isAlphanum || c == '-' || c == '_'

/-- One key: a name, or a string on one line. -/
def readKey? (cs : List Char) : Option (String × List Char) :=
  match cs with
  | '"' :: rest => (readChars? '"' cs.length rest).map fun (k, rest) => (String.ofList k, rest)
  | '\'' :: rest => (readChars? '\'' cs.length rest).map fun (k, rest) => (String.ofList k, rest)
  | cs =>
    let name := cs.takeWhile isKeyChar
    if name.isEmpty then none else some (String.ofList name, cs.dropWhile isKeyChar)

/-- At most `limit` keys with points between them: all but the last one, and the last one. -/
def readDottedKey? : (limit : Nat) → List Char → Option (List String × String × List Char)
  | 0, _ => none
  | limit + 1, cs => do
    let (key, rest) ← readKey? (skipSpace cs)
    match skipSpace rest with
    | '.' :: rest => do
      let (path, last, rest) ← readDottedKey? limit rest
      some (key :: path, last, rest)
    | rest => some ([], key, rest)

/-! ## Values -/

/-- Characters of words. -/
def isWordChar (c : Char) : Bool :=
  c.isAlphanum || c == '+' || c == '-' || c == '_' || c == '.' || c == ':'

/-- A word as a value. A date may be followed by a blank and a time of day. -/
def readScalar? (cs : List Char) : Option (Toml × List Char) :=
  let word := cs.takeWhile isWordChar
  let rest := cs.dropWhile isWordChar
  let plain := (scalar? word).map (·, rest)
  match rest with
  | ' ' :: after =>
    let time := after.takeWhile isWordChar
    if isDate word && isTimeWithOffset time then
      some (.moment (String.ofList (word ++ ' ' :: time)), after.dropWhile isWordChar)
    else plain
  | _ => plain

/-- The items of an array up to its closing bracket. A comma may follow the last one. -/
def readItems? (read : List Char → Option (Toml × List Char)) :
    (fuel : Nat) → List Char → Option (List Toml × List Char)
  | 0, _ => none
  | fuel + 1, cs =>
    match skipLines cs.length cs with
    | ']' :: rest => some ([], rest)
    | cs => do
      let (v, rest) ← read cs
      match skipLines rest.length rest with
      | ',' :: rest => do
        let (vs, rest) ← readItems? read fuel rest
        some (v :: vs, rest)
      | ']' :: rest => some ([v], rest)
      | _ => none

/-- A key with its value, added to the members of a table. -/
def readPair? (read : List Char → Option (Toml × List Char)) (members : Members) (cs : List Char) :
    Option (Members × List Char) := do
  let (path, key, rest) ← readDottedKey? levelLimit cs
  match rest with
  | '=' :: rest => do
    let (v, rest) ← read (skipSpace rest)
    some (← members.addDotted? path key v, rest)
  | _ => none

/-- The keys of a table between braces, at least one, up to its closing brace. -/
def readPairs? (read : List Char → Option (Toml × List Char)) :
    (fuel : Nat) → Members → List Char → Option (Members × List Char)
  | 0, _, _ => none
  | fuel + 1, members, cs => do
    let (members, rest) ← readPair? read members cs
    match skipSpace rest with
    | ',' :: rest => readPairs? read fuel members rest
    | '}' :: rest => some (members, rest)
    | _ => none

/-- A value inside `levels` arrays and tables at most. -/
def readValue? : (levels : Nat) → List Char → Option (Toml × List Char)
  | 0, cs => readFlat? cs
  | levels + 1, cs =>
    match cs with
    | '[' :: rest => do
      let (items, rest) ← readItems? (readValue? levels) cs.length rest
      some (.array items, rest)
    | '{' :: rest =>
      match skipSpace rest with
      | '}' :: rest => some (.table .braces [], rest)
      | rest => do
        let (members, rest) ← readPairs? (readValue? levels) cs.length [] rest
        some (.table .braces members, rest)
    | cs => readFlat? cs
where
  /-- A value that holds no others. -/
  readFlat? (cs : List Char) : Option (Toml × List Char) :=
    match cs with
    | '"' :: _ => (readString? '"' cs).map fun (s, rest) => (.string s, rest)
    | '\'' :: _ => (readString? '\'' cs).map fun (s, rest) => (.string s, rest)
    | cs => readScalar? cs

/-! ## Documents -/

/-- What was read of a document: its tables, and the path of the header that stands above the next
line. -/
structure Draft where
  members : Members
  header : List String

/-- A header after its opening brackets: the path without its last key, and that key. -/
def readHeader? (close : List Char) (cs : List Char) :
    Option (List String × String × List Char) := do
  let (path, key, rest) ← readDottedKey? levelLimit cs
  some (path, key, ← Text.dropLead? close rest)

/-- A line that is neither empty nor a comment, without its end. -/
def readEntryLine? (draft : Draft) (cs : List Char) : Option (Draft × List Char) :=
  match cs with
  | '[' :: '[' :: rest => do
    let (path, key, rest) ← readHeader? [']', ']'] rest
    some (⟨← draft.members.underHeader path (·.openNext? key), path ++ [key]⟩, rest)
  | '[' :: rest => do
    let (path, key, rest) ← readHeader? [']'] rest
    some (⟨← draft.members.underHeader path (·.openTable? key), path ++ [key]⟩, rest)
  | cs => do
    let (path, key, rest) ← readDottedKey? levelLimit cs
    match rest with
    | '=' :: rest => do
      let (v, rest) ← readValue? levelLimit (skipSpace rest)
      let members ← draft.members.underHeader draft.header (·.addDotted? path key v)
      some (⟨members, draft.header⟩, rest)
    | _ => none

/-- The lines of a document. -/
def readLinesFrom? : (fuel : Nat) → Draft → List Char → Option Members
  | 0, _, _ => none
  | fuel + 1, draft, cs =>
    match skipSpace cs with
    | [] => some draft.members
    | rest =>
      match finishLine? rest with
      | some rest => readLinesFrom? fuel draft rest
      | none => do
        let (draft, rest) ← readEntryLine? draft rest
        readLinesFrom? fuel draft (← finishLine? rest)

/-- The table of a document. A byte order mark may stand in front. -/
def read? (cs : List Char) : Option Toml := do
  let cs := (Text.dropLead? ['\ufeff'] cs).getD cs
  some (.table .header (← readLinesFrom? (cs.length + 1) ⟨[], []⟩ cs))

/-- The table of a document. -/
def ofText? (text : String) : Option Toml := read? text.toList

end SynthTable.Toml
