/-!
# Cutting texts

Cutting a text at a character: everywhere, at its first and at its last occurrence, and taking a
pair of delimiters off.
-/

namespace SynthTable.Text

/-- The parts between the occurrences of a character; one more part than occurrences. -/
def splitOn (sep : Char) : List Char → List (List Char)
  | [] => [[]]
  | c :: rest =>
    if c = sep then [] :: splitOn sep rest
    else
      match splitOn sep rest with
      | [] => [[c]]
      | part :: parts => (c :: part) :: parts

/-- The text before and after the first occurrence of a character. -/
def cutFirst? (sep : Char) : List Char → Option (List Char × List Char)
  | [] => none
  | c :: rest =>
    if c = sep then some ([], rest)
    else (cutFirst? sep rest).map fun (a, b) => (c :: a, b)

/-- The text before and after the last occurrence of a character. -/
def cutLast? (sep : Char) (cs : List Char) : Option (List Char × List Char) :=
  (cutFirst? sep cs.reverse).map fun (b, a) => (a.reverse, b.reverse)

/-- The text without `c` at its end, if it ends so. -/
def dropLast? (c : Char) (cs : List Char) : Option (List Char) :=
  match cs.getLast? with
  | some d => if d = c then some cs.dropLast else none
  | none => none

/-- The text between an opening and a closing delimiter, if it has both. -/
def between? (first last : Char) : List Char → Option (List Char)
  | [] => none
  | c :: rest => if c = first then dropLast? last rest else none

/-- What follows `lead`, if the text begins with it. -/
def dropLead? : List Char → List Char → Option (List Char)
  | [], cs => some cs
  | _ :: _, [] => none
  | a :: as, c :: cs => if a = c then dropLead? as cs else none

end SynthTable.Text
