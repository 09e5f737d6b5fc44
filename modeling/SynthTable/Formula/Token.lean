import SynthTable.Number.Decimal
import SynthTable.Text.Blank
import SynthTable.Text.Name
import SynthTable.Text.Quoted

/-!
# Tokens of formulas

A formula is cut into numbers, quoted texts, references to columns, words, operators and brackets.
Blanks between tokens are skipped.
-/

namespace SynthTable

/-- The operators with two operands. -/
inductive BinaryOp where
  | or
  | and
  | eq
  | ne
  | lt
  | le
  | gt
  | ge
  | add
  | sub
  | mul
  | div
  | rem
  deriving DecidableEq, Repr

namespace BinaryOp

/-- How tightly an operator binds. -/
def precedence : BinaryOp → Nat
  | .or => 1
  | .and => 2
  | .eq | .ne => 3
  | .lt | .le | .gt | .ge => 4
  | .add | .sub => 5
  | .mul | .div | .rem => 6

/-- The sign of an operator. -/
def symbol : BinaryOp → String
  | .or => "||"
  | .and => "&&"
  | .eq => "=="
  | .ne => "!="
  | .lt => "<"
  | .le => "<="
  | .gt => ">"
  | .ge => ">="
  | .add => "+"
  | .sub => "-"
  | .mul => "*"
  | .div => "/"
  | .rem => "%"

/-- The name of an operator in messages. -/
def label : BinaryOp → String
  | .or => "Or"
  | .and => "And"
  | .eq => "Eq"
  | .ne => "Ne"
  | .lt => "Lt"
  | .le => "Le"
  | .gt => "Gt"
  | .ge => "Ge"
  | .add => "Add"
  | .sub => "Sub"
  | .mul => "Mul"
  | .div => "Div"
  | .rem => "Rem"

end BinaryOp

/-- A token. -/
inductive Token where
  | number (x : Double)
  | quoted (text : String)
  | column (name : String)
  | word (text : String)
  | op (o : BinaryOp)
  | bang
  | question
  | colon
  | leftParen
  | rightParen
  deriving DecidableEq

/-- A token as messages show it. -/
def Token.shown : Token → String
  | .number x => "Number(" ++ x.format .message ++ ")"
  | .quoted text => "Str(" ++ Text.quoted text ++ ")"
  | .column name => "Var(" ++ Text.quoted name ++ ")"
  | .word text => "Ident(" ++ Text.quoted text ++ ")"
  | .op o => "Op(" ++ o.label ++ ")"
  | .bang => "Bang"
  | .question => "Question"
  | .colon => "Colon"
  | .leftParen => "LParen"
  | .rightParen => "RParen"

/-- Why a text is no formula. -/
inductive FormulaError where
  | invalidNumber (text : String)
  | unterminatedText
  | missingName
  | unterminatedReference (name : String)
  | unexpectedCharacter (c : Char)
  | empty
  | expected (wanted found : Token)
  | expectedAtEnd (wanted : Token)
  | unknownWord (text : String)
  | unexpectedToken (found : Token)
  | unexpectedEnd
  | trailing (found : Token)
  deriving DecidableEq

/-- The text of an error. -/
def FormulaError.message : FormulaError → String
  | .invalidNumber text => "invalid number '" ++ text ++ "'"
  | .unterminatedText => "unterminated string literal"
  | .missingName => "'$' must be followed by a column name"
  | .unterminatedReference name => "unterminated reference '$\x7b" ++ name ++ "'"
  | .unexpectedCharacter c => "unexpected character '" ++ String.ofList [c] ++ "'"
  | .empty => "formula is empty"
  | .expected wanted found => "expected " ++ wanted.shown ++ ", found " ++ found.shown
  | .expectedAtEnd wanted => "expected " ++ wanted.shown ++ " at end of formula"
  | .unknownWord text =>
    "unknown identifier '" ++ text ++ "', reference columns as $" ++ text
  | .unexpectedToken found => "unexpected token " ++ found.shown
  | .unexpectedEnd => "unexpected end of formula"
  | .trailing found => "unexpected token " ++ found.shown ++ " after expression"

namespace Token

/-- The text up to the closing quote, without the backslashes in front of other characters, and
the rest after the quote. -/
def readQuoted? (quote : Char) : List Char → Option (List Char × List Char)
  | [] => none
  | ['\\'] => none
  | '\\' :: c :: rest => (readQuoted? quote rest).map fun (text, rest) => (c :: text, rest)
  | c :: rest =>
    if c = quote then some ([], rest)
    else (readQuoted? quote rest).map fun (text, rest) => (c :: text, rest)

/-- A character of a number. -/
def isNumberChar (c : Char) : Bool := Numeral.isDigit c || c == '.'

/-- Reads a number from its first character on. -/
def readNumber (cs : List Char) : Except FormulaError Token :=
  let text := cs.takeWhile isNumberChar
  match Numeral.double? text with
  | some x => .ok (.number x)
  | none => .error (.invalidNumber (String.ofList text))

/-- Reads a reference after its dollar sign. -/
def readColumn (cs : List Char) : Except FormulaError (Token × List Char) :=
  match cs with
  | '{' :: inner =>
    let name := String.ofList (inner.takeWhile Text.isNameChar)
    if name = "" then .error .missingName
    else
      match inner.dropWhile Text.isNameChar with
      | '}' :: rest => .ok (.column name, rest)
      | _ => .error (.unterminatedReference name)
  | cs =>
    let name := String.ofList (cs.takeWhile Text.isNameChar)
    if name = "" then .error .missingName
    else .ok (.column name, cs.dropWhile Text.isNameChar)

/-- The operator of two characters. -/
def pair? : Char → Char → Option Token
  | '&', '&' => some (.op .and)
  | '|', '|' => some (.op .or)
  | '=', '=' => some (.op .eq)
  | '!', '=' => some (.op .ne)
  | '<', '=' => some (.op .le)
  | '>', '=' => some (.op .ge)
  | _, _ => none

/-- The token of one character. -/
def single? : Char → Option Token
  | '<' => some (.op .lt)
  | '>' => some (.op .gt)
  | '+' => some (.op .add)
  | '-' => some (.op .sub)
  | '*' => some (.op .mul)
  | '/' => some (.op .div)
  | '%' => some (.op .rem)
  | '!' => some .bang
  | '?' => some .question
  | ':' => some .colon
  | '(' => some .leftParen
  | ')' => some .rightParen
  | _ => none

/-- Reads an operator or a bracket. -/
def readSign (c : Char) (rest : List Char) : Except FormulaError (Token × List Char) :=
  let one :=
    match single? c with
    | some token => .ok (token, rest)
    | none => .error (.unexpectedCharacter c)
  match rest with
  | d :: rest =>
    match pair? c d with
    | some token => .ok (token, rest)
    | none => one
  | [] => one

/-- Whether a number starts with `c`. -/
def startsNumber (c : Char) (rest : List Char) : Bool :=
  Numeral.isDigit c || (c == '.' && (rest.head?.any Numeral.isDigit))

/-- Reads a token from its first character `c` on, which is no blank. -/
def readToken (c : Char) (rest : List Char) : Except FormulaError (Token × List Char) :=
  if startsNumber c rest then
    match readNumber (c :: rest) with
    | .ok token => .ok (token, rest.dropWhile isNumberChar)
    | .error e => .error e
  else if c = '\'' ∨ c = '"' then
    match readQuoted? c rest with
    | some (text, rest) => .ok (.quoted (String.ofList text), rest)
    | none => .error .unterminatedText
  else if c = '$' then readColumn rest
  else if Text.isAlphabetic c then
    .ok (.word (String.ofList (c :: rest.takeWhile Text.isNameChar)),
      rest.dropWhile Text.isNameChar)
  else readSign c rest

theorem length_readQuoted {quote : Char} {cs text rest : List Char}
    (h : readQuoted? quote cs = some (text, rest)) : rest.length ≤ cs.length := by
  fun_induction readQuoted? quote cs generalizing text rest with
  | case1 => simp at h
  | case2 => simp at h
  | case3 c cs ih =>
    obtain ⟨⟨t, r⟩, ht, hr⟩ := Option.map_eq_some_iff.1 h
    cases hr
    have := ih ht
    simp; omega
  | case4 cs => cases h; simp
  | case5 c cs _ _ _ ih =>
    obtain ⟨⟨t, r⟩, ht, hr⟩ := Option.map_eq_some_iff.1 h
    cases hr
    have := ih ht
    simp; omega

theorem length_readColumn {cs rest : List Char} {token : Token}
    (h : readColumn cs = .ok (token, rest)) : rest.length ≤ cs.length := by
  have hdrop (l : List Char) : (l.dropWhile Text.isNameChar).length ≤ l.length :=
    (List.dropWhile_sublist _).length_le
  unfold readColumn at h
  split at h
  · next inner =>
    have := hdrop inner
    dsimp only at h
    split at h
    · simp at h
    · split at h
      · simp_all; omega
      · simp at h
  · dsimp only at h
    split at h
    · simp at h
    · simp only [Except.ok.injEq, Prod.mk.injEq] at h
      rw [← h.2]
      exact hdrop cs

theorem length_readSign {c : Char} {cs rest : List Char} {token : Token}
    (h : readSign c cs = .ok (token, rest)) : rest.length ≤ cs.length := by
  unfold readSign at h
  cases cs with
  | nil =>
    dsimp only at h
    split at h <;> simp_all
  | cons d ds =>
    dsimp only at h
    split at h
    · simp only [Except.ok.injEq, Prod.mk.injEq] at h
      simp [← h.2]
    · split at h <;> simp_all

theorem length_readToken {c : Char} {cs rest : List Char} {token : Token}
    (h : readToken c cs = .ok (token, rest)) : rest.length ≤ cs.length := by
  have hdrop (p : Char → Bool) (l : List Char) : (l.dropWhile p).length ≤ l.length :=
    (List.dropWhile_sublist _).length_le
  unfold readToken at h
  split at h
  · split at h
    · simp only [Except.ok.injEq, Prod.mk.injEq] at h
      rw [← h.2]
      exact hdrop _ _
    · simp at h
  · split at h
    · split at h
      · next _ _ hq =>
        simp only [Except.ok.injEq, Prod.mk.injEq] at h
        rw [← h.2]
        exact length_readQuoted hq
      · simp at h
    · split at h
      · exact length_readColumn h
      · split at h
        · simp only [Except.ok.injEq, Prod.mk.injEq] at h
          rw [← h.2]
          exact hdrop _ _
        · exact length_readSign h

/-- The tokens of a text. -/
def ofChars : List Char → Except FormulaError (List Token)
  | [] => .ok []
  | c :: cs =>
    if Text.isBlank c then ofChars cs
    else
      match h : readToken c cs with
      | .error e => .error e
      | .ok (token, rest) =>
        have := length_readToken h
        match ofChars rest with
        | .error e => .error e
        | .ok tokens => .ok (token :: tokens)
termination_by cs => cs.length

end Token

end SynthTable
