import SynthTable.Formula.Scalar
import SynthTable.Formula.Token

/-!
# Expressions

The tree of a formula, and how it is read from tokens. Binary operators of one precedence bind to
the left, the conditional operator binds to the right and more loosely than all others, signs bind
most tightly. Each reader gives the tokens it has left, fewer than it was given.
-/

namespace SynthTable

/-- An expression over columns. -/
inductive Expr where
  | literal (value : Scalar)
  | column (name : String)
  | neg (operand : Expr)
  | not (operand : Expr)
  | binary (op : BinaryOp) (left right : Expr)
  | conditional (condition yes no : Expr)
  deriving DecidableEq

namespace Expr

/-- An expression and the tokens after it, fewer than `ts`. -/
abbrev Read (ts : List Token) := { r : Expr × List Token // r.2.length < ts.length }

/-- The tokens after `wanted`. -/
def expect (wanted : Token) (ts : List Token) :
    Except FormulaError { rest : List Token // rest.length < ts.length } :=
  match ts with
  | [] => .error (.expectedAtEnd wanted)
  | t :: rest => if t = wanted then .ok ⟨rest, by simp⟩ else .error (.expected wanted t)

mutual

/-- Reads a whole expression: an operand, or a condition and two expressions. -/
def read (ts : List Token) : Except FormulaError (Read ts) :=
  match readBinary 1 ts with
  | .error e => .error e
  | .ok ⟨(condition, rest), h⟩ =>
    match hrest : rest with
    | .question :: rest1 =>
      have : rest1.length < ts.length := by simp at h; omega
      match read rest1 with
      | .error e => .error e
      | .ok ⟨(yes, rest2), h2⟩ =>
        match expect .colon rest2 with
        | .error e => .error e
        | .ok ⟨rest3, h3⟩ =>
          have : rest3.length < ts.length := by simp at h h2; omega
          match read rest3 with
          | .error e => .error e
          | .ok ⟨(no, rest4), h4⟩ =>
            .ok ⟨(.conditional condition yes no, rest4), by simp at h4 ⊢; omega⟩
    | _ => .ok ⟨(condition, rest), by rw [hrest]; exact h⟩
termination_by (ts.length, 3)

/-- Reads operands joined by operators of at least the precedence `least`. -/
def readBinary (least : Nat) (ts : List Token) : Except FormulaError (Read ts) :=
  match readSigned ts with
  | .error e => .error e
  | .ok ⟨(left, rest), h⟩ =>
    match extend least left rest with
    | .error e => .error e
    | .ok ⟨r, h2⟩ => .ok ⟨r, by simp at h; omega⟩
termination_by (ts.length, 2)

/-- Goes on after an operand: as long as an operator of at least the precedence `least` follows,
what has been read is its left operand. -/
def extend (least : Nat) (left : Expr) (ts : List Token) :
    Except FormulaError { r : Expr × List Token // r.2.length ≤ ts.length } :=
  match ts with
  | .op o :: rest =>
    if o.precedence < least then .ok ⟨(left, .op o :: rest), by simp⟩
    else
      match readBinary (o.precedence + 1) rest with
      | .error e => .error e
      | .ok ⟨(right, rest2), h⟩ =>
        have : rest2.length < rest.length := h
        match extend least (.binary o left right) rest2 with
        | .error e => .error e
        | .ok ⟨r, h2⟩ => .ok ⟨r, by simp at h ⊢; omega⟩
  | ts => .ok ⟨(left, ts), by simp⟩
termination_by (ts.length, 2)

/-- Reads an operand with the signs in front of it. -/
def readSigned (ts : List Token) : Except FormulaError (Read ts) :=
  match ts with
  | .op .sub :: rest =>
    match readSigned rest with
    | .error e => .error e
    | .ok ⟨(operand, rest2), h⟩ => .ok ⟨(.neg operand, rest2), by simp at h ⊢; omega⟩
  | .bang :: rest =>
    match readSigned rest with
    | .error e => .error e
    | .ok ⟨(operand, rest2), h⟩ => .ok ⟨(.not operand, rest2), by simp at h ⊢; omega⟩
  | ts => readOperand ts
termination_by (ts.length, 1)

/-- Reads a literal, a column or an expression in brackets. -/
def readOperand (ts : List Token) : Except FormulaError (Read ts) :=
  match ts with
  | .number x :: rest => .ok ⟨(.literal (.number x), rest), by simp⟩
  | .quoted text :: rest => .ok ⟨(.literal (.text text), rest), by simp⟩
  | .column name :: rest => .ok ⟨(.column name, rest), by simp⟩
  | .word text :: rest =>
    if text = "true" then .ok ⟨(.literal (.bool true), rest), by simp⟩
    else if text = "false" then .ok ⟨(.literal (.bool false), rest), by simp⟩
    else .error (.unknownWord text)
  | .leftParen :: rest =>
    match read rest with
    | .error e => .error e
    | .ok ⟨(inner, rest2), h⟩ =>
      match expect .rightParen rest2 with
      | .error e => .error e
      | .ok ⟨rest3, h3⟩ => .ok ⟨(inner, rest3), by simp at h ⊢; omega⟩
  | t :: _ => .error (.unexpectedToken t)
  | [] => .error .unexpectedEnd
termination_by (ts.length, 0)

end

/-- The expression of some tokens. -/
def ofTokens (ts : List Token) : Except FormulaError Expr :=
  match ts with
  | [] => .error .empty
  | ts =>
    match read ts with
    | .error e => .error e
    | .ok ⟨(e, []), _⟩ => .ok e
    | .ok ⟨(_, t :: _), _⟩ => .error (.trailing t)

/-- The expression of a text. -/
def ofText (source : String) : Except FormulaError Expr :=
  match Token.ofChars source.toList with
  | .error e => .error e
  | .ok ts => ofTokens ts

end Expr

end SynthTable
