import SynthTable.Proofs.Formula.Layout

/-!
# Writing formulas

An expression is written with brackets only where its operators do not bind tightly enough for
their place. Reading such a text gives the expression back (`ofText_laid`), whichever way its tokens
are written and however many blanks stand between them, and no list of tokens for it is shorter
(`length_tokens_le`).
-/

namespace SynthTable.Expr

open Token

/-- Tokens in brackets if they need them. -/
def bracketed (needed : Bool) (ts : List Token) : List Token :=
  if needed then .leftParen :: (ts ++ [.rightParen]) else ts

/-- The tokens of an expression that stands at a level. -/
def tokens : Nat → Expr → List Token
  | _, .literal (.number x) => [.number x]
  | _, .literal (.text s) => [.quoted s]
  | _, .literal (.bool b) => [.word (toString b)]
  | _, .column name => [.column name]
  | n, .neg operand => bracketed (7 < n) (.op .sub :: tokens 7 operand)
  | n, .not operand => bracketed (7 < n) (.bang :: tokens 7 operand)
  | n, .binary o left right =>
    bracketed (o.precedence < n)
      (tokens o.precedence left ++ .op o :: tokens (o.precedence + 1) right)
  | n, .conditional condition yes no =>
    bracketed (0 < n) (tokens 1 condition ++ .question :: (tokens 0 yes ++ .colon :: tokens 0 no))

/-- The expressions that can be written: their numbers are values of digits and their columns have
names. -/
def IsWritable : Expr → Prop
  | .literal (.number x) => ∃ cs, Numeral.IsDecimal cs ∧ Numeral.double? cs = some x
  | .literal _ => True
  | .column name => Reference.IsName name.toList
  | .neg operand => operand.IsWritable
  | .not operand => operand.IsWritable
  | .binary _ left right => left.IsWritable ∧ right.IsWritable
  | .conditional condition yes no => condition.IsWritable ∧ yes.IsWritable ∧ no.IsWritable

variable {n m : Nat} {ts rest : List Token} {e : Expr}

/-! ## The tokens derive the expression -/

theorem derives_bracketed (h : Derives m ts e) (hn : n ≤ 8) :
    Derives n (bracketed (m < n) ts) e := by
  by_cases hlt : m < n
  · have hparen := (h.of_le (Nat.zero_le m)).paren
    rw [bracketed, if_pos (by simpa using hlt)]
    exact hparen.of_le hn
  · rw [bracketed, if_neg (by simpa using hlt)]
    exact h.of_le (Nat.le_of_not_lt hlt)

theorem derives_tokens (e : Expr) (hn : n ≤ 8) : Derives n (tokens n e) e := by
  induction e generalizing n with
  | literal value =>
    cases value with
    | number x => exact (Derives.number x).of_le hn
    | text s => exact (Derives.quoted s).of_le hn
    | bool b => exact (Derives.truth b).of_le hn
  | column name => exact (Derives.column name).of_le hn
  | neg operand ih => exact derives_bracketed (ih (by decide)).neg hn
  | not operand ih => exact derives_bracketed (ih (by decide)).not hn
  | binary o left right ihl ihr =>
    have hle := precedence_le o
    exact derives_bracketed (.binary o (ihl (by omega)) (ihr (by omega))) hn
  | conditional condition yes no ihc ihy ihn =>
    exact derives_bracketed
      (.conditional (ihc (by decide)) (ihy (Nat.zero_le 8)) (ihn (Nat.zero_le 8))) hn

/-! ## No bracket is spare -/

theorem bracketed_self : bracketed (n < n) ts = ts := by
  simp [bracketed]

theorem length_bracketed_le (needed : Bool) (ts : List Token) :
    ts.length ≤ (bracketed needed ts).length ∧ (bracketed needed ts).length ≤ ts.length + 2 := by
  cases needed with
  | false => exact ⟨le_rfl, Nat.le_add_right _ 2⟩
  | true =>
    have hlength : (bracketed true ts).length = ts.length + 2 := by simp [bracketed]
    rw [hlength]
    exact ⟨Nat.le_add_right _ 2, le_rfl⟩

theorem length_bracketed_mono {k : Nat} (hle : n ≤ m) :
    (bracketed (k < n) ts).length ≤ (bracketed (k < m) ts).length := by
  by_cases hlt : k < n
  · rw [bracketed, bracketed, if_pos (by simpa using hlt), if_pos (by simpa using hlt.trans_le hle)]
  · rw [bracketed, if_neg (by simpa using hlt)]
    exact (length_bracketed_le _ ts).1

theorem length_tokens_mono (e : Expr) (hle : n ≤ m) :
    (tokens n e).length ≤ (tokens m e).length := by
  cases e with
  | literal value => cases value <;> exact le_rfl
  | column name => exact le_rfl
  | _ => exact length_bracketed_mono hle

theorem length_tokens_add_two (e : Expr) : (tokens n e).length ≤ (tokens m e).length + 2 := by
  have hbracketed (needed needed' : Bool) (ts : List Token) :
      (bracketed needed ts).length ≤ (bracketed needed' ts).length + 2 :=
    (length_bracketed_le needed ts).2.trans
      (Nat.add_le_add_right (length_bracketed_le needed' ts).1 2)
  cases e with
  | literal value => cases value <;> exact Nat.le_add_right 1 2
  | column name => exact Nat.le_add_right 1 2
  | _ => exact hbracketed _ _ _

/-- Every other list of tokens for an expression is at least as long. -/
theorem length_tokens_le (h : Derives n ts e) : (tokens n e).length ≤ ts.length := by
  induction h with
  | number | quoted | truth | column => exact le_rfl
  | @paren ts e _ ih =>
    have hmore := (length_tokens_add_two (n := 8) (m := 0) e).trans (Nat.add_le_add_right ih 2)
    simpa using hmore
  | neg _ ih =>
    rw [tokens, bracketed_self]
    exact Nat.succ_le_succ ih
  | not _ ih =>
    rw [tokens, bracketed_self]
    exact Nat.succ_le_succ ih
  | binary o _ _ ihl ihr =>
    rw [tokens, bracketed_self, List.length_append, List.length_append]
    exact Nat.add_le_add ihl (Nat.succ_le_succ ihr)
  | conditional _ _ _ ihc ihy ihn =>
    simp only [tokens, bracketed_self, List.length_append, List.length_cons]
    exact Nat.add_le_add ihc (Nat.succ_le_succ (Nat.add_le_add ihy (Nat.succ_le_succ ihn)))
  | looser _ ih => exact (length_tokens_mono _ (Nat.le_succ _)).trans ih

/-! ## The text of an expression -/

/-- In the tokens of an expression, operands and what joins them take turns. -/
theorem flows_of_derives (h : Derives n ts e) (hrest : Flows true rest) :
    Flows false (ts ++ rest) := by
  induction h generalizing rest with
  | number | quoted | truth | column => exact ⟨rfl, hrest⟩
  | @paren ts e _ ih =>
    rw [List.cons_append, List.append_assoc]
    exact ⟨rfl, ih ⟨rfl, hrest⟩⟩
  | neg _ ih => exact ⟨rfl, ih hrest⟩
  | not _ ih => exact ⟨rfl, ih hrest⟩
  | binary o _ _ ihl ihr =>
    rw [List.append_assoc]
    exact ihl ⟨rfl, ihr hrest⟩
  | conditional _ _ _ ihc ihy ihn =>
    rw [List.append_assoc, List.cons_append, List.append_assoc]
    exact ihc ⟨rfl, ihy ⟨rfl, ihn hrest⟩⟩
  | looser _ ih => exact ih hrest

/-- However the tokens of an expression are written, the text is read as this expression. -/
theorem ofText_laid {text : List Char} (h : Derives 0 ts e) (hlaid : Laid ts text) :
    ofText (String.ofList text) = .ok e := by
  have hend : Flows true [] := trivial
  have hflows := flows_of_derives h hend
  rw [List.append_nil] at hflows
  refine ofText_eq_ok_iff.2 ⟨ts, ?_, h⟩
  rw [String.toList_ofList]
  exact ofChars_laid hflows hlaid

/-- A text with a backslash in front of every quote and backslash. -/
def escape (quote : Char) (text : List Char) : List Char :=
  text.flatMap fun c => if c = quote ∨ c = '\\' then ['\\', c] else [c]

theorem escapes_escape (quote : Char) (text : List Char) :
    Escapes quote (escape quote text) text := by
  induction text with
  | nil => exact .nil
  | cons c text ih =>
    rw [escape, List.flatMap_cons]
    by_cases hc : c = quote ∨ c = '\\'
    · rw [if_pos hc]
      exact .escaped c ih
    · rw [if_neg hc]
      exact .plain (fun h => hc (.inl h)) (fun h => hc (.inr h)) ih

theorem exists_spells_bracketed {needed : Bool} (h : ∀ t ∈ ts, ∃ cs, Spells t cs) :
    ∀ t ∈ bracketed needed ts, ∃ cs, Spells t cs := by
  cases needed with
  | false => exact h
  | true =>
    intro t ht
    rcases List.mem_cons.1 ht with rfl | ht
    · exact ⟨_, .leftParen⟩
    · rcases List.mem_append.1 ht with ht | ht
      · exact h t ht
      · rw [List.mem_singleton.1 ht]
        exact ⟨_, .rightParen⟩

theorem exists_spells_of_isWritable (h : e.IsWritable) : ∀ t ∈ tokens n e, ∃ cs, Spells t cs := by
  induction e generalizing n with
  | literal value =>
    intro t ht
    cases value with
    | number x =>
      obtain ⟨cs, hdecimal, hvalue⟩ := h
      rw [List.mem_singleton.1 ht]
      exact ⟨cs, .number hdecimal hvalue⟩
    | text s =>
      rw [List.mem_singleton.1 ht, ← String.ofList_toList (s := s)]
      exact ⟨_, .quoted (.inl rfl) (escapes_escape _ _)⟩
    | bool b =>
      rw [List.mem_singleton.1 ht]
      exact ⟨_, .truth b⟩
  | column name =>
    intro t ht
    rw [List.mem_singleton.1 ht, ← String.ofList_toList (s := name)]
    exact ⟨_, .bare h⟩
  | neg operand ih =>
    exact exists_spells_bracketed (List.forall_mem_cons.2 ⟨⟨_, .op .sub⟩, ih h⟩)
  | not operand ih =>
    exact exists_spells_bracketed (List.forall_mem_cons.2 ⟨⟨_, .bang⟩, ih h⟩)
  | binary o left right ihl ihr =>
    refine exists_spells_bracketed (List.forall_mem_append.2 ⟨ihl h.1, ?_⟩)
    exact List.forall_mem_cons.2 ⟨⟨_, .op o⟩, ihr h.2⟩
  | conditional condition yes no ihc ihy ihn =>
    refine exists_spells_bracketed (List.forall_mem_append.2 ⟨ihc h.1, ?_⟩)
    refine List.forall_mem_cons.2 ⟨⟨_, .question⟩, List.forall_mem_append.2 ⟨ihy h.2.1, ?_⟩⟩
    exact List.forall_mem_cons.2 ⟨⟨_, .colon⟩, ihn h.2.2⟩

theorem exists_laid (h : ∀ t ∈ ts, ∃ cs, Spells t cs) : ∃ text, Laid ts text := by
  induction ts with
  | nil => exact ⟨[], .nil (by simp)⟩
  | cons t ts ih =>
    obtain ⟨cs, hspells⟩ := h t List.mem_cons_self
    obtain ⟨more, hlaid⟩ := ih fun u hu => h u (List.mem_cons_of_mem _ hu)
    exact ⟨[' '] ++ (cs ++ more), .cons isBlank_space hspells hlaid⟩

/-- A text is read as an expression exactly when its tokens derive it, and tokens derive no other.
An expression that can be written is read back from every text of its tokens. -/
theorem ofText_iff_derives :
    (∀ source e, ofText source = .ok e ↔
      ∃ ts, Token.ofChars source.toList = .ok ts ∧ Derives 0 ts e) ∧
    (∀ ts e e', Derives 0 ts e → Derives 0 ts e' → e = e') ∧
    (∀ cs, Numeral.IsDecimal cs → ∃ x, Numeral.double? cs = some x) ∧
    ∀ e : Expr, e.IsWritable →
      (∃ text, Laid (tokens 0 e) text) ∧
      (∀ text, Laid (tokens 0 e) text → ofText (String.ofList text) = .ok e) ∧
      Derives 0 (tokens 0 e) e ∧ ∀ ts, Derives 0 ts e → (tokens 0 e).length ≤ ts.length := by
  refine ⟨fun _ _ => ofText_eq_ok_iff, fun _ _ _ => Derives.unique,
    fun _ => Numeral.IsDecimal.exists_double, fun e hwritable => ?_⟩
  have hderives := derives_tokens e (Nat.zero_le 8)
  exact ⟨exists_laid (exists_spells_of_isWritable hwritable),
    fun _ hlaid => ofText_laid hderives hlaid, hderives, fun _ h => length_tokens_le h⟩

/-- In `-($a+ 2)*${b}` only the sum needs brackets. -/
theorem ofText_iff_derives_product :
    ofText "-($a+ 2)*$\x7bb\x7d" = .ok
      (.binary .mul (.neg (.binary .add (.column "a") (.literal (.number (.ofDecimal false 2 0)))))
        (.column "b")) := by
  have hdigit : ∀ d ∈ ['2'], Numeral.isDigit d = true := List.forall_mem_singleton.2 (by decide)
  have htwo : Numeral.double? ['2'] = some (.ofDecimal false 2 0) :=
    Numeral.double?_whole (by simp) hdigit
  have hdecimal : Numeral.IsDecimal ['2'] := .whole (by simp) hdigit
  have hname {c : Char} (hc : Text.isNameChar c = true) : Reference.IsName [c] :=
    ⟨by simp, by simpa using hc⟩
  have ha := hname (c := 'a') (by decide +kernel)
  have hb := hname (c := 'b') (by decide +kernel)
  have hnone : ∀ c ∈ ([] : List Char), Text.isBlank c = true := by simp
  obtain ⟨-, hread, -⟩ := ofText_iff_derives.2.2.2
    (.binary .mul (.neg (.binary .add (.column "a") (.literal (.number (.ofDecimal false 2 0)))))
      (.column "b"))
    (by exact ⟨⟨ha, _, hdecimal, htwo⟩, hb⟩)
  refine hread "-($a+ 2)*$\x7bb\x7d".toList ?_
  exact .cons hnone (.op .sub) <| .cons hnone .leftParen <| .cons hnone (.bare ha) <|
    .cons hnone (.op .add) <| .cons isBlank_space (.number hdecimal htwo) <| .cons hnone .rightParen <|
    .cons hnone (.op .mul) <| .cons hnone (.braced hb) <| .nil hnone

end SynthTable.Expr
