import SynthTable.Proofs.Formula.Columns

/-!
# The grammar of formulas

Tokens derive an expression at a level: 0 is a whole expression with the conditional operator, 1 to
6 are the precedences of the binary operators, 7 is an operand with its signs and 8 an operand
alone. The readers accept what the grammar derives and nothing else (`ofTokens_eq_ok_iff`): each
reader consumes tokens that derive its result (`derives_of_read`), and what follows a derivation
never changes how it is read, as long as it could not belong to it (`reads_of_derives`).
-/

namespace SynthTable.Expr

/-- Tokens that write an expression, at the level at which they can stand. The left operand of an
operator stands at its precedence and the right one above it, so operators bind to the left; the
last branch of a conditional stands at the level of a conditional, which binds to the right. -/
inductive Derives : Nat → List Token → Expr → Prop where
  | number (x : Double) : Derives 8 [.number x] (.literal (.number x))
  | quoted (text : String) : Derives 8 [.quoted text] (.literal (.text text))
  | truth (b : Bool) : Derives 8 [.word (toString b)] (.literal (.bool b))
  | column (name : String) : Derives 8 [.column name] (.column name)
  | paren {ts e} : Derives 0 ts e → Derives 8 (.leftParen :: (ts ++ [.rightParen])) e
  | neg {ts e} : Derives 7 ts e → Derives 7 (.op .sub :: ts) (.neg e)
  | not {ts e} : Derives 7 ts e → Derives 7 (.bang :: ts) (.not e)
  | binary {xs ys left right} (o : BinaryOp) : Derives o.precedence xs left →
      Derives (o.precedence + 1) ys right → Derives o.precedence (xs ++ .op o :: ys)
        (.binary o left right)
  | conditional {ts us vs condition yes no} : Derives 1 ts condition → Derives 0 us yes →
      Derives 0 vs no →
        Derives 0 (ts ++ .question :: (us ++ .colon :: vs)) (.conditional condition yes no)
  | looser {n ts e} : Derives (n + 1) ts e → Derives n ts e

variable {n m least : Nat} {ts rest : List Token} {e e' : Expr}

theorem Derives.of_le (h : Derives n ts e) (hle : m ≤ n) : Derives m ts e := by
  induction hle with
  | refl => exact h
  | step _ ih => exact ih h.looser

theorem Derives.ne_nil (h : Derives n ts e) : ts ≠ [] := by
  induction h with
  | looser _ ih => exact ih
  | _ => simp

/-- The tokens do not go on with an operator that binds as tightly as `least`. -/
def Stops (least : Nat) (ts : List Token) : Prop :=
  ∀ o rest, ts = .op o :: rest → o.precedence < least

theorem Stops.mono (h : Stops least ts) (hle : least ≤ m) : Stops m ts :=
  fun o rest heq => (h o rest heq).trans_le hle

theorem stops_nil : Stops least [] := by
  intro o rest heq
  cases heq

theorem stops_op {o : BinaryOp} (h : o.precedence < least) : Stops least (.op o :: rest) := by
  intro o' rest' heq
  cases heq
  exact h

theorem precedence_pos (o : BinaryOp) : 0 < o.precedence := by
  cases o <;> decide

theorem precedence_le (o : BinaryOp) : o.precedence ≤ 6 := by
  cases o <;> decide

theorem stops_signed (ts : List Token) : Stops 7 ts :=
  fun o _ _ => Nat.lt_succ_of_le (precedence_le o)

/-- No operator and no question mark follows. -/
def Ends (ts : List Token) : Prop := Stops 0 ts ∧ ∀ rest, ts ≠ .question :: rest

theorem ends_nil : Ends [] := ⟨stops_nil, fun _ heq => by cases heq⟩

theorem ends_cons {t : Token} (hop : ∀ o, t ≠ .op o) (hquestion : t ≠ .question) :
    Ends (t :: rest) := by
  refine ⟨fun o rest' heq => ?_, fun rest' heq => hquestion (List.cons.inj heq).1⟩
  exact absurd (List.cons.inj heq).1 (hop o)

/-! ## What is read is derived -/

theorem eq_of_expect {wanted : Token} {r : { rest : List Token // rest.length < ts.length }}
    (h : expect wanted ts = .ok r) : ts = wanted :: r.1 := by
  unfold expect at h
  split at h
  · cases h
  · split at h
    · next ht =>
      cases h
      rw [ht]
    · cases h

mutual

theorem derives_of_read {ts : List Token} {r : Read ts} (h : read ts = .ok r) :
    ∃ pre, ts = pre ++ r.1.2 ∧ Derives 0 pre r.1.1 := by
  obtain ⟨c, hcondition, hr | ⟨rest, yes, colon, no, hrest, hyes, hcolon, hno, hr⟩⟩ := read_cases h
  · obtain ⟨pre, hpre, hderives, -⟩ := derives_of_readBinary hcondition (by decide)
    rw [hr]
    exact ⟨pre, hpre, hderives.looser⟩
  · have hlt : rest.length < ts.length := by
      have hc := c.2
      rw [hrest] at hc
      exact Nat.lt_of_succ_lt hc
    have hltno : colon.1.length < ts.length := colon.2.trans (yes.2.trans hlt)
    obtain ⟨pre, hpre, hderivesCond, -⟩ := derives_of_readBinary hcondition (by decide)
    obtain ⟨us, hus, hderivesYes⟩ := derives_of_read hyes
    obtain ⟨vs, hvs, hderivesNo⟩ := derives_of_read hno
    refine ⟨pre ++ .question :: (us ++ .colon :: vs), ?_, ?_⟩
    · calc
        ts = pre ++ .question :: rest := by rw [← hrest]; exact hpre
        _ = pre ++ .question :: (us ++ .colon :: colon.1) := by rw [← eq_of_expect hcolon, ← hus]
        _ = pre ++ .question :: (us ++ .colon :: vs) ++ r.1.2 := by simp [hr, ← hvs]
    · rw [hr]
      exact .conditional hderivesCond hderivesYes hderivesNo
termination_by (ts.length, 3)

theorem derives_of_readBinary {least : Nat} {ts : List Token} {r : Read ts}
    (h : readBinary least ts = .ok r) (hleast : least ≤ 7) :
    ∃ pre, ts = pre ++ r.1.2 ∧ Derives least pre r.1.1 ∧ Stops least r.1.2 := by
  obtain ⟨left, whole, hleft, hwhole, hr⟩ := readBinary_cases h
  have hlt := left.2
  obtain ⟨pre, hpre, hderives⟩ := derives_of_readSigned hleft
  obtain ⟨mid, hmid, hmore, hstops⟩ :=
    derives_of_extend hwhole hderives hleast ((stops_signed _).mono (Nat.le_succ 7))
  rw [hr]
  refine ⟨pre ++ mid, ?_, hmore, hstops⟩
  rw [List.append_assoc, ← hmid]
  exact hpre
termination_by (ts.length, 2)

/-- The left operand was read up to an operator that it cannot hold, so it may stand to the left
of that operator. -/
theorem derives_of_extend {least n : Nat} {left : Expr} {pre ts : List Token}
    {r : { r : Expr × List Token // r.2.length ≤ ts.length }} (h : extend least left ts = .ok r)
    (hleft : Derives n pre left) (hle : least ≤ n) (hstops : Stops (n + 1) ts) :
    ∃ mid, ts = mid ++ r.1.2 ∧ Derives least (pre ++ mid) r.1.1 ∧ Stops least r.1.2 := by
  obtain ⟨hr, hend⟩ | ⟨o, rest, right, whole, rfl, hprecedence, hright, hwhole, hr⟩ :=
    extend_cases h
  · rw [hr]
    refine ⟨[], rfl, ?_, hend⟩
    rw [List.append_nil]
    exact hleft.of_le hle
  · have hlt : right.1.2.length < (Token.op o :: rest).length := Nat.lt_succ_of_lt right.2
    have hon : o.precedence ≤ n := Nat.le_of_lt_succ (hstops o rest rfl)
    obtain ⟨ys, hys, hderives, hnext⟩ :=
      derives_of_readBinary hright (Nat.succ_le_succ (precedence_le o))
    obtain ⟨mid, hmid, hmore, hend⟩ :=
      derives_of_extend hwhole (.binary o (hleft.of_le hon) hderives) hprecedence hnext
    rw [hr]
    refine ⟨.op o :: ys ++ mid, ?_, ?_, hend⟩
    · rw [List.append_assoc, ← hmid, List.cons_append, ← hys]
    · rw [← List.append_assoc]
      exact hmore
termination_by (ts.length, 2)

theorem derives_of_readSigned {ts : List Token} {r : Read ts} (h : readSigned ts = .ok r) :
    ∃ pre, ts = pre ++ r.1.2 ∧ Derives 7 pre r.1.1 := by
  unfold readSigned at h
  split at h
  · split at h
    · cases h
    · next rest operand rest2 hlt hread =>
      obtain ⟨pre, hpre, hderives⟩ := derives_of_readSigned hread
      cases h
      exact ⟨.op .sub :: pre, congrArg _ hpre, hderives.neg⟩
  · split at h
    · cases h
    · next rest operand rest2 hlt hread =>
      obtain ⟨pre, hpre, hderives⟩ := derives_of_readSigned hread
      cases h
      exact ⟨.bang :: pre, congrArg _ hpre, hderives.not⟩
  · obtain ⟨pre, hpre, hderives⟩ := derives_of_readOperand h
    exact ⟨pre, hpre, hderives.looser⟩
termination_by (ts.length, 1)

theorem derives_of_readOperand {ts : List Token} {r : Read ts} (h : readOperand ts = .ok r) :
    ∃ pre, ts = pre ++ r.1.2 ∧ Derives 8 pre r.1.1 := by
  unfold readOperand at h
  split at h
  · cases h
    exact ⟨_, rfl, .number _⟩
  · cases h
    exact ⟨_, rfl, .quoted _⟩
  · cases h
    exact ⟨_, rfl, .column _⟩
  · split at h
    · next htrue =>
      cases h
      rw [htrue]
      exact ⟨_, rfl, .truth true⟩
    · split at h
      · next hfalse =>
        cases h
        rw [hfalse]
        exact ⟨_, rfl, .truth false⟩
      · cases h
  · split at h
    · cases h
    · next rest _ inner rest2 hlt hinner =>
      obtain ⟨pre, hpre, hderives⟩ := derives_of_read hinner
      split at h
      · cases h
      · next rest3 hlt3 hclose =>
        cases h
        refine ⟨.leftParen :: (pre ++ [.rightParen]), ?_, hderives.paren⟩
        calc
          Token.leftParen :: rest = .leftParen :: (pre ++ .rightParen :: rest3) := by
            rw [← eq_of_expect hclose]; exact congrArg _ hpre
          _ = .leftParen :: (pre ++ [.rightParen]) ++ rest3 := by simp
  · cases h
  · cases h
termination_by (ts.length, 0)

end

/-! ## What is derived is read -/

/-- A reader gives an expression and the tokens after it. -/
def Gives {P : Expr × List Token → Prop} (x : Except FormulaError (Subtype P)) (e : Expr)
    (rest : List Token) : Prop :=
  ∃ r, x = .ok r ∧ r.1 = (e, rest)

section

variable {left right operand condition yes no inner : Expr} {o : BinaryOp} {us vs : List Token}

theorem gives_operand_number (x : Double) :
    Gives (readOperand (.number x :: rest)) (.literal (.number x)) rest := by
  rw [readOperand]
  exact ⟨_, rfl, rfl⟩

theorem gives_operand_quoted (text : String) :
    Gives (readOperand (.quoted text :: rest)) (.literal (.text text)) rest := by
  rw [readOperand]
  exact ⟨_, rfl, rfl⟩

theorem gives_operand_column (name : String) :
    Gives (readOperand (.column name :: rest)) (.column name) rest := by
  rw [readOperand]
  exact ⟨_, rfl, rfl⟩

theorem gives_operand_truth (b : Bool) :
    Gives (readOperand (.word (toString b) :: rest)) (.literal (.bool b)) rest := by
  rw [readOperand]
  cases b <;> exact ⟨_, rfl, rfl⟩

theorem gives_operand_paren (h : Gives (read ts) inner (.rightParen :: rest)) :
    Gives (readOperand (.leftParen :: ts)) inner rest := by
  obtain ⟨⟨r, hlt⟩, hread, rfl⟩ := h
  rw [readOperand, hread]
  simp [expect, Gives]

theorem gives_signed_neg (h : Gives (readSigned ts) operand rest) :
    Gives (readSigned (.op .sub :: ts)) (.neg operand) rest := by
  obtain ⟨⟨r, hlt⟩, hread, rfl⟩ := h
  rw [readSigned, hread]
  exact ⟨_, rfl, rfl⟩

theorem gives_signed_not (h : Gives (readSigned ts) operand rest) :
    Gives (readSigned (.bang :: ts)) (.not operand) rest := by
  obtain ⟨⟨r, hlt⟩, hread, rfl⟩ := h
  rw [readSigned, hread]
  exact ⟨_, rfl, rfl⟩

theorem gives_signed_of_operand {t : Token} (hsub : t ≠ .op .sub) (hbang : t ≠ .bang)
    (h : Gives (readOperand (t :: ts)) operand rest) :
    Gives (readSigned (t :: ts)) operand rest := by
  obtain ⟨r, hread, hr⟩ := h
  refine ⟨r, ?_, hr⟩
  rw [readSigned, hread]
  · rintro _ ⟨⟩
    exact hsub rfl
  · rintro _ ⟨⟩
    exact hbang rfl

theorem gives_extend_stop (h : Stops least ts) : Gives (extend least left ts) left ts := by
  unfold extend
  split
  · next o rest =>
    rw [if_pos (h o rest rfl)]
    exact ⟨_, rfl, rfl⟩
  · exact ⟨_, rfl, rfl⟩

theorem gives_extend_op (hle : least ≤ o.precedence)
    (hright : Gives (readBinary (o.precedence + 1) ts) right us)
    (h : Gives (extend least (.binary o left right) us) e rest) :
    Gives (extend least left (.op o :: ts)) e rest := by
  obtain ⟨⟨r, hlt⟩, hread, rfl⟩ := hright
  obtain ⟨w, hextend, hw⟩ := h
  rw [extend, if_neg (Nat.not_lt.2 hle), hread]
  dsimp only
  rw [hextend]
  exact ⟨_, rfl, hw⟩

theorem gives_binary (hleft : Gives (readSigned ts) left us)
    (h : Gives (extend least left us) e rest) : Gives (readBinary least ts) e rest := by
  obtain ⟨⟨r, hlt⟩, hread, rfl⟩ := hleft
  obtain ⟨w, hextend, hw⟩ := h
  rw [readBinary, hread]
  dsimp only
  rw [hextend]
  exact ⟨_, rfl, hw⟩

theorem gives_read_plain (h : Gives (readBinary 1 ts) e rest)
    (hrest : ∀ us, rest ≠ .question :: us) : Gives (read ts) e rest := by
  obtain ⟨⟨r, hlt⟩, hread, rfl⟩ := h
  rw [read, hread]
  dsimp only
  split
  · next us _ _ => exact absurd rfl (hrest us)
  · exact ⟨_, rfl, rfl⟩

theorem gives_read_conditional (hcondition : Gives (readBinary 1 ts) condition (.question :: us))
    (hyes : Gives (read us) yes (.colon :: vs)) (hno : Gives (read vs) no rest) :
    Gives (read ts) (.conditional condition yes no) rest := by
  obtain ⟨⟨c, hltc⟩, hreadc, rfl⟩ := hcondition
  obtain ⟨⟨y, hlty⟩, hready, rfl⟩ := hyes
  obtain ⟨⟨n, hltn⟩, hreadn, rfl⟩ := hno
  rw [read, hreadc]
  dsimp only
  rw [hready]
  dsimp only [expect]
  rw [if_pos rfl]
  dsimp only
  rw [hreadn]
  exact ⟨_, rfl, rfl⟩

end

/-- Tokens are read as an expression, whatever follows: with their signs, as an operand of
operators, or as a whole. -/
structure Reads (n : Nat) (ts : List Token) (e : Expr) : Prop where
  signed : 7 ≤ n → ∀ rest, Gives (readSigned (ts ++ rest)) e rest
  /-- Reading goes on with what follows as if `e` had just been read. -/
  binary : 1 ≤ n → ∀ {least rest e' us}, least ≤ n → Stops (n + 1) rest →
    Gives (extend least e rest) e' us → Gives (readBinary least (ts ++ rest)) e' us
  whole : ∀ {rest}, Ends rest → Gives (read (ts ++ rest)) e rest

namespace Reads

theorem of_binary (hn : 1 ≤ n) (hsigned : 7 ≤ n → ∀ rest, Gives (readSigned (ts ++ rest)) e rest)
    (h : ∀ {least rest e' us}, least ≤ n → Stops (n + 1) rest →
      Gives (extend least e rest) e' us → Gives (readBinary least (ts ++ rest)) e' us) :
    Reads n ts e where
  signed := hsigned
  binary _ := h
  whole {rest} hends := by
    have hstop : Gives (extend 1 e rest) e rest :=
      gives_extend_stop (hends.1.mono (Nat.zero_le 1))
    exact gives_read_plain (h hn (hends.1.mono (Nat.zero_le _)) hstop) hends.2

theorem of_signed (hn : 1 ≤ n) (h : ∀ rest, Gives (readSigned (ts ++ rest)) e rest) :
    Reads n ts e :=
  of_binary hn (fun _ => h) fun _ _ hextend => gives_binary (h _) hextend

theorem of_operand {t : Token} (hsub : t ≠ .op .sub) (hbang : t ≠ .bang)
    (h : ∀ rest, Gives (readOperand (t :: ts ++ rest)) e rest) : Reads 8 (t :: ts) e :=
  of_signed (by decide) fun rest => gives_signed_of_operand hsub hbang (h rest)

end Reads

theorem reads_of_derives (h : Derives n ts e) : Reads n ts e := by
  induction h with
  | number x => exact .of_operand (by simp) (by simp) fun rest => gives_operand_number x
  | quoted text => exact .of_operand (by simp) (by simp) fun rest => gives_operand_quoted text
  | truth b => exact .of_operand (by simp) (by simp) fun rest => gives_operand_truth b
  | column name => exact .of_operand (by simp) (by simp) fun rest => gives_operand_column name
  | paren _ ih =>
    refine .of_operand (by simp) (by simp) fun rest => ?_
    rw [List.cons_append, List.append_assoc]
    exact gives_operand_paren (ih.whole (ends_cons (by simp) (by simp)))
  | neg _ ih => exact .of_signed (by decide) fun rest => gives_signed_neg (ih.signed le_rfl rest)
  | not _ ih => exact .of_signed (by decide) fun rest => gives_signed_not (ih.signed le_rfl rest)
  | @binary xs ys left right o _ _ ihl ihr =>
    refine .of_binary (precedence_pos o) ?_ ?_
    · intro h7
      exact absurd h7 (Nat.not_le.2 (Nat.lt_succ_of_le (precedence_le o)))
    · intro least rest e' us hle hstops hextend
      have hright : Gives (readBinary (o.precedence + 1) (ys ++ rest)) right rest :=
        ihr.binary (Nat.succ_pos _) le_rfl (hstops.mono (Nat.le_succ _)) (gives_extend_stop hstops)
      have hafter : Gives (extend least left (.op o :: (ys ++ rest))) e' us :=
        gives_extend_op hle hright hextend
      rw [List.append_assoc]
      exact ihl.binary (precedence_pos o) hle (stops_op (Nat.lt_succ_self _)) hafter
  | @conditional ts us vs condition yes no _ _ _ ihc ihy ihn =>
    refine ⟨fun h => by omega, fun h => by omega, fun {rest} hends => ?_⟩
    have hquestion : Stops 1 (.question :: (us ++ .colon :: (vs ++ rest))) := fun o rest' heq => by
      cases heq
    have hcondition : Gives (readBinary 1 (ts ++ .question :: (us ++ .colon :: (vs ++ rest))))
        condition (.question :: (us ++ .colon :: (vs ++ rest))) :=
      ihc.binary le_rfl le_rfl (hquestion.mono (Nat.le_succ 1)) (gives_extend_stop hquestion)
    have hread := gives_read_conditional hcondition
      (ihy.whole (ends_cons (by simp) (by simp))) (ihn.whole hends)
    rw [List.append_assoc, List.cons_append, List.append_assoc, List.cons_append]
    exact hread
  | @looser n ts e _ ih =>
    rcases Nat.eq_zero_or_pos n with rfl | hn
    · exact ⟨fun h => by omega, fun h => by omega, ih.whole⟩
    · exact .of_binary hn (fun h7 => ih.signed (h7.trans (Nat.le_succ n)))
        fun hle hstops => ih.binary (Nat.succ_pos n) (hle.trans (Nat.le_succ n))
          (hstops.mono (Nat.le_succ _))

/-! ## Whole formulas -/

/-- Tokens are read as an expression exactly when the grammar derives them from it. -/
theorem ofTokens_eq_ok_iff : ofTokens ts = .ok e ↔ Derives 0 ts e := by
  constructor
  · intro h
    unfold ofTokens at h
    split at h
    · cases h
    · split at h
      · cases h
      · next hread =>
        obtain ⟨pre, hpre, hderives⟩ := derives_of_read hread
        cases h
        rw [hpre, List.append_nil]
        exact hderives
      · cases h
  · intro h
    have hwhole : Gives (read (ts ++ [])) e [] := (reads_of_derives h).whole ends_nil
    rw [List.append_nil] at hwhole
    obtain ⟨⟨r, hlt⟩, hread, rfl⟩ := hwhole
    unfold ofTokens
    split
    · exact absurd rfl h.ne_nil
    · rw [hread]

/-- The grammar derives a list of tokens from one expression at most. -/
theorem Derives.unique (h : Derives 0 ts e) (h' : Derives 0 ts e') : e = e' := by
  have hread := ofTokens_eq_ok_iff.2 h
  rw [ofTokens_eq_ok_iff.2 h'] at hread
  cases hread
  rfl

/-- A text is a formula exactly when it has tokens that the grammar derives. -/
theorem ofText_eq_ok_iff {source : String} :
    ofText source = .ok e ↔ ∃ ts, Token.ofChars source.toList = .ok ts ∧ Derives 0 ts e := by
  unfold ofText
  split
  · next error htokens => simp [htokens]
  · next ts htokens => simp [htokens, ofTokens_eq_ok_iff]

end SynthTable.Expr
