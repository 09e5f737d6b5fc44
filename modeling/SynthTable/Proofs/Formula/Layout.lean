import SynthTable.Proofs.Formula.Grammar
import SynthTable.Proofs.Number.Digits

/-!
# The text of tokens

Tokens can be written in many ways: with either quote, with or without braces, with any blanks
between them or none. However the tokens of an expression are written, the text is cut into these
tokens again (`ofChars_laid`), since what can come after a token in an expression is never read as
part of it.
-/

namespace SynthTable

open Reference

namespace Numeral

/-- Digits with at most one point among them. -/
inductive IsDecimal : List Char → Prop where
  | whole {ds} : ds ≠ [] → (∀ d ∈ ds, isDigit d = true) → IsDecimal ds
  | point {ds es} : ds ++ es ≠ [] → (∀ d ∈ ds, isDigit d = true) → (∀ d ∈ es, isDigit d = true) →
      IsDecimal (ds ++ '.' :: es)

theorem not_isDigit_point : isDigit '.' = false := by decide

theorem decimal?_whole {ds : List Char} (hne : ds ≠ []) (hds : ∀ d ∈ ds, isDigit d = true) :
    decimal? false ds = some (.ofDecimal false (value ds) 0) := by
  have hend : ∀ c ∈ ([] : List Char).head?, isDigit c = false := by simp
  obtain ⟨htake, hdrop⟩ := Text.takeWhile_run hds hend
  rw [List.append_nil] at htake hdrop
  simp [decimal?, htake, hdrop, hne, exponent?]

theorem decimal?_point {ds es : List Char} (hne : ds ++ es ≠ [])
    (hds : ∀ d ∈ ds, isDigit d = true) (hes : ∀ d ∈ es, isDigit d = true) :
    decimal? false (ds ++ '.' :: es) =
      some (.ofDecimal false (value (ds ++ es)) (-(es.length : Int))) := by
  have hpoint : ∀ c ∈ ('.' :: es).head?, isDigit c = false := by simp [not_isDigit_point]
  have hend : ∀ c ∈ ([] : List Char).head?, isDigit c = false := by simp
  obtain ⟨htake, hdrop⟩ := Text.takeWhile_run hds hpoint
  obtain ⟨htake', hdrop'⟩ := Text.takeWhile_run hes hend
  rw [List.append_nil] at htake' hdrop'
  have hsome : ¬ (ds = [] ∧ es = []) := by simpa using hne
  simp [decimal?, htake, hdrop, htake', hdrop', hsome, exponent?]

/-- A text that starts with a digit or a point has no sign and is not a number by name. -/
theorem double?_of_head {c : Char} {cs : List Char} (hc : isDigit c = true ∨ c = '.') :
    double? (c :: cs) = decimal? false (c :: cs) := by
  refine double?_of_sign (sign_of_head ?_) hc
  rintro _ ⟨⟩
  rcases hc with hc | rfl
  · exact ne_sign_of_isDigit hc
  · decide

theorem double?_whole {ds : List Char} (hne : ds ≠ []) (hds : ∀ d ∈ ds, isDigit d = true) :
    double? ds = some (.ofDecimal false (value ds) 0) := by
  obtain ⟨c, rest, rfl⟩ := List.exists_cons_of_ne_nil hne
  rw [double?_of_head (.inl (hds c List.mem_cons_self)), decimal?_whole hne hds]

/-- A decimal text begins a number, and is a number. -/
theorem IsDecimal.exists_double {cs : List Char} (h : IsDecimal cs) :
    ∃ x, double? cs = some x := by
  cases h with
  | whole hne hds => exact ⟨_, double?_whole hne hds⟩
  | @point ds es hne hds hes =>
    have hpoint := decimal?_point hne hds hes
    cases ds with
    | nil => exact ⟨_, (double?_of_head (.inr rfl)).trans hpoint⟩
    | cons c ds => exact ⟨_, (double?_of_head (.inl (hds c List.mem_cons_self))).trans hpoint⟩

end Numeral

namespace Token

/-! ## The text of one token -/

/-- A quoted text with backslashes in front of some characters, among them every backslash and
every quote of the kind around it, and the text without these backslashes. -/
inductive Escapes (quote : Char) : List Char → List Char → Prop where
  | nil : Escapes quote [] []
  | plain {c body text} : c ≠ quote → c ≠ '\\' → Escapes quote body text →
      Escapes quote (c :: body) (c :: text)
  | escaped {body text} (c : Char) : Escapes quote body text →
      Escapes quote ('\\' :: c :: body) (c :: text)

/-- The ways to write a token. -/
inductive Spells : Token → List Char → Prop where
  | number {cs x} : Numeral.IsDecimal cs → Numeral.double? cs = some x → Spells (.number x) cs
  | quoted {quote body text} : quote = '\'' ∨ quote = '"' → Escapes quote body text →
      Spells (.quoted (String.ofList text)) (quote :: (body ++ [quote]))
  | bare {name} : IsName name → Spells (.column (String.ofList name)) ('$' :: name)
  | braced {name} : IsName name →
      Spells (.column (String.ofList name)) ('$' :: '{' :: (name ++ ['}']))
  | truth (b : Bool) : Spells (.word (toString b)) (toString b).toList
  | op (o : BinaryOp) : Spells (.op o) o.symbol.toList
  | bang : Spells .bang ['!']
  | question : Spells .question ['?']
  | colon : Spells .colon [':']
  | leftParen : Spells .leftParen ['(']
  | rightParen : Spells .rightParen [')']

variable {quote : Char} {body text cs rest : List Char} {t : Token}

theorem readQuoted?_escapes (hquote : quote ≠ '\\') (h : Escapes quote body text) :
    readQuoted? quote (body ++ quote :: rest) = some (text, rest) := by
  induction h with
  | nil =>
    rw [List.nil_append, readQuoted?, if_pos rfl]
    · intro heq
      exact absurd heq hquote
    · intro _ _ heq
      exact absurd heq hquote
  | plain hne hescape _ ih =>
    rw [List.cons_append, readQuoted?, if_neg hne, ih]
    · rfl
    · intro heq
      exact absurd heq hescape
    · intro _ _ heq
      exact absurd heq hescape
  | escaped c _ ih =>
    rw [List.cons_append, List.cons_append, readQuoted?, ih]
    rfl

/-- The characters that would be read as part of a token if they came right after it. -/
def runsOn : Token → Char → Bool
  | .number _, c => isNumberChar c
  | .column _, c => Text.isNameChar c
  | .word _, c => Text.isNameChar c
  | .op .lt, c => c == '='
  | .op .gt, c => c == '='
  | .bang, c => c == '='
  | _, _ => false

theorem not_isBlank_of_isNumberChar {c : Char} (h : isNumberChar c = true) :
    Text.isBlank c = false := by
  simp only [isNumberChar, Bool.or_eq_true, beq_iff_eq] at h
  rcases h with hdigit | rfl
  · exact Numeral.not_isBlank_of_isDigit hdigit
  · decide

theorem starts_of_isDecimal (h : Numeral.IsDecimal cs) :
    (∀ c ∈ cs, isNumberChar c = true) ∧
      ∃ c ds, cs = c :: ds ∧ ∀ rest, startsNumber c (ds ++ rest) = true := by
  have hdigits {ds : List Char} (hds : ∀ d ∈ ds, Numeral.isDigit d = true) :
      ∀ d ∈ ds, isNumberChar d = true := fun d hd => by simp [isNumberChar, hds d hd]
  cases h with
  | whole hne hds =>
    obtain ⟨c, ds, rfl⟩ := List.exists_cons_of_ne_nil hne
    have hc := hds c List.mem_cons_self
    exact ⟨hdigits hds, c, ds, rfl, fun rest => by simp [startsNumber, hc]⟩
  | @point ds es hne hds hes =>
    refine ⟨fun c hc => ?_, ?_⟩
    · rcases List.mem_append.1 hc with hc | hc
      · exact hdigits hds c hc
      · rcases List.mem_cons.1 hc with rfl | hc
        · rfl
        · exact hdigits hes c hc
    · cases ds with
      | nil =>
        obtain ⟨e, es, rfl⟩ := List.exists_cons_of_ne_nil hne
        have he := hes e List.mem_cons_self
        exact ⟨_, _, rfl, fun rest => by simp [startsNumber, he]⟩
      | cons c ds =>
        have hc := hds c List.mem_cons_self
        exact ⟨_, _, rfl, fun rest => by simp [startsNumber, hc]⟩

/-- The characters that only an operator or a bracket can start with. -/
def isSign (c : Char) : Bool :=
  !isNumberChar c && !Text.isNameChar c && c != '\'' && c != '"' && c != '$'

theorem readToken_sign {c : Char} (h : isSign c = true) : readToken c rest = readSign c rest := by
  simp only [isSign, isNumberChar, Text.isNameChar, Bool.and_eq_true, Bool.not_eq_true',
    bne_iff_ne, Bool.or_eq_false_iff, beq_eq_false_iff_ne] at h
  obtain ⟨⟨⟨⟨⟨hdigit, hpoint⟩, ⟨hletter, -⟩, -⟩, hsingle⟩, hdouble⟩, hdollar⟩ := h
  have hnumber : startsNumber c rest = false := by simp [startsNumber, hdigit, hpoint]
  simp [readToken, hnumber, hsingle, hdouble, hdollar, hletter]

theorem readSign_pair {c d : Char} (h : pair? c d = some t) :
    readSign c (d :: rest) = .ok (t, rest) := by
  simp [readSign, h]

/-- A sign of one character is read alone unless the next one makes it another sign. -/
theorem readSign_single {c : Char} (h : single? c = some t)
    (hrest : ∀ d ∈ rest.head?, t.runsOn d = false) : readSign c rest = .ok (t, rest) := by
  have hpair {d : Char} (hd : t.runsOn d = false) : pair? c d = none := by
    unfold single? at h
    split at h <;> cases h <;> unfold pair? <;> split <;> simp_all [runsOn]
  cases rest with
  | nil => simp [readSign, h]
  | cons d rest => simp [readSign, h, hpair (hrest d rfl)]

theorem isSign_of_single? {c : Char} (h : single? c = some t) :
    isSign c = true ∧ Text.isBlank c = false := by
  unfold single? at h
  split at h <;> cases h <;> decide +kernel

theorem isSign_of_pair? {c d : Char} (h : pair? c d = some t) :
    isSign c = true ∧ Text.isBlank c = false := by
  unfold pair? at h
  split at h <;> cases h <;> decide +kernel

theorem ofList_ne_empty {name : List Char} (h : name ≠ []) : String.ofList name ≠ "" := by
  intro hempty
  apply h
  rw [← String.toList_ofList (l := name), hempty]
  rfl

theorem readColumn_bare {name : List Char} (hname : IsName name)
    (hrest : ∀ c ∈ rest.head?, Text.isNameChar c = false) :
    readColumn (name ++ rest) = .ok (.column (String.ofList name), rest) := by
  obtain ⟨htake, hdrop⟩ := Text.takeWhile_run hname.2 hrest
  unfold readColumn
  split
  · next inner hbrace =>
    obtain ⟨c, name, rfl⟩ := List.exists_cons_of_ne_nil hname.1
    have hc := hname.2 c List.mem_cons_self
    rw [(List.cons.inj hbrace).1, not_isNameChar_brace (.inl rfl)] at hc
    cases hc
  · rw [htake, hdrop]
    exact if_neg (ofList_ne_empty hname.1)

theorem readColumn_braced {name : List Char} (hname : IsName name) :
    readColumn ('{' :: (name ++ '}' :: rest)) = .ok (.column (String.ofList name), rest) := by
  have hstop : ∀ c ∈ ('}' :: rest).head?, Text.isNameChar c = false := by
    rintro c ⟨⟩
    exact not_isNameChar_brace (.inr rfl)
  obtain ⟨htake, hdrop⟩ := Text.takeWhile_run hname.2 hstop
  simp only [readColumn, htake, hdrop]
  exact if_neg (ofList_ne_empty hname.1)

theorem readToken_dollar : readToken '$' cs = readColumn cs := by
  have hnumber : startsNumber '$' cs = false := rfl
  simp [readToken, hnumber]

theorem readToken_quote (hquote : quote = '\'' ∨ quote = '"') (h : Escapes quote body text) :
    readToken quote (body ++ quote :: rest) = .ok (.quoted (String.ofList text), rest) := by
  have hescape : quote ≠ '\\' := by
    rcases hquote with rfl | rfl <;> decide
  have hnumber : startsNumber quote (body ++ quote :: rest) = false := by
    rcases hquote with rfl | rfl <;> rfl
  rw [readToken, if_neg (by simp [hnumber]), if_pos hquote, readQuoted?_escapes hescape h]

theorem readToken_number {x : Double} (h : Numeral.IsDecimal cs)
    (hvalue : Numeral.double? cs = some x) (hrest : ∀ d ∈ rest.head?, isNumberChar d = false) :
    ∃ c ds, cs = c :: ds ∧ Text.isBlank c = false ∧
      readToken c (ds ++ rest) = .ok (.number x, rest) := by
  obtain ⟨hall, c, ds, rfl, hstarts⟩ := starts_of_isDecimal h
  obtain ⟨htake, -⟩ := Text.takeWhile_run hall hrest
  obtain ⟨-, hdrop⟩ := Text.takeWhile_run (fun d hd => hall d (List.mem_cons_of_mem _ hd)) hrest
  have hnumber : readNumber (c :: (ds ++ rest)) = .ok (.number x) := by
    rw [← List.cons_append]
    simp only [readNumber, htake, hvalue]
  refine ⟨c, ds, rfl, not_isBlank_of_isNumberChar (hall c List.mem_cons_self), ?_⟩
  rw [readToken, if_pos (hstarts rest), hnumber, hdrop]

theorem readToken_word {c : Char} {run : List Char} (hletter : Text.isAlphabetic c = true)
    (hdigit : isNumberChar c = false) (hrun : ∀ d ∈ run, Text.isNameChar d = true)
    (hrest : ∀ d ∈ rest.head?, Text.isNameChar d = false) :
    readToken c (run ++ rest) = .ok (.word (String.ofList (c :: run)), rest) := by
  obtain ⟨htake, hdrop⟩ := Text.takeWhile_run hrun hrest
  have hnumber : ¬ startsNumber c (run ++ rest) = true := by
    intro hstarts
    rw [isNumberChar_of_startsNumber hstarts] at hdigit
    cases hdigit
  have hplain {d : Char} (hd : Text.isAlphabetic d = false) : c ≠ d := by
    rintro rfl
    rw [hletter] at hd
    cases hd
  have hquote : ¬ (c = '\'' ∨ c = '"') :=
    not_or.2 ⟨hplain (by decide +kernel), hplain (by decide +kernel)⟩
  rw [readToken, if_neg hnumber, if_neg hquote, if_neg (hplain (by decide +kernel)), if_pos hletter,
    htake, hdrop]

/-- A token is read back from its text, whatever follows that is not read as part of it. -/
theorem readToken_spells (h : Spells t cs) (hrest : ∀ d ∈ rest.head?, t.runsOn d = false) :
    ∃ c ds, cs = c :: ds ∧ Text.isBlank c = false ∧ readToken c (ds ++ rest) = .ok (t, rest) := by
  have single {c : Char} (hsingle : single? c = some t) :
      ∃ c' ds, [c] = c' :: ds ∧ Text.isBlank c' = false ∧
        readToken c' (ds ++ rest) = .ok (t, rest) := by
    obtain ⟨hsign, hblank⟩ := isSign_of_single? hsingle
    exact ⟨c, [], rfl, hblank, (readToken_sign hsign).trans (readSign_single hsingle hrest)⟩
  have pair {c d : Char} (hpair : pair? c d = some t) :
      ∃ c' ds, [c, d] = c' :: ds ∧ Text.isBlank c' = false ∧
        readToken c' (ds ++ rest) = .ok (t, rest) := by
    obtain ⟨hsign, hblank⟩ := isSign_of_pair? hpair
    exact ⟨c, [d], rfl, hblank, (readToken_sign hsign).trans (readSign_pair hpair)⟩
  cases h with
  | number hdecimal hvalue => exact readToken_number hdecimal hvalue hrest
  | @quoted quote body text hquote hescapes =>
    refine ⟨quote, body ++ [quote], rfl, ?_, ?_⟩
    · rcases hquote with rfl | rfl <;> decide
    · rw [List.append_assoc]
      exact readToken_quote hquote hescapes
  | @bare name hname =>
    exact ⟨'$', name, rfl, by decide, readToken_dollar.trans (readColumn_bare hname hrest)⟩
  | @braced name hname =>
    refine ⟨'$', '{' :: (name ++ ['}']), rfl, by decide, readToken_dollar.trans ?_⟩
    rw [List.cons_append, List.append_assoc]
    exact readColumn_braced hname
  | truth b =>
    cases b with
    | false =>
      exact ⟨'f', "alse".toList, rfl, by decide,
        readToken_word (by decide +kernel) rfl (List.all_eq_true.1 (by decide +kernel)) hrest⟩
    | true =>
      exact ⟨'t', "rue".toList, rfl, by decide,
        readToken_word (by decide +kernel) rfl (List.all_eq_true.1 (by decide +kernel)) hrest⟩
  | op o =>
    cases o with
    | or | and | eq | ne | le | ge => exact pair rfl
    | lt | gt | add | sub | mul | div | rem => exact single rfl
  | bang | question | colon | leftParen | rightParen => exact single rfl

/-! ## The text of many tokens -/

/-- The tokens that can start an operand. -/
def opens : Token → Bool
  | .number _ | .quoted _ | .column _ | .word _ | .op .sub | .bang | .leftParen => true
  | _ => false

/-- The tokens that can end an operand. -/
def closes : Token → Bool
  | .number _ | .quoted _ | .column _ | .word _ | .rightParen => true
  | _ => false

/-- The tokens that can follow an operand. -/
def joins : Token → Bool
  | .op _ | .question | .colon | .rightParen => true
  | _ => false

/-- Operands and what joins them take turns; `after` says whether an operand has just ended. -/
def Flows : (after : Bool) → List Token → Prop
  | _, [] => True
  | after, t :: ts => (if after then t.joins else t.opens) = true ∧ Flows t.closes ts

/-- Tokens one after another in a text, with blanks before each of them and at the end. The blanks
may be missing. -/
inductive Laid : List Token → List Char → Prop where
  | nil {gap} : (∀ c ∈ gap, Text.isBlank c = true) → Laid [] gap
  | cons {t ts gap cs more} : (∀ c ∈ gap, Text.isBlank c = true) → Spells t cs → Laid ts more →
      Laid (t :: ts) (gap ++ (cs ++ more))

theorem isBlank_space : ∀ c ∈ [' '], Text.isBlank c = true :=
  List.forall_mem_singleton.2 (by decide)

theorem ofChars_blanks {gap : List Char} (h : ∀ c ∈ gap, Text.isBlank c = true) :
    ofChars (gap ++ cs) = ofChars cs := by
  induction gap with
  | nil => rfl
  | cons c gap ih =>
    rw [List.cons_append, ofChars, if_pos (h c List.mem_cons_self)]
    exact ih fun d hd => h d (List.mem_cons_of_mem _ hd)

theorem ofChars_token {c : Char} {ts : List Token} (hblank : Text.isBlank c = false)
    (hread : readToken c cs = .ok (t, rest)) (hrest : ofChars rest = .ok ts) :
    ofChars (c :: cs) = .ok (t :: ts) := by
  unfold ofChars
  rw [if_neg (by simp [hblank])]
  split
  · next e heq =>
    rw [hread] at heq
    cases heq
  · next t' rest' heq =>
    rw [hread] at heq
    cases heq
    rw [hrest]

section

variable {u : Token} {ts : List Token} {d : Char} {more : List Char} {after : Bool}

theorem not_runsOn_of_isBlank (h : Text.isBlank d = true) : t.runsOn d = false := by
  have hname := not_isNameChar_of_isBlank h
  have hnumber : isNumberChar d = false := by
    by_contra hnumber
    rw [not_isBlank_of_isNumberChar (by simpa using hnumber)] at h
    cases h
  have hequals : (d == '=') = false := by
    rw [beq_eq_false_iff_ne]
    rintro rfl
    cases h
  unfold runsOn
  split <;> first | assumption | rfl

theorem isSign_of_joins (hjoins : u.joins = true) (h : Spells u (d :: cs)) : isSign d = true := by
  generalize htext : d :: cs = text at h
  cases h with
  | op o =>
    cases o <;> cases htext <;> decide +kernel
  | question | colon | rightParen =>
    cases htext
    decide +kernel
  | _ => cases hjoins

theorem ne_equals_of_opens (hopens : u.opens = true) (h : Spells u (d :: cs)) : d ≠ '=' := by
  rintro rfl
  generalize htext : '=' :: cs = text at h
  cases h with
  | number hdecimal _ =>
    obtain ⟨hall, -⟩ := starts_of_isDecimal hdecimal
    exact absurd (hall '=' (by rw [← htext]; exact List.mem_cons_self)) (by decide)
  | quoted hquote _ =>
    obtain ⟨rfl, -⟩ := List.cons.inj htext
    exact absurd hquote (by decide)
  | op o =>
    cases o <;> cases hopens
    exact absurd (List.cons.inj htext).1 (by decide)
  | truth b => cases b <;> cases htext
  | bare | braced | bang | leftParen => cases htext
  | _ => cases hopens

/-- What may come next is not read as part of the token before it. -/
theorem not_runsOn_of_spells (hflow : (if t.closes then u.joins else u.opens) = true)
    (h : Spells u (d :: cs)) : t.runsOn d = false := by
  by_cases hcloses : t.closes = true
  · rw [if_pos hcloses] at hflow
    have hsign := isSign_of_joins hflow h
    simp only [isSign, Bool.and_eq_true, Bool.not_eq_true'] at hsign
    obtain ⟨⟨⟨⟨hnumber, hname⟩, -⟩, -⟩, -⟩ := hsign
    unfold closes at hcloses
    split at hcloses <;> first | assumption | rfl | cases hcloses
  · rw [if_neg hcloses] at hflow
    have hequals : (d == '=') = false := beq_eq_false_iff_ne.2 (ne_equals_of_opens hflow h)
    unfold runsOn
    split <;> first | exact absurd rfl hcloses | assumption | rfl

theorem not_runsOn_of_laid (hflows : Flows t.closes ts) (h : Laid ts text) :
    ∀ d ∈ text.head?, t.runsOn d = false := by
  intro d hd
  cases h with
  | nil hgap => exact not_runsOn_of_isBlank (hgap d (List.mem_of_mem_head? hd))
  | @cons u ts gap cs more hgap hspells hlaid =>
    cases gap with
    | cons c gap =>
      cases hd
      exact not_runsOn_of_isBlank (hgap d List.mem_cons_self)
    | nil =>
      have hend : ∀ d ∈ ([] : List Char).head?, u.runsOn d = false := by simp
      obtain ⟨c, ds, rfl, -⟩ := readToken_spells hspells hend
      cases hd
      exact not_runsOn_of_spells hflows.1 hspells

/-- The text of tokens that take turns is cut into these tokens. -/
theorem ofChars_laid (hflows : Flows after ts) (h : Laid ts text) : ofChars text = .ok ts := by
  induction h generalizing after with
  | @nil gap hgap =>
    rw [← List.append_nil gap, ofChars_blanks hgap, ofChars]
  | cons hgap hspells hlaid ih =>
    obtain ⟨c, ds, rfl, hblank, hread⟩ :=
      readToken_spells hspells (not_runsOn_of_laid hflows.2 hlaid)
    rw [ofChars_blanks hgap]
    exact ofChars_token hblank hread (ih hflows.2)

end

end Token

end SynthTable
