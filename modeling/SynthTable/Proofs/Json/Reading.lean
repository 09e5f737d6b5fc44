import SynthTable.Proofs.Json.Spelling
import SynthTable.Proofs.Text.Hex

/-!
# Every text of a JSON value is read back

The reader takes numbers, strings and containers off the front of a text, whatever follows, and
passes over the blanks between parts. So each text that spells a value is read as it
(`read?_of_spells`), which both writers' texts do (`ofText?_toText`, `ofText?_toIndentedText`).
-/

namespace SynthTable.Json

variable {rest : List Char} {fuel : Nat}

/-! ## What follows a value -/

/-- The text ends here, or goes on with a blank or with the end of a part. -/
def EndsHere (rest : List Char) : Prop :=
  ∀ c ∈ rest.head?, isSpace c = true ∨ c = ',' ∨ c = ']' ∨ c = '}'

theorem endsHere_nil : EndsHere [] := by
  intro c hc
  cases hc

/-- After blanks comes a comma or a closing bracket. -/
theorem endsHere_append {blank : List Char} {c : Char} (hblank : IsBlank blank)
    (hc : c = ',' ∨ c = ']' ∨ c = '}') (rest : List Char) : EndsHere (blank ++ c :: rest) := by
  intro d hd
  cases blank with
  | nil =>
    cases hd
    exact .inr hc
  | cons b more =>
    cases hd
    exact .inl (hblank d List.mem_cons_self)

theorem skipSpace_append {blank : List Char} {c : Char} (hblank : IsBlank blank)
    (hc : isSpace c = false) (rest : List Char) : skipSpace (blank ++ c :: rest) = c :: rest := by
  induction blank with
  | nil => rw [List.nil_append, skipSpace, List.dropWhile_cons_of_neg (by simp [hc])]
  | cons b more ih =>
    have hmore := ih fun d hd => hblank d (List.mem_cons_of_mem b hd)
    rw [skipSpace] at hmore ⊢
    rw [List.cons_append, List.dropWhile_cons_of_pos (hblank b List.mem_cons_self), hmore]

/-! ## Numbers -/

/-- Digits only add to a number. -/
theorem le_foldl_digits (digits : List Char) (value : Nat) :
    value ≤ digits.foldl (fun n c => 10 * n + Numeral.digitValue c) value := by
  induction digits generalizing value with
  | nil => exact Nat.le_refl _
  | cons c more ih =>
    have hmore := ih (10 * value + Numeral.digitValue c)
    rw [List.foldl_cons]
    omega

theorem readSignificand_append {digits : List Char} {value : Nat}
    (hdigits : ∀ c ∈ digits, Numeral.isDigit c = true)
    (hrest : ∀ c ∈ rest.head?, Numeral.isDigit c = false)
    (hfits : digits.foldl (fun n c => 10 * n + Numeral.digitValue c) value < UInt64.size) :
    readSignificand value (digits ++ rest) =
      (digits.foldl (fun n c => 10 * n + Numeral.digitValue c) value, 0, rest) := by
  induction digits generalizing value with
  | nil =>
    cases rest with
    | nil => rfl
    | cons c more =>
      have hc : Numeral.isDigit c = false := hrest c rfl
      rw [List.nil_append, readSignificand, if_neg (by simp [hc])]
      rfl
  | cons c more ih =>
    have hle := le_foldl_digits more (10 * value + Numeral.digitValue c)
    rw [List.foldl_cons] at hfits ⊢
    rw [List.cons_append, readSignificand, if_pos (hdigits c List.mem_cons_self)]
    dsimp only
    rw [if_pos (Nat.lt_of_le_of_lt hle hfits),
      ih (fun d hd => hdigits d (List.mem_cons_of_mem c hd)) hfits]

/-- What follows a value does not go on with a number. -/
theorem EndsHere.head_ne {c : Char} (h : EndsHere rest) (hc : c ∈ rest.head?) :
    Numeral.isDigit c = false ∧ c ≠ '.' ∧ c ≠ 'e' ∧ c ≠ 'E' := by
  have hends := h c hc
  simp only [isSpace, Bool.or_eq_true, beq_iff_eq] at hends
  rcases hends with (((rfl | rfl) | rfl) | rfl) | rfl | rfl | rfl <;> decide

theorem readUnsigned?_toDigits (negative : Bool) {n : Nat} (hfits : n < UInt64.size)
    (hrest : EndsHere rest) :
    readUnsigned? negative (Nat.toDigits 10 n ++ rest) = some (wholeNumber negative n, rest) := by
  have hall : ∀ c ∈ Nat.toDigits 10 n, Numeral.isDigit c = true :=
    fun c => Numeral.isDigit_of_mem_toDigits
  have hsignificand : readSignificand 0 (Nat.toDigits 10 n ++ rest) = (n, 0, rest) := by
    have hvalue := Numeral.value_toDigits n
    rw [Numeral.value] at hvalue
    rw [readSignificand_append hall (fun c hc => (hrest.head_ne hc).1) (by rwa [hvalue]), hvalue]
  obtain ⟨c, more, hcons, hfirst⟩ := Numeral.exists_toDigits_eq_cons n
  -- only zero begins with a zero, and no digit follows it
  have hzero : ∀ d tail, Nat.toDigits 10 n ++ rest = '0' :: d :: tail →
      Numeral.isDigit d = false := by
    intro d tail heq
    by_cases hn : n = 0
    · subst hn
      have htail : rest = d :: tail := (List.cons.inj heq).2
      exact (hrest.head_ne (by rw [htail]; rfl)).1
    · have hhead := Numeral.head?_toDigits_ne_zero (Nat.pos_of_ne_zero hn)
      rw [hcons, List.cons_append] at heq
      rw [hcons, (List.cons.inj heq).1] at hhead
      exact absurd rfl hhead
  rw [hcons, List.cons_append] at hsignificand hzero ⊢
  unfold readUnsigned?
  dsimp only
  rw [hsignificand, if_neg]
  · dsimp only
    split
    · exact absurd rfl (hrest.head_ne rfl).2.1
    · exact absurd rfl (hrest.head_ne rfl).2.2.1
    · exact absurd rfl (hrest.head_ne rfl).2.2.2
    · rfl
  · rw [hfirst, Bool.not_true, Bool.false_or]
    split
    · rename_i d tail heq
      rw [hzero d tail heq]
      exact Bool.false_ne_true
    · exact Bool.false_ne_true

/-- What begins like a number is read as one. -/
theorem readValue?_eq_readNumber? {c : Char} (hc : Numeral.isDigit c = true ∨ c = '-') :
    readValue? (fuel + 1) (c :: rest) = readNumber? (c :: rest) := by
  rw [readValue?]
  · exact (nomatch ·)
  -- nothing else begins with a digit or a sign
  all_goals
    intro tail heq
    obtain ⟨rfl, -⟩ := List.cons.inj heq
    exact absurd hc (by decide)

theorem readNumber?_toDigits {n : Nat} (hfits : n < UInt64.size) (hrest : EndsHere rest) :
    readNumber? (Nat.toDigits 10 n ++ rest) = some (.integer n, rest) := by
  have hread := readUnsigned?_toDigits false hfits hrest
  rw [readNumber?]
  · exact hread
  · intro tail heq
    obtain ⟨c, more, hcons, hc⟩ := Numeral.exists_toDigits_eq_cons n
    rw [hcons] at heq
    rw [(List.cons.inj heq).1] at hc
    exact absurd hc (by decide)

/-- An integer is read back. -/
theorem readValue?_integer {n : Int} (hn : hasWord n = true) (hrest : EndsHere rest) :
    readValue? (fuel + 1) ((toString n).toList ++ rest) = some (.integer n, rest) := by
  simp only [hasWord, Bool.and_eq_true, decide_eq_true_eq] at hn
  cases n with
  | ofNat m =>
    have hfits : m < UInt64.size := Int.ofNat_lt.1 hn.2
    have hread := readNumber?_toDigits hfits hrest
    show readValue? (fuel + 1) ((toString (m : Int)).toList ++ rest) = some (.integer m, rest)
    rw [Numeral.toList_toString_natCast]
    obtain ⟨c, more, hcons, hc⟩ := Numeral.exists_toDigits_eq_cons m
    rw [hcons] at hread ⊢
    rw [List.cons_append, readValue?_eq_readNumber? (.inl hc)]
    exact hread
  | negSucc m =>
    have hlow : -(9223372036854775808 : Int) ≤ Int.negSucc m := hn.1
    have hsize : m + 1 ≤ Nat.pow 2 63 := by
      have hpow : Nat.pow 2 63 = 9223372036854775808 := by decide
      omega
    have hfits : m + 1 < UInt64.size := by
      have hlt : Nat.pow 2 63 < UInt64.size := by decide
      omega
    rw [Numeral.toList_toString_negSucc, List.cons_append, readValue?_eq_readNumber? (.inr rfl),
      readNumber?, readUnsigned?_toDigits true hfits hrest, wholeNumber, if_pos rfl, if_neg (by omega)]
    rfl

/-! ## Strings -/

/-- The escape of a control character stands for it. -/
theorem readEscape?_control {c : Char} (hc : c.toNat < 0x20) (rest : List Char) :
    readEscape? ('u' :: '0' :: '0' :: Text.hexDigit (c.toNat / 16) ::
      Text.hexDigit (c.toNat % 16) :: rest) = some (some c, rest) := by
  have hhigh := Text.hexValue?_hexDigit (n := c.toNat / 16) (by omega)
  have hlow := Text.hexValue?_hexDigit (n := c.toNat % 16) (by omega)
  have hzero : Text.hexValue? '0' = some 0 := rfl
  have hcode : 4096 * 0 + 256 * 0 + 16 * (c.toNat / 16) + c.toNat % 16 = c.toNat := by omega
  have hsmall : c.toNat < 0xD800 ∨ 0xE000 ≤ c.toNat := .inl (by omega)
  have hhex : readHex4? ('0' :: '0' :: Text.hexDigit (c.toNat / 16) ::
      Text.hexDigit (c.toNat % 16) :: rest) = some (c.toNat, rest) := by
    simp only [readHex4?, hzero, hhigh, hlow, Option.bind_eq_bind, Option.bind_some, hcode]
  rw [readEscape?, readCode?, hhex]
  simp only [Option.bind_eq_bind, Option.bind_some]
  rw [if_pos hsmall, Char.ofNat_toNat]

/-- A character is read back from its written form. -/
theorem readChars?_escapeChar (c : Char) (fuel : Nat) (rest : List Char) :
    readChars? (fuel + 1) (escapeChar c ++ rest) =
      (readChars? fuel rest).map fun (cs?, after) => (consIfBoth (some c) cs?, after) := by
  have hescape : ∀ {escape : List Char}, readEscape? (escape ++ rest) = some (some c, rest) →
      readChars? (fuel + 1) ('\\' :: escape ++ rest) =
        (readChars? fuel rest).map fun (cs?, after) => (consIfBoth (some c) cs?, after) := by
    intro escape hread
    rw [List.cons_append, readChars?, if_neg (by decide), if_pos rfl, hread]
    simp only [Option.bind_eq_bind, Option.bind_some]
    cases readChars? fuel rest <;> rfl
  unfold escapeChar
  split_ifs with hquote hslash hline hreturn htab hback hfeed hcontrol
  · subst hquote
    exact hescape rfl
  · subst hslash
    exact hescape rfl
  · subst hline
    exact hescape rfl
  · subst hreturn
    exact hescape rfl
  · subst htab
    exact hescape rfl
  · subst hback
    exact hescape rfl
  · subst hfeed
    exact hescape rfl
  · exact hescape (readEscape?_control hcontrol rest)
  · rw [List.singleton_append, readChars?, if_neg hquote, if_neg hslash, if_neg hcontrol]
    cases readChars? fuel rest <;> rfl

theorem readChars?_flatMap (cs : List Char) (hfuel : cs.length < fuel) :
    readChars? fuel (cs.flatMap escapeChar ++ '"' :: rest) = some (some cs, rest) := by
  induction cs generalizing fuel with
  | nil =>
    obtain ⟨fuel, rfl⟩ := Nat.exists_eq_succ_of_ne_zero (Nat.ne_zero_of_lt hfuel)
    rfl
  | cons c more ih =>
    obtain ⟨fuel, rfl⟩ := Nat.exists_eq_succ_of_ne_zero (Nat.ne_zero_of_lt hfuel)
    rw [List.flatMap_cons, List.append_assoc, readChars?_escapeChar,
      ih (by rw [List.length_cons] at hfuel; omega)]
    rfl

theorem length_le_flatMap_escapeChar (cs : List Char) :
    cs.length ≤ (cs.flatMap escapeChar).length := by
  induction cs with
  | nil => exact Nat.le_refl _
  | cons c more ih =>
    have hc : 0 < (escapeChar c).length := by
      unfold escapeChar
      split_ifs <;> exact Nat.succ_pos _
    rw [List.flatMap_cons, List.length_append, List.length_cons]
    omega

/-- A string is read back after its opening quote. -/
theorem readString?_writeString (s : String) (rest : List Char)
    (hfuel : (writeString s).length ≤ fuel + 1) :
    ∃ body, writeString s = '"' :: body ∧
      readString? fuel (body ++ rest) = some (some s, rest) := by
  have hlength := length_le_flatMap_escapeChar s.toList
  refine ⟨s.toList.flatMap escapeChar ++ ['"'], rfl, ?_⟩
  have hshort : s.toList.length < fuel := by
    simp only [writeString, List.cons_append, List.length_cons, List.length_append] at hfuel
    omega
  rw [List.append_assoc, List.singleton_append, readString?, readChars?_flatMap _ hshort]
  simp

/-! ## Values -/

variable {v : Json} {cs : List Char}

/-- A text of a value begins with neither a blank nor a closing bracket. -/
theorem Spells.head (h : Spells v cs) :
    ∃ c more, cs = c :: more ∧ isSpace c = false ∧ c ≠ ']' ∧ c ≠ '}' := by
  cases h with
  | null => exact ⟨_, _, rfl, by decide⟩
  | bool b => cases b <;> exact ⟨_, _, rfl, by decide⟩
  | integer _ =>
    rename_i n _
    cases n with
    | ofNat m =>
      obtain ⟨c, more, hcons, hc⟩ := Numeral.exists_toDigits_eq_cons m
      refine ⟨c, more, (Numeral.toList_toString_natCast m).trans hcons, ?_, ?_, ?_⟩
      · by_contra hspace
        simp only [isSpace, Bool.not_eq_false, Bool.or_eq_true, beq_iff_eq] at hspace
        rcases hspace with ((rfl | rfl) | rfl) | rfl <;> exact absurd hc (by decide)
      · rintro rfl
        exact absurd hc (by decide)
      · rintro rfl
        exact absurd hc (by decide)
    | negSucc m => exact ⟨'-', _, Numeral.toList_toString_negSucc m, by decide⟩
  | string s => exact ⟨_, _, rfl, by decide⟩
  | emptyArray _ => exact ⟨_, _, rfl, by decide⟩
  | array _ _ => exact ⟨_, _, rfl, by decide⟩
  | emptyObject _ => exact ⟨_, _, rfl, by decide⟩
  | object _ _ => exact ⟨_, _, rfl, by decide⟩

theorem SpellsItems.head {items : List Json} (h : SpellsItems items cs) :
    ∃ c more, cs = c :: more ∧ isSpace c = false ∧ c ≠ ']' := by
  cases h with
  | last hv _ =>
    obtain ⟨c, more, rfl, hspace, hne, -⟩ := hv.head
    exact ⟨c, _, rfl, hspace, hne⟩
  | more hv _ _ _ =>
    obtain ⟨c, more, rfl, hspace, hne, -⟩ := hv.head
    exact ⟨c, _, rfl, hspace, hne⟩

theorem SpellsMembers.head {members : List (String × Json)} (h : SpellsMembers members cs) :
    ∃ more, cs = '"' :: more := by
  cases h with
  | last hm _ =>
    cases hm
    exact ⟨_, rfl⟩
  | more hm _ _ _ =>
    cases hm
    exact ⟨_, rfl⟩

/-! ### One step of the reader -/

variable {blank before after : List Char} {items : List Json} {members : List (String × Json)}

theorem readValue?_emptyArray (hblank : IsBlank blank) :
    readValue? (fuel + 1) ('[' :: (blank ++ [']']) ++ rest) = some (.array [], rest) := by
  rw [List.cons_append, List.append_assoc, List.singleton_append, readValue?,
    skipSpace_append hblank (by decide)]
  rfl

theorem readValue?_emptyObject (hblank : IsBlank blank) :
    readValue? (fuel + 1) ('{' :: (blank ++ ['}']) ++ rest) = some (.object [], rest) := by
  rw [List.cons_append, List.append_assoc, List.singleton_append, readValue?,
    skipSpace_append hblank (by decide)]
  rfl

theorem readValue?_array (hblank : IsBlank blank) (hitems : SpellsItems items cs)
    (hread : readItems? fuel (cs ++ rest) = some (items, rest)) :
    readValue? (fuel + 1) ('[' :: (blank ++ cs) ++ rest) = some (.array items, rest) := by
  obtain ⟨c, more, rfl, hspace, hne⟩ := hitems.head
  rw [List.cons_append] at hread
  rw [List.cons_append, List.append_assoc, List.cons_append, readValue?,
    skipSpace_append hblank hspace]
  split
  · rename_i heq
    exact absurd (List.cons.inj heq).1 hne
  · rw [hread]
    rfl

theorem readValue?_object (hblank : IsBlank blank) (hmembers : SpellsMembers members cs)
    (hread : readMembers? fuel (cs ++ rest) = some (some members, rest)) :
    readValue? (fuel + 1) ('{' :: (blank ++ cs) ++ rest) = some (.object members, rest) := by
  obtain ⟨more, rfl⟩ := hmembers.head
  rw [List.cons_append] at hread
  rw [List.cons_append, List.append_assoc, List.cons_append, readValue?,
    skipSpace_append hblank (by decide)]
  split
  · rename_i heq
    exact absurd (List.cons.inj heq).1 (by decide)
  · rw [hread]
    rfl

/-- The last item is followed by the closing bracket. -/
theorem readItems?_last (hblank : IsBlank blank)
    (hread : readValue? fuel (cs ++ (blank ++ ']' :: rest)) = some (v, blank ++ ']' :: rest)) :
    readItems? (fuel + 1) (cs ++ (blank ++ [']']) ++ rest) = some ([v], rest) := by
  rw [List.append_assoc, List.append_assoc, List.singleton_append, readItems?, hread]
  simp only [Option.bind_eq_bind, Option.bind_some]
  rw [skipSpace_append hblank (by decide)]
  rfl

/-- An item before others is followed by a comma. -/
theorem readItems?_more {later : List Char} (hbefore : IsBlank before) (hafter : IsBlank after)
    (hitems : SpellsItems items later)
    (hread : readValue? fuel (cs ++ (before ++ ',' :: (after ++ (later ++ rest)))) =
      some (v, before ++ ',' :: (after ++ (later ++ rest))))
    (hlater : readItems? fuel (later ++ rest) = some (items, rest)) :
    readItems? (fuel + 1) (cs ++ (before ++ ',' :: (after ++ later)) ++ rest) =
      some (v :: items, rest) := by
  obtain ⟨c, more, rfl, hspace, -⟩ := hitems.head
  have htext : cs ++ (before ++ ',' :: (after ++ c :: more)) ++ rest =
      cs ++ (before ++ ',' :: (after ++ (c :: more ++ rest))) := by simp
  have hcomma : readItems? (fuel + 1) (cs ++ (before ++ ',' :: (after ++ (c :: more ++ rest)))) =
      (readItems? fuel (skipSpace (after ++ (c :: more ++ rest)))).bind
        fun read => some (v :: read.1, read.2) := by
    rw [readItems?, hread]
    simp only [Option.bind_eq_bind, Option.bind_some]
    rw [skipSpace_append hbefore (by decide)]
    rfl
  rw [htext, hcomma, List.cons_append, skipSpace_append hafter hspace, ← List.cons_append, hlater]
  rfl

/-- The members from one on that has been read. -/
def readMembersAfter (m : String × Json) (fuel : Nat) (tail : List Char) :
    Option (Option (List (String × Json)) × List Char) :=
  match skipSpace tail with
  | ',' :: rest => (readMembers? fuel (skipSpace rest)).bind fun (members?, rest) =>
    some (consIfBoth (some m) members?, rest)
  | '}' :: rest => some (some [m], rest)
  | _ => none

theorem readMembersAfter_last {m : String × Json} (hblank : IsBlank blank) :
    readMembersAfter m fuel (blank ++ '}' :: rest) = some (some [m], rest) := by
  rw [readMembersAfter, skipSpace_append hblank (by decide)]
  rfl

theorem readMembersAfter_more {m : String × Json} (hbefore : IsBlank before)
    (hafter : IsBlank after) (hmembers : SpellsMembers members cs)
    (hread : readMembers? fuel (cs ++ rest) = some (some members, rest)) :
    readMembersAfter m fuel (before ++ ',' :: (after ++ (cs ++ rest))) =
      some (some (m :: members), rest) := by
  obtain ⟨more, rfl⟩ := hmembers.head
  rw [List.cons_append] at hread ⊢
  have hcomma : readMembersAfter m fuel (before ++ ',' :: (after ++ '"' :: (more ++ rest))) =
      (readMembers? fuel (skipSpace (after ++ '"' :: (more ++ rest)))).bind fun (members?, rest) =>
        some (consIfBoth (some m) members?, rest) := by
    rw [readMembersAfter, skipSpace_append hbefore (by decide)]
    rfl
  rw [hcomma, skipSpace_append hafter (by decide), hread]
  rfl

/-- A member is read up to its value; then comes a comma or the closing brace. -/
theorem readMembers?_member {tail : List Char} (n : String) (hbefore : IsBlank before)
    (hafter : IsBlank after) (hv : Spells v cs) (hfuel : (writeString n).length ≤ fuel + 1)
    (hread : readValue? fuel (cs ++ tail) = some (v, tail)) :
    readMembers? (fuel + 1) (writeString n ++ (before ++ ':' :: (after ++ cs)) ++ tail) =
      readMembersAfter (n, v) fuel tail := by
  obtain ⟨c, more, rfl, hspace, -⟩ := hv.head
  obtain ⟨body, hbody, hname⟩ :=
    readString?_writeString n (before ++ ':' :: (after ++ (c :: more ++ tail))) hfuel
  have htext : writeString n ++ (before ++ ':' :: (after ++ c :: more)) ++ tail =
      '"' :: (body ++ (before ++ ':' :: (after ++ (c :: more ++ tail)))) := by
    rw [hbody]
    simp
  have hcolon : readMembers? (fuel + 1)
      ('"' :: (body ++ (before ++ ':' :: (after ++ (c :: more ++ tail))))) =
      (readValue? fuel (skipSpace (after ++ (c :: more ++ tail)))).bind fun read =>
        readMembersAfter (n, read.1) fuel read.2 := by
    rw [readMembers?, hname]
    simp only [Option.bind_eq_bind, Option.bind_some]
    rw [skipSpace_append hbefore (by decide)]
    rfl
  rw [htext, hcolon, List.cons_append, skipSpace_append hafter hspace, ← List.cons_append, hread]
  rfl

/-! ### Whole texts -/

/-- A text with a character in it leaves a step. -/
theorem exists_fuel {c : Char} {more : List Char} (h : (c :: more).length ≤ fuel) :
    ∃ k, fuel = k + 1 :=
  Nat.exists_eq_succ_of_ne_zero (Nat.ne_zero_of_lt h)

mutual

/-- A value is read off the front of its text, with a step for each character. -/
theorem readValue?_of_spells : ∀ {v : Json} {cs : List Char}, Spells v cs → ∀ {fuel : Nat}
    {rest : List Char}, cs.length ≤ fuel → EndsHere rest →
    readValue? fuel (cs ++ rest) = some (v, rest)
  | _, _, .null, _ + 1, _, _, _ => rfl
  | _, _, .bool true, _ + 1, _, _, _ => rfl
  | _, _, .bool false, _ + 1, _, _, _ => rfl
  | _, _, .integer hn, fuel, rest, hfuel, hrest => by
    obtain ⟨c, more, hcons, -⟩ := (Spells.integer hn).head
    rw [hcons] at hfuel
    obtain ⟨k, rfl⟩ := exists_fuel hfuel
    exact readValue?_integer hn hrest
  | _, _, .string s, fuel + 1, rest, hfuel, _ => by
    obtain ⟨body, hbody, hread⟩ := readString?_writeString s rest hfuel
    rw [hbody, List.cons_append, readValue?, hread]
    rfl
  | _, _, .emptyArray hblank, _ + 1, _, _, _ => readValue?_emptyArray hblank
  | _, _, .array hblank hitems, fuel + 1, rest, hfuel, _ => by
    rw [List.length_cons, List.length_append] at hfuel
    exact readValue?_array hblank hitems (readItems?_of_spells hitems (by omega))
  | _, _, .emptyObject hblank, _ + 1, _, _, _ => readValue?_emptyObject hblank
  | _, _, .object hblank hmembers, fuel + 1, rest, hfuel, _ => by
    rw [List.length_cons, List.length_append] at hfuel
    exact readValue?_object hblank hmembers (readMembers?_of_spells hmembers (by omega))

/-- Items are read up to their closing bracket. -/
theorem readItems?_of_spells : ∀ {items : List Json} {cs : List Char}, SpellsItems items cs →
    ∀ {fuel : Nat} {rest : List Char}, cs.length ≤ fuel →
    readItems? fuel (cs ++ rest) = some (items, rest)
  | _, _, .last hv hblank, fuel, rest, hfuel => by
    obtain ⟨k, rfl⟩ : ∃ k, fuel = k + 1 := by
      obtain ⟨c, more, hcons, -⟩ := (SpellsItems.last hv hblank).head
      exact exists_fuel (hcons ▸ hfuel)
    simp only [List.length_append, List.length_singleton] at hfuel
    exact readItems?_last hblank
      (readValue?_of_spells hv (by omega) (endsHere_append hblank (.inr (.inl rfl)) rest))
  | _, _, .more hv hbefore hafter hitems, fuel, rest, hfuel => by
    obtain ⟨k, rfl⟩ : ∃ k, fuel = k + 1 := by
      obtain ⟨c, more, hcons, -⟩ := (SpellsItems.more hv hbefore hafter hitems).head
      exact exists_fuel (hcons ▸ hfuel)
    simp only [List.length_append, List.length_cons] at hfuel
    exact readItems?_more hbefore hafter hitems
      (readValue?_of_spells hv (by omega) (endsHere_append hbefore (.inl rfl) _))
      (readItems?_of_spells hitems (by omega))

/-- A member is read, and then what comes after it. -/
theorem readMembers?_of_spellsMember : ∀ {m : String × Json} {cs : List Char}, SpellsMember m cs →
    ∀ {fuel : Nat} {tail : List Char}, cs.length ≤ fuel + 1 → EndsHere tail →
    readMembers? (fuel + 1) (cs ++ tail) = readMembersAfter m fuel tail
  | _, _, .mk n hbefore hafter hv, fuel, tail, hfuel, htail => by
    simp only [List.length_append, List.length_cons] at hfuel
    exact readMembers?_member n hbefore hafter hv (by omega)
      (readValue?_of_spells hv (by omega) htail)

/-- Members are read up to their closing brace. -/
theorem readMembers?_of_spells : ∀ {members : List (String × Json)} {cs : List Char},
    SpellsMembers members cs → ∀ {fuel : Nat} {rest : List Char}, cs.length ≤ fuel →
    readMembers? fuel (cs ++ rest) = some (some members, rest)
  | _, _, .last hm hblank, fuel, rest, hfuel => by
    obtain ⟨k, rfl⟩ : ∃ k, fuel = k + 1 := by
      obtain ⟨more, hcons⟩ := (SpellsMembers.last hm hblank).head
      exact exists_fuel (hcons ▸ hfuel)
    simp only [List.length_append, List.length_singleton] at hfuel
    rw [List.append_assoc, List.append_assoc, List.singleton_append,
      readMembers?_of_spellsMember hm (by omega) (endsHere_append hblank (.inr (.inr rfl)) rest),
      readMembersAfter_last hblank]
  | _, _, .more hm hbefore hafter hmembers, fuel, rest, hfuel => by
    obtain ⟨k, rfl⟩ : ∃ k, fuel = k + 1 := by
      obtain ⟨more, hcons⟩ := (SpellsMembers.more hm hbefore hafter hmembers).head
      exact exists_fuel (hcons ▸ hfuel)
    simp only [List.length_append, List.length_cons] at hfuel
    rw [List.append_assoc, List.append_assoc, List.cons_append, List.append_assoc,
      readMembers?_of_spellsMember hm (by omega) (endsHere_append hbefore (.inl rfl) _),
      readMembersAfter_more hbefore hafter hmembers (readMembers?_of_spells hmembers (by omega))]

end

/-- Every text of a value is read as it. -/
theorem read?_of_spells (h : Spells v cs) : read? cs = some v := by
  obtain ⟨c, more, hcons, hspace, -⟩ := h.head
  have hstart : skipSpace cs = cs := by
    rw [hcons]
    exact skipSpace_append isBlank_nil hspace more
  have hread := readValue?_of_spells h (Nat.le_succ cs.length) endsHere_nil
  rw [List.append_nil] at hread
  rw [read?, hstart, hread]
  rfl

/-- A value without doubles is read back from its text on one line. -/
theorem ofText?_toText (h : v.isExact = true) : ofText? v.toText = some v := by
  rw [ofText?, toText, String.toList_ofList]
  exact read?_of_spells (spells_write v h)

end SynthTable.Json
