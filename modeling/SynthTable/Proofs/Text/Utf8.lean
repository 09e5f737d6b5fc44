import SynthTable.Text.Utf8

/-!
# UTF-8 is read back

The bytes of a text decode to the text (`decodeUtf8_encodeUtf8`). A byte of the plain range stands
only where its own character does (`toNat_of_plain`), so plain separators can be found among the
bytes.
-/

namespace SynthTable.Text

variable {c : Char} {cs : List Char} {a b d e : UInt8} {rest : List UInt8}

/-! ## The bytes of one character -/

theorem toNat_toUInt8 {n : Nat} (h : n < 0x100) : n.toUInt8.toNat = n := by
  rw [Nat.toUInt8, UInt8.toNat_ofNat']
  exact Nat.mod_eq_of_lt h

theorem toNat_lt_scalars (c : Char) : c.toNat < 0x110000 := by
  have hvalid : c.toNat.isValidChar := c.valid
  unfold Nat.isValidChar at hvalid
  omega

/-- A continuation byte holds six bits. -/
theorem continuation?_tail (n : Nat) :
    continuation? (0x80 + n % 0x40).toUInt8 = some (n % 0x40) := by
  have hbits : n % 0x40 < 0x40 := Nat.mod_lt _ (by decide)
  have hbyte : (0x80 + n % 0x40).toUInt8.toNat = 0x80 + n % 0x40 := toNat_toUInt8 (by omega)
  have hlow : (0x80 : UInt8) ≤ (0x80 + n % 0x40).toUInt8 := by
    rw [UInt8.le_iff_toNat_le, hbyte]
    exact Nat.le_add_right _ _
  have hhigh : (0x80 + n % 0x40).toUInt8 < (0xC0 : UInt8) := by
    rw [UInt8.lt_iff_toNat_lt, hbyte]
    show 0x80 + n % 0x40 < 0xC0
    omega
  rw [continuation?, if_pos ⟨hlow, hhigh⟩, hbyte, Nat.add_sub_cancel_left]

theorem scalar?_toNat (c : Char) (least : Nat) {n : Nat} (hn : n = c.toNat) (hleast : least ≤ n) :
    scalar? least n = some c := by
  subst hn
  have hvalid : c.toNat.isValidChar := c.valid
  rw [scalar?, if_neg (Nat.not_lt.2 hleast), dif_pos hvalid]
  rfl

/-! ## The first character, by the size of its first byte -/

/-- Three steps that succeed. -/
theorem bind_three {β : Type} {f : Nat → Nat → Nat → Option β} {p q r : Option Nat} {x y z : Nat}
    (hp : p = some x) (hq : q = some y) (hr : r = some z) :
    (do let x ← p; let y ← q; let z ← r; f x y z) = f x y z := by
  subst hp hq hr
  rfl

theorem firstChar?_one (h : a.toNat < 0x80) :
    firstChar? (a :: rest) = (scalar? 0 a.toNat).map (·, 1) := by
  have hone : a < 0x80 := UInt8.lt_iff_toNat_lt.2 h
  unfold firstChar?
  dsimp only
  rw [if_pos hone]

theorem firstChar?_two {x : Nat} (hlow : 0xC0 ≤ a.toNat) (hhigh : a.toNat < 0xE0)
    (hb : continuation? b = some x) :
    firstChar? (a :: b :: rest) =
      (scalar? 0x80 ((a.toNat - 0xC0) * 0x40 + x)).map (·, 2) := by
  have hone : ¬ a < 0x80 := fun h => absurd (UInt8.lt_iff_toNat_lt.1 h) (Nat.not_lt.2 (by
    show 0x80 ≤ a.toNat
    omega))
  have htail : ¬ a < 0xC0 := fun h => absurd (UInt8.lt_iff_toNat_lt.1 h) (Nat.not_lt.2 hlow)
  have htwo : a < 0xE0 := UInt8.lt_iff_toNat_lt.2 hhigh
  rw [firstChar?, if_neg hone, if_neg htail, if_pos htwo]
  simp only [hb, Option.bind_eq_bind, Option.bind_some]

theorem firstChar?_three {x y : Nat} (hlow : 0xE0 ≤ a.toNat) (hhigh : a.toNat < 0xF0)
    (hb : continuation? b = some x) (hd : continuation? d = some y) :
    firstChar? (a :: b :: d :: rest) =
      (scalar? 0x800 ((a.toNat - 0xE0) * 0x1000 + x * 0x40 + y)).map (·, 3) := by
  have hnot : ∀ n : UInt8, n.toNat ≤ 0xE0 → ¬ a < n := by
    intro n hn h
    have hlt := UInt8.lt_iff_toNat_lt.1 h
    omega
  have hthree : a < 0xF0 := UInt8.lt_iff_toNat_lt.2 hhigh
  rw [firstChar?, if_neg (hnot 0x80 (by decide)), if_neg (hnot 0xC0 (by decide)),
    if_neg (hnot 0xE0 (by decide)), if_pos hthree]
  simp only [hb, hd, Option.bind_eq_bind, Option.bind_some]

theorem firstChar?_four {x y z : Nat} (hlow : 0xF0 ≤ a.toNat) (hhigh : a.toNat < 0xF8)
    (hb : continuation? b = some x) (hd : continuation? d = some y)
    (he : continuation? e = some z) :
    firstChar? (a :: b :: d :: e :: rest) =
      (scalar? 0x10000 ((a.toNat - 0xF0) * 0x40000 + x * 0x1000 + y * 0x40 + z)).map (·, 4) := by
  have hnot : ∀ n : UInt8, n.toNat ≤ 0xF0 → ¬ a < n := by
    intro n hn h
    have hlt := UInt8.lt_iff_toNat_lt.1 h
    omega
  have hfour : a < 0xF8 := UInt8.lt_iff_toNat_lt.2 hhigh
  rw [firstChar?, if_neg (hnot 0x80 (by decide)), if_neg (hnot 0xC0 (by decide)),
    if_neg (hnot 0xE0 (by decide)), if_neg (hnot 0xF0 (by decide)), if_pos hfour]
  exact bind_three hb hd he

/-- The first character of a text is read from its bytes. -/
theorem firstChar?_utf8Bytes (c : Char) (rest : List UInt8) :
    firstChar? (utf8Bytes c ++ rest) = some (c, (utf8Bytes c).length) := by
  have hbound := toNat_lt_scalars c
  have hshift0 : Nat.pow 2 0 = 1 := by decide
  have hshift6 : Nat.pow 2 6 = 0x40 := by decide
  have hshift12 : Nat.pow 2 12 = 0x1000 := by decide
  unfold utf8Bytes
  simp only [hshift0, hshift6, hshift12, Nat.div_one]
  by_cases hone : c.toNat < 0x80
  · have hlead := toNat_toUInt8 (n := c.toNat) (by omega)
    rw [if_pos hone, List.singleton_append, firstChar?_one (by rw [hlead]; exact hone), hlead,
      scalar?_toNat c 0 rfl (Nat.zero_le _)]
    rfl
  rw [if_neg hone]
  by_cases htwo : c.toNat < 0x800
  · have hlead := toNat_toUInt8 (n := 0xC0 + c.toNat / 0x40) (by omega)
    have hscalar := scalar?_toNat c 0x80
      (n := (0xC0 + c.toNat / 0x40 - 0xC0) * 0x40 + c.toNat % 0x40) (by omega) (by omega)
    rw [if_pos htwo, List.cons_append, List.singleton_append,
      firstChar?_two (by rw [hlead]; omega) (by rw [hlead]; omega) (continuation?_tail _), hlead,
      hscalar]
    rfl
  rw [if_neg htwo]
  by_cases hthree : c.toNat < 0x10000
  · have hlead := toNat_toUInt8 (n := 0xE0 + c.toNat / 0x1000) (by omega)
    have hscalar := scalar?_toNat c 0x800
      (n := (0xE0 + c.toNat / 0x1000 - 0xE0) * 0x1000 + c.toNat / 0x40 % 0x40 * 0x40 +
        c.toNat % 0x40) (by omega) (by omega)
    rw [if_pos hthree, List.cons_append, List.cons_append, List.singleton_append,
      firstChar?_three (by rw [hlead]; omega) (by rw [hlead]; omega) (continuation?_tail _)
        (continuation?_tail _), hlead, hscalar]
    rfl
  · have hlead := toNat_toUInt8 (n := 0xF0 + c.toNat / 0x40000) (by omega)
    have hscalar := scalar?_toNat c 0x10000
      (n := (0xF0 + c.toNat / 0x40000 - 0xF0) * 0x40000 + c.toNat / 0x1000 % 0x40 * 0x1000 +
        c.toNat / 0x40 % 0x40 * 0x40 + c.toNat % 0x40) (by omega) (by omega)
    rw [if_neg hthree, List.cons_append, List.cons_append, List.cons_append,
      List.singleton_append,
      firstChar?_four (by rw [hlead]; omega) (by rw [hlead]; omega) (continuation?_tail _)
        (continuation?_tail _) (continuation?_tail _), hlead, hscalar]
    rfl

theorem length_utf8Bytes (c : Char) : (utf8Bytes c).length = c.utf8Size := by
  have hle (n : UInt32) : c.val ≤ n ↔ c.toNat < n.toNat + 1 :=
    UInt32.le_iff_toNat_le.trans Nat.lt_succ_iff.symm
  simp only [utf8Bytes, Char.utf8Size, hle, UInt32.toNat_ofNatLT, apply_ite List.length]
  rfl

theorem utf8Bytes_ne_nil (c : Char) : utf8Bytes c ≠ [] := by
  rw [← List.length_pos_iff, length_utf8Bytes]
  exact c.utf8Size_pos

/-! ## Texts -/

/-- Bytes that belong to a character read before are passed over. -/
theorem decodeFrom_skip (position : Nat) (bytes rest : List UInt8) :
    decodeFrom position bytes.length (bytes ++ rest) = decodeFrom position 0 rest := by
  induction bytes with
  | nil => rfl
  | cons b bytes ih =>
    rw [List.length_cons, List.cons_append, decodeFrom]
    exact ih

theorem decodeFrom_encodeUtf8 (cs : List Char) (position : Nat) :
    decodeFrom position 0 (encodeUtf8 cs) = .ok cs := by
  induction cs generalizing position with
  | nil => rfl
  | cons c cs ih =>
    have hfirst := firstChar?_utf8Bytes c (encodeUtf8 cs)
    rw [encodeUtf8, List.flatMap_cons, ← encodeUtf8]
    obtain ⟨b, bytes, hbytes⟩ := List.exists_cons_of_ne_nil (utf8Bytes_ne_nil c)
    rw [hbytes, List.cons_append] at hfirst
    rw [hbytes, List.cons_append, decodeFrom, hfirst]
    dsimp only
    rw [List.length_cons, Nat.add_sub_cancel, decodeFrom_skip, ih]

/-- What is written as bytes is read back. -/
theorem decodeUtf8_encodeUtf8 (cs : List Char) : decodeUtf8 (encodeUtf8 cs) = .ok cs :=
  decodeFrom_encodeUtf8 cs 0

/-- The text of bytes that are one. -/
def textOf? (bytes : List UInt8) : Option String :=
  match decodeUtf8 bytes with
  | .ok cs => some (String.ofList cs)
  | .error _ => none

theorem textOf?_encodeUtf8 (cs : List Char) :
    textOf? (encodeUtf8 cs) = some (String.ofList cs) := by
  rw [textOf?, decodeUtf8_encodeUtf8]

theorem textOf?_stringBytes (s : String) : textOf? (stringBytes s) = some s := by
  rw [stringBytes, textOf?_encodeUtf8, String.ofList_toList]

/-- A byte of the plain range is the whole of its character. -/
theorem toNat_of_plain (hb : b ∈ utf8Bytes c) (hplain : b.toNat < 0x80) : c.toNat = b.toNat := by
  have hbound := toNat_lt_scalars c
  have htail : ∀ n : Nat, b = (0x80 + n % 0x40).toUInt8 → False := by
    intro n hn
    have hbits : n % 0x40 < 0x40 := Nat.mod_lt _ (by decide)
    rw [hn, toNat_toUInt8 (by omega)] at hplain
    omega
  have hlead : ∀ n : Nat, 0x80 ≤ n → n < 0x100 → b = n.toUInt8 → False := by
    intro n hlow hhigh hn
    rw [hn, toNat_toUInt8 hhigh] at hplain
    omega
  unfold utf8Bytes at hb
  dsimp only at hb
  by_cases hone : c.toNat < 0x80
  · rw [if_pos hone, List.mem_singleton] at hb
    rw [hb, toNat_toUInt8 (by omega)]
  rw [if_neg hone] at hb
  by_cases htwo : c.toNat < 0x800
  · rw [if_pos htwo, List.mem_cons, List.mem_singleton] at hb
    exact (hb.elim (hlead _ (by omega) (by omega)) (htail _)).elim
  rw [if_neg htwo] at hb
  by_cases hthree : c.toNat < 0x10000
  · rw [if_pos hthree, List.mem_cons, List.mem_cons, List.mem_singleton] at hb
    rcases hb with hb | hb | hb
    · exact (hlead _ (by omega) (by omega) hb).elim
    · exact (htail _ hb).elim
    · exact (htail _ hb).elim
  · rw [if_neg hthree, List.mem_cons, List.mem_cons, List.mem_cons, List.mem_singleton] at hb
    rcases hb with hb | hb | hb | hb
    · exact (hlead _ (by omega) (by omega) hb).elim
    · exact (htail _ hb).elim
    · exact (htail _ hb).elim
    · exact (htail _ hb).elim

/-- A plain byte stands among the bytes of a text only if its character stands in the text. -/
theorem mem_of_plain (hb : b ∈ encodeUtf8 cs) (hplain : b.toNat < 0x80) :
    Char.ofNat b.toNat ∈ cs := by
  obtain ⟨c, hc, hbytes⟩ := List.mem_flatMap.1 hb
  rw [← toNat_of_plain hbytes hplain, Char.ofNat_toNat]
  exact hc

end SynthTable.Text
