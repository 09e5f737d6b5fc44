import SynthTable.Text.Hex

/-!
# Hexadecimal text is read back

Two digits stand for each byte, so a text of digits is read byte by byte, whatever follows it
(`bytesOfHex?_append`), and it can be cut between bytes (`take_hexOfBytes`, `drop_hexOfBytes`).
-/

namespace SynthTable.Text

theorem hexValue?_hexDigit {n : Nat} (h : n < 16) : hexValue? (hexDigit n) = some n := by
  have hall : ∀ n < 16, hexValue? (hexDigit n) = some n := by decide
  exact hall n h

theorem hexOfBytes_cons (b : UInt8) (bytes : List UInt8) :
    hexOfBytes (b :: bytes) = hexDigit (b.toNat / 16) :: hexDigit (b.toNat % 16) ::
      hexOfBytes bytes := by
  rw [hexOfBytes, List.flatMap_cons]
  rfl

theorem hexOfBytes_append (bytes more : List UInt8) :
    hexOfBytes (bytes ++ more) = hexOfBytes bytes ++ hexOfBytes more :=
  List.flatMap_append

theorem length_hexOfBytes (bytes : List UInt8) : (hexOfBytes bytes).length = 2 * bytes.length := by
  induction bytes with
  | nil => rfl
  | cons b bytes ih =>
    rw [hexOfBytes_cons, List.length_cons, List.length_cons, List.length_cons, ih]
    omega

/-- The digits of bytes are read as them, and the rest after them. -/
theorem bytesOfHex?_append (bytes : List UInt8) (rest : List Char) :
    bytesOfHex? (hexOfBytes bytes ++ rest) = (bytesOfHex? rest).map (bytes ++ ·) := by
  induction bytes with
  | nil => simp [hexOfBytes]
  | cons b bytes ih =>
    have hhigh := hexValue?_hexDigit (Nat.div_lt_of_lt_mul b.toNat_lt : b.toNat / 16 < 16)
    have hlow := hexValue?_hexDigit (Nat.mod_lt b.toNat (by decide) : b.toNat % 16 < 16)
    have hbyte : (16 * (b.toNat / 16) + b.toNat % 16).toUInt8 = b := by
      rw [Nat.div_add_mod]
      exact UInt8.ofNat_toNat
    rw [hexOfBytes_cons, List.cons_append, List.cons_append, bytesOfHex?, hhigh, hlow, ih]
    simp only [Option.bind_eq_bind, Option.bind_some, hbyte]
    cases bytesOfHex? rest <;> rfl

theorem bytesOfHex?_hexOfBytes (bytes : List UInt8) :
    bytesOfHex? (hexOfBytes bytes) = some bytes := by
  have h := bytesOfHex?_append bytes []
  simpa [bytesOfHex?] using h

theorem take_hexOfBytes (count : Nat) (bytes : List UInt8) :
    (hexOfBytes bytes).take (2 * count) = hexOfBytes (bytes.take count) := by
  induction count generalizing bytes with
  | zero => simp [hexOfBytes]
  | succ count ih =>
    cases bytes with
    | nil => simp [hexOfBytes]
    | cons b bytes =>
      rw [Nat.mul_succ, List.take_succ_cons, hexOfBytes_cons, hexOfBytes_cons, ← ih]
      rfl

theorem drop_hexOfBytes (count : Nat) (bytes : List UInt8) :
    (hexOfBytes bytes).drop (2 * count) = hexOfBytes (bytes.drop count) := by
  induction count generalizing bytes with
  | zero => rfl
  | succ count ih =>
    cases bytes with
    | nil => simp [hexOfBytes]
    | cons b bytes =>
      rw [Nat.mul_succ, List.drop_succ_cons, hexOfBytes_cons, ← ih]
      rfl

/-- What holds of all digits holds of each character. -/
theorem forall_mem_hexOfBytes {p : Char → Prop} (h : ∀ n < 16, p (hexDigit n))
    (bytes : List UInt8) : ∀ c ∈ hexOfBytes bytes, p c := by
  intro c hc
  obtain ⟨b, -, hdigit⟩ := List.mem_flatMap.1 hc
  simp only [List.mem_cons, List.not_mem_nil, or_false] at hdigit
  rcases hdigit with rfl | rfl
  · exact h _ (Nat.div_lt_of_lt_mul b.toNat_lt)
  · exact h _ (Nat.mod_lt _ (by decide))

end SynthTable.Text
