/-!
# Byte offsets

Places in a text, counted in bytes of UTF-8. A text cannot be cut at a place inside a character or
beyond its end; it can be cut after any of its beginnings.
-/

namespace SynthTable.Text

/-- The number of bytes of a text. -/
def byteLength : List Char → Nat
  | [] => 0
  | c :: rest => c.utf8Size + byteLength rest

/-- The text from a place on. -/
def dropBytes? : Nat → List Char → Option (List Char)
  | 0, cs => some cs
  | _ + 1, [] => none
  | n + 1, c :: rest => if c.utf8Size ≤ n + 1 then dropBytes? (n + 1 - c.utf8Size) rest else none

/-- The text up to a place. -/
def takeBytes? : Nat → List Char → Option (List Char)
  | 0, _ => some []
  | _ + 1, [] => none
  | n + 1, c :: rest =>
    if c.utf8Size ≤ n + 1 then (takeBytes? (n + 1 - c.utf8Size) rest).map (c :: ·) else none

/-- The text between two places. -/
def sliceBytes? (start stop : Nat) (cs : List Char) : Option (List Char) :=
  (dropBytes? start cs).bind (takeBytes? (stop - start))

theorem byteLength_append (a b : List Char) :
    byteLength (a ++ b) = byteLength a + byteLength b := by
  induction a with
  | nil => simp [byteLength]
  | cons c rest ih => simp [byteLength, ih, Nat.add_assoc]

theorem dropBytes?_add (c : Char) (n : Nat) (rest : List Char) :
    dropBytes? (c.utf8Size + n) (c :: rest) = dropBytes? n rest := by
  obtain ⟨k, hk⟩ := Nat.exists_eq_add_of_lt c.utf8Size_pos
  have h : c.utf8Size + n = k + n + 1 := by omega
  have hn : k + n + 1 - c.utf8Size = n := by omega
  have hle : c.utf8Size ≤ k + n + 1 := by omega
  rw [h, dropBytes?, if_pos hle, hn]

theorem takeBytes?_add (c : Char) (n : Nat) (rest : List Char) :
    takeBytes? (c.utf8Size + n) (c :: rest) = (takeBytes? n rest).map (c :: ·) := by
  obtain ⟨k, hk⟩ := Nat.exists_eq_add_of_lt c.utf8Size_pos
  have h : c.utf8Size + n = k + n + 1 := by omega
  have hn : k + n + 1 - c.utf8Size = n := by omega
  have hle : c.utf8Size ≤ k + n + 1 := by omega
  rw [h, takeBytes?, if_pos hle, hn]

theorem dropBytes?_byteLength (a b : List Char) : dropBytes? (byteLength a) (a ++ b) = some b := by
  induction a with
  | nil => simp [byteLength, dropBytes?]
  | cons c rest ih => rw [byteLength, List.cons_append, dropBytes?_add, ih]

theorem takeBytes?_byteLength (a b : List Char) : takeBytes? (byteLength a) (a ++ b) = some a := by
  induction a with
  | nil => simp [byteLength, takeBytes?]
  | cons c rest ih => rw [byteLength, List.cons_append, takeBytes?_add, ih]; rfl

theorem sliceBytes?_byteLength (a b c : List Char) :
    sliceBytes? (byteLength a) (byteLength (a ++ b)) (a ++ b ++ c) = some b := by
  rw [sliceBytes?, List.append_assoc, dropBytes?_byteLength, byteLength_append,
    Nat.add_sub_cancel_left]
  exact takeBytes?_byteLength b c

end SynthTable.Text
