import SynthTable.Proofs.Text.Hex
import SynthTable.Proofs.Text.Parts
import SynthTable.Value.Uuid

/-!
# Identifiers are read back

The text of an identifier is five groups of digits with dashes between them (`toChars_eq_join`). The
reader tries other forms before this one, and none of them takes the text: the first dash is no
digit, and the first digit opens neither braces nor a resource name. So the identifier is read from
its groups (`ofText?_toText`).
-/

namespace SynthTable.Uuid

open Text

variable (u : Uuid)

theorem ofBytes?_toList : ofBytes? u.bytes.toList = some u := by
  have hlength : u.bytes.toList.length = 16 := by simp
  rw [ofBytes?, dif_pos hlength]
  rfl

/-- The bytes of the groups. -/
def groups : List (List UInt8) :=
  let bytes := u.bytes.toList
  [bytes.take 4, (bytes.drop 4).take 2, (bytes.drop 6).take 2, (bytes.drop 8).take 2, bytes.drop 10]

theorem toChars_eq_join : u.toChars = join '-' (u.groups.map hexOfBytes) := by
  simp only [toChars, groups, List.map_cons, List.map_nil, join, ← take_hexOfBytes,
    ← drop_hexOfBytes, List.append_assoc, List.cons_append]

theorem splitOn_toChars : splitOn '-' u.toChars = u.groups.map hexOfBytes := by
  rw [toChars_eq_join]
  refine splitOn_join (by simp [groups]) ?_
  intro part hpart
  obtain ⟨bytes, -, rfl⟩ := List.mem_map.1 hpart
  intro hdash
  have hdigits : ∀ c ∈ hexOfBytes bytes, c ≠ '-' := forall_mem_hexOfBytes (by decide) bytes
  exact hdigits '-' hdash rfl

theorem append_groups (bytes : List UInt8) : bytes.take 4 ++ (bytes.drop 4).take 2 ++
    (bytes.drop 6).take 2 ++ (bytes.drop 8).take 2 ++ bytes.drop 10 = bytes := by
  have hstep (count : Nat) : (bytes.drop count).take 2 ++ bytes.drop (count + 2) =
      bytes.drop count := by
    rw [← List.drop_drop, List.take_append_drop]
  simp only [List.append_assoc, hstep, List.take_append_drop]

/-- The groups are read as the identifier. -/
theorem ofGroups?_toChars : ofGroups? u.toChars = some u := by
  have hgroups := splitOn_toChars u
  have hlength : u.bytes.toList.length = 16 := by simp
  have hdigits : ofDigits? (hexOfBytes (u.bytes.toList.take 4) ++
      hexOfBytes ((u.bytes.toList.drop 4).take 2) ++ hexOfBytes ((u.bytes.toList.drop 6).take 2) ++
      hexOfBytes ((u.bytes.toList.drop 8).take 2) ++ hexOfBytes (u.bytes.toList.drop 10)) =
        some u := by
    simp only [← hexOfBytes_append, append_groups]
    rw [ofDigits?, bytesOfHex?_hexOfBytes]
    exact ofBytes?_toList u
  simp only [groups, List.map_cons, List.map_nil] at hgroups
  simp only [ofGroups?, hgroups, hdigits, length_hexOfBytes, List.length_take, List.length_drop,
    hlength]
  rfl

theorem ofDigits?_toChars : ofDigits? u.toChars = none := by
  have hdash (rest : List Char) : bytesOfHex? ('-' :: rest) = none := by
    cases rest <;> rfl
  have hread : bytesOfHex? u.toChars = none := by
    rw [toChars_eq_join, groups]
    simp only [List.map_cons, List.map_nil, join]
    rw [bytesOfHex?_append, hdash]
    rfl
  rw [ofDigits?, hread]
  rfl

theorem groups_ne_nil : ∀ bytes ∈ u.groups, bytes ≠ [] := by
  have hlength : u.bytes.toList.length = 16 := by simp
  simp [groups, ← List.length_eq_zero_iff, hlength]

theorem tight_toChars : IsTight u.toChars := by
  rw [toChars_eq_join]
  refine tight_join (by simp [groups]) ?_
  intro part hpart
  obtain ⟨bytes, hbytes, rfl⟩ := List.mem_map.1 hpart
  have hblank : ∀ c ∈ hexOfBytes bytes, isBlank c = false :=
    forall_mem_hexOfBytes (by decide) bytes
  refine ⟨?_, fun c hc => hblank c (List.mem_of_mem_head? hc),
    fun c hc => hblank c (List.mem_of_mem_getLast? hc)⟩
  intro hnil
  have hlength := length_hexOfBytes bytes
  rw [hnil, List.length_nil] at hlength
  exact groups_ne_nil u bytes hbytes (List.length_eq_zero_iff.1 (by omega))

/-- The text begins with a digit, not as the other forms do. -/
theorem exists_toChars_eq_cons : ∃ c rest, u.toChars = c :: rest ∧ c ≠ '{' ∧ c ≠ 'u' := by
  obtain ⟨rest, hrest⟩ := exists_join_cons '-' (hexOfBytes (u.bytes.toList.take 4))
    (u.groups.tail.map hexOfBytes)
  have hdigits : ∀ c ∈ hexOfBytes (u.bytes.toList.take 4), c ≠ '{' ∧ c ≠ 'u' :=
    forall_mem_hexOfBytes (by decide) _
  have hchars : u.toChars = hexOfBytes (u.bytes.toList.take 4) ++ rest := by
    rw [toChars_eq_join, ← hrest]
    rfl
  cases hfirst : hexOfBytes (u.bytes.toList.take 4) with
  | nil => simpa [length_hexOfBytes] using congrArg List.length hfirst
  | cons c more =>
    rw [hfirst] at hchars hdigits
    exact ⟨c, more ++ rest, hchars, hdigits c List.mem_cons_self⟩

/-- The text of an identifier is read as it. -/
theorem ofText?_toText : ofText? u.toText = some u := by
  obtain ⟨c, rest, hchars, hbrace, hletter⟩ := exists_toChars_eq_cons u
  have hdigits := ofDigits?_toChars u
  have hgroups := ofGroups?_toChars u
  rw [ofText?, toText, String.toList_ofList, trim_of_tight (tight_toChars u), ofChars?]
  rw [hchars] at hdigits hgroups ⊢
  rw [hdigits]
  simp only [between?, if_neg hbrace, dropLead?, if_neg (Ne.symm hletter), hgroups]

end SynthTable.Uuid
