import SynthTable.Order.Sorted

/-!
# Maps from names

The names of a map increase (`isIncreasing_insert`), so that an increasing list of pairs is the map
of its pairs (`ofList_of_isIncreasing`). An insertion changes the value of its own name only
(`get?_insert`).
-/

namespace SynthTable.NameMap

variable {α : Type}

/-- The names increase from one to the next, as they do in every map. -/
def IsIncreasing (map : NameMap α) : Prop := (map.map (·.1)).Pairwise (· < ·)

/-- A name after all others is put at the end. -/
theorem insert_of_lt {map : NameMap α} {name : String} (value : α)
    (h : ∀ n ∈ map.map (·.1), n < name) : insert name value map = map ++ [(name, value)] := by
  induction map with
  | nil => rfl
  | cons entry rest ih =>
    obtain ⟨n, v⟩ := entry
    have hlt : n < name := h n List.mem_cons_self
    have hrest := ih fun m hm => h m (List.mem_cons_of_mem n hm)
    rw [insert, if_neg (String.lt_asymm hlt), if_neg (Ne.symm (String.ne_of_lt hlt)), hrest,
      List.cons_append]

theorem foldl_insert (map : NameMap α) {more : NameMap α} (h : IsIncreasing (map ++ more)) :
    more.foldl (fun map pair => insert pair.1 pair.2 map) map = map ++ more := by
  induction more generalizing map with
  | nil => rw [List.foldl_nil, List.append_nil]
  | cons entry rest ih =>
    have hbefore : ∀ n ∈ map.map (·.1), n < entry.1 := by
      intro n hn
      rw [IsIncreasing, List.map_append, List.pairwise_append] at h
      exact h.2.2 n hn entry.1 List.mem_cons_self
    rw [List.append_cons] at h ⊢
    rw [List.foldl_cons, insert_of_lt entry.2 hbefore]
    exact ih _ h

/-- An increasing list is the map of its pairs. -/
theorem ofList_of_isIncreasing {map : NameMap α} (h : IsIncreasing map) : ofList map = map :=
  foldl_insert [] h

/-! ## Insertion -/

theorem mem_names_insert {map : NameMap α} {name n : String} {value : α} :
    n ∈ (insert name value map).map (·.1) ↔ n = name ∨ n ∈ map.map (·.1) := by
  induction map with
  | nil => simp [insert]
  | cons entry rest ih =>
    obtain ⟨m, v⟩ := entry
    unfold insert
    split
    · simp
    · split
      · next h => simp [h]
      · rw [List.map_cons, List.mem_cons, ih, List.map_cons, List.mem_cons]
        exact or_left_comm

/-- Insertion keeps the order of the names. -/
theorem isIncreasing_insert {map : NameMap α} (h : IsIncreasing map) (name : String) (value : α) :
    IsIncreasing (insert name value map) := by
  induction map with
  | nil => exact List.pairwise_singleton _ _
  | cons entry rest ih =>
    obtain ⟨n, v⟩ := entry
    obtain ⟨hfirst, hrest⟩ := List.pairwise_cons.1 h
    unfold insert
    split
    · next hlt =>
      refine List.pairwise_cons.2 ⟨fun m hm => ?_, h⟩
      rcases List.mem_cons.1 hm with rfl | hm
      · exact hlt
      · exact String.lt_trans hlt (hfirst m hm)
    · split
      · next heq =>
        subst heq
        exact h
      · next hle hne =>
        refine List.pairwise_cons.2 ⟨fun m hm => ?_, ih hrest⟩
        rcases mem_names_insert.1 hm with rfl | hm
        · exact Std.lt_of_le_of_ne (Std.not_lt.1 hle) (Ne.symm hne)
        · exact hfirst m hm

/-- An insertion changes the value of its own name only. -/
theorem get?_insert (map : NameMap α) (name n : String) (value : α) :
    get? n (insert name value map) = if n = name then some value else get? n map := by
  induction map with
  | nil => simp [insert, get?, eq_comm]
  | cons entry rest ih =>
    obtain ⟨m, v⟩ := entry
    unfold insert
    split
    · simp [get?, eq_comm]
    · split
      · next h =>
        subst h
        by_cases hn : name = n
        · simp [get?, hn]
        · simp [get?, hn, Ne.symm hn]
      · next hne =>
        rw [get?, get?, ih]
        by_cases hm : m = n
        · subst hm
          simp [Ne.symm hne]
        · simp [hm]

end SynthTable.NameMap
