import SynthTable.Schema.Basic

/-!
# What a derivation reads

The names that a derivation reads are those of its parts. Those that must be columns are among all of
them (`requiredReferences_subset`), and so are the columns of its links (`column_mem_required`).
-/

namespace SynthTable

mutual

theorem Derivation.readNames_subset {n : String} :
    ∀ d : Derivation, n ∈ d.readNames false → n ∈ d.readNames true
  | .conditional rules default?, h => by
    rw [Derivation.readNames, List.mem_append] at h ⊢
    exact h.imp (ConditionalRule.readNames_subset rules)
      (ConditionalValue.readNames_subset_option default?)
  | .formula _, h => h
  | .injection _, h => by simp [Derivation.readNames] at h
  | .link _, h => h

theorem ConditionalRule.readNames_subset {n : String} :
    ∀ rules : List ConditionalRule, n ∈ ConditionalRule.readNamesOfList false rules →
      n ∈ ConditionalRule.readNamesOfList true rules
  | [], h => h
  | .mk w v :: rest, h => by
    simp only [ConditionalRule.readNamesOfList, List.mem_append] at h ⊢
    exact h.imp (Or.imp_right (ConditionalValue.readNames_subset v))
      (ConditionalRule.readNames_subset rest)

theorem ConditionalValue.readNames_subset {n : String} :
    ∀ v : ConditionalValue, n ∈ ConditionalValue.readNames false v →
      n ∈ ConditionalValue.readNames true v
  | .derived d, h => Derivation.readNames_subset d h
  | .text _, h | .integer _, h | .float _, h | .bool _, h => h

theorem ConditionalValue.readNames_subset_option {n : String} :
    ∀ v? : Option ConditionalValue, n ∈ ConditionalValue.readNamesOfOption false v? →
      n ∈ ConditionalValue.readNamesOfOption true v?
  | some v, h => ConditionalValue.readNames_subset v h
  | none, h => h

end

mutual

theorem Derivation.column_mem_readNames {w : Bool} {link : LinkTarget} :
    ∀ d : Derivation, link ∈ d.links → link.column ∈ d.readNames w
  | .conditional rules default?, h => by
    rw [Derivation.links, List.mem_append] at h
    rw [Derivation.readNames, List.mem_append]
    exact h.imp (ConditionalRule.column_mem_readNames rules)
      (ConditionalValue.column_mem_readNames_option default?)
  | .formula _, h => by simp [Derivation.links] at h
  | .injection _, h => by simp [Derivation.links] at h
  | .link source, h => by
    simp only [Derivation.links, Option.mem_toList] at h
    simp only [Derivation.readNames, Option.mem_toList, Option.map_eq_some_iff]
    exact ⟨link, h, rfl⟩

theorem ConditionalRule.column_mem_readNames {w : Bool} {link : LinkTarget} :
    ∀ rules : List ConditionalRule, link ∈ ConditionalRule.linksOfList rules →
      link.column ∈ ConditionalRule.readNamesOfList w rules
  | [], h => by simp [ConditionalRule.linksOfList] at h
  | .mk _ v :: rest, h => by
    simp only [ConditionalRule.linksOfList, List.mem_append] at h
    simp only [ConditionalRule.readNamesOfList, List.mem_append]
    exact h.imp (fun hv => Or.inr (ConditionalValue.column_mem_readNames v hv))
      (ConditionalRule.column_mem_readNames rest)

theorem ConditionalValue.column_mem_readNames {w : Bool} {link : LinkTarget} :
    ∀ v : ConditionalValue, link ∈ ConditionalValue.links v →
      link.column ∈ ConditionalValue.readNames w v
  | .derived d, h => Derivation.column_mem_readNames d h
  | .text _, h | .integer _, h | .float _, h | .bool _, h => by simp [ConditionalValue.links] at h

theorem ConditionalValue.column_mem_readNames_option {w : Bool} {link : LinkTarget} :
    ∀ v? : Option ConditionalValue, link ∈ ConditionalValue.linksOfOption v? →
      link.column ∈ ConditionalValue.readNamesOfOption w v?
  | some v, h => ConditionalValue.column_mem_readNames v h
  | none, h => by simp [ConditionalValue.linksOfOption] at h

end

namespace Derivation

/-- The names that must be columns are read. -/
theorem requiredReferences_subset {d : Derivation} {n : String} (h : n ∈ d.requiredReferences) :
    n ∈ d.references := by
  rw [requiredReferences, Names.mem_ofList] at h
  rw [references, Names.mem_ofList]
  exact readNames_subset d h

/-- The target of a link must be a column. -/
theorem column_mem_required {d : Derivation} {link : LinkTarget} (h : link ∈ d.links) :
    link.column ∈ d.requiredReferences := by
  rw [requiredReferences, Names.mem_ofList]
  exact column_mem_readNames d h

end Derivation

theorem Column.references_of_derivation {c : Column} {d : Derivation} (h : c.derivation? = some d) :
    c.references = d.references := by
  simp [references, h]

theorem Column.exists_derivation {c : Column} {n : String} (h : n ∈ c.references) :
    ∃ d, c.derivation? = some d ∧ n ∈ d.references := by
  unfold references at h
  split at h
  · next d hd => exact ⟨d, hd, h⟩
  · simp at h

end SynthTable
