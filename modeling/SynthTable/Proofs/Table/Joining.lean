import Mathlib.Logic.Relation
import SynthTable.Proofs.Table.Filling

/-!
# External columns

External columns join a plan one by one (`Joins`), each under a name that no field has. However many
have joined, the fields of the plan are still there, before all that joined (`exists_joined`), and
the names are still distinct.
-/

namespace SynthTable.Plan

/-- A plan and the plan with one external column more. -/
def Joins (p q : Plan) : Prop := ∃ name source, p.withExternal name source = .ok q

/-- A plan and the plan with some external columns more. -/
structure Joined (p q : Plan) (more : List Field) : Prop where
  fields_eq : q.fields = p.fields ++ more
  dropped_eq : q.dropped = p.dropped
  /-- No external column takes the name of another column. -/
  nodup : (p.fields.map (·.name)).Nodup → (q.fields.map (·.name)).Nodup

theorem Joined.refl (p : Plan) : Joined p p [] := ⟨(List.append_nil _).symm, rfl, id⟩

variable {p q r : Plan} {more : List Field}

theorem withExternal_eq_ok_iff {name : String} {source : ExternalSource} :
    p.withExternal name source = .ok q ↔
      Text.isAllBlank name = false ∧ name ∉ p.fields.map (·.name) ∧
        q = { p with fields := p.fields ++ [.external name source] } := by
  rw [withExternal]
  split
  · next htaken =>
    rw [Bool.or_eq_true, Option.isSome_iff_ne_none, ne_eq, Layout.position?_eq_none_iff,
      names_layout] at htaken
    simp only [reduceCtorEq, false_iff]
    rintro ⟨hblank, hnew, -⟩
    rcases htaken with htaken | htaken
    · rw [hblank] at htaken
      cases htaken
    · exact htaken hnew
  · next hfree =>
    rw [Bool.or_eq_true, not_or, Bool.not_eq_true, Bool.not_eq_true, Option.isSome_eq_false_iff,
      Option.isNone_iff_eq_none, Layout.position?_eq_none_iff, names_layout] at hfree
    simp [hfree, eq_comm]

theorem Joined.join (h : Joined p q more) (hjoins : Joins q r) :
    ∃ f, Joined p r (more ++ [f]) := by
  obtain ⟨name, source, hjoin⟩ := hjoins
  obtain ⟨-, hnew, rfl⟩ := withExternal_eq_ok_iff.1 hjoin
  refine ⟨.external name source, ?_, h.dropped_eq, fun hnodup => ?_⟩
  · show q.fields ++ _ = _
    rw [h.fields_eq, List.append_assoc]
  · show ((q.fields ++ _).map _).Nodup
    rw [List.map_append, List.map_singleton, List.nodup_append]
    refine ⟨h.nodup hnodup, List.pairwise_singleton _ _, ?_⟩
    rintro n hn _ hself rfl
    obtain rfl : n = name := List.mem_singleton.1 hself
    exact hnew hn

/-- The fields of a plan are there before all external columns that joined it. -/
theorem exists_joined (h : Relation.ReflTransGen Joins p q) : ∃ more, Joined p q more := by
  induction h with
  | refl => exact ⟨[], .refl p⟩
  | tail _ hjoins ih =>
    obtain ⟨more, hjoined⟩ := ih
    obtain ⟨f, hjoined'⟩ := hjoined.join hjoins
    exact ⟨_, hjoined'⟩

end SynthTable.Plan
