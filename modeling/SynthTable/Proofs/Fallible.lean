import Mathlib.Data.List.Forall2

/-!
# Steps that may fail

What the steps of a computation gave if the whole of it gave a result.
-/

namespace SynthTable

variable {ε α β : Type}

/-- If two steps that may fail give a result, both succeed. -/
theorem exists_ok_of_bind {x : Except ε α} {f : α → Except ε β} {b : β}
    (h : (x >>= f) = .ok b) : ∃ a, x = .ok a ∧ f a = .ok b := by
  cases x with
  | error e => cases h
  | ok a => exact ⟨a, rfl, h⟩

theorem exists_ok_of_map {x : Except ε α} {f : α → β} {b : β} (h : x.map f = .ok b) :
    ∃ a, x = .ok a ∧ f a = b := by
  cases x with
  | error e => cases h
  | ok a => exact ⟨a, rfl, Except.ok.inj h⟩

/-- A step that never fails leaves it to the one before whether there is a result. -/
theorem exists_bind_ok_iff {x : Except ε α} {f : α → β} :
    (∃ b, (x >>= fun a => .ok (f a)) = Except.ok b) ↔ ∃ a, x = .ok a := by
  cases x <;> simp [bind, Except.bind]

theorem eq_ok_of_toOption {x : Except ε α} {a : α} (h : x.toOption = some a) :
    x = .ok a := by
  cases x with
  | error e => cases h
  | ok b => rw [Option.some.inj h]

/-- A traversal gives a result for each element. -/
theorem forall₂_of_mapM {f : α → Except ε β} {xs : List α} {ys : List β}
    (h : xs.mapM f = .ok ys) : List.Forall₂ (fun x y => f x = .ok y) xs ys := by
  induction xs generalizing ys with
  | nil =>
    cases h
    exact .nil
  | cons x xs ih =>
    rw [List.mapM_cons] at h
    obtain ⟨y, hy, h⟩ := exists_ok_of_bind h
    obtain ⟨rest, hrest, h⟩ := exists_ok_of_bind h
    cases h
    exact .cons hy (ih hrest)

/-- A traversal of what is made of some elements gives these back if each step does. -/
theorem mapM_map_pure {m : Type → Type} [Monad m] [LawfulMonad m] {f : β → m α} {g : α → β}
    {xs : List α} (h : ∀ x ∈ xs, f (g x) = pure x) : (xs.map g).mapM f = pure xs := by
  induction xs with
  | nil => rfl
  | cons x xs ih =>
    rw [List.map_cons, List.mapM_cons, h x List.mem_cons_self, pure_bind,
      ih fun y hy => h y (List.mem_cons_of_mem x hy), pure_bind]

theorem mapM_map_ok {f : β → Except ε α} {g : α → β} {xs : List α}
    (h : ∀ x ∈ xs, f (g x) = .ok x) : (xs.map g).mapM f = .ok xs :=
  mapM_map_pure h

theorem mapM_map_some {f : β → Option α} {g : α → β} {xs : List α}
    (h : ∀ x ∈ xs, f (g x) = some x) : (xs.map g).mapM f = some xs :=
  mapM_map_pure h

/-- A condition that holds stops nothing. -/
theorem bind_guard {p : Prop} [Decidable p] (h : p) (x : Option α) :
    ((guard p : Option Unit).bind fun _ => x) = x := by
  rw [guard, if_pos h]
  rfl

theorem exists_of_forall₂ {r : α → β → Prop} {xs : List α} {ys : List β}
    (h : List.Forall₂ r xs ys) {x : α} (hx : x ∈ xs) : ∃ y ∈ ys, r x y := by
  induction h with
  | nil => cases hx
  | cons hxy hrest ih =>
    rcases List.mem_cons.1 hx with rfl | hx
    · exact ⟨_, List.mem_cons_self, hxy⟩
    · exact (ih hx).imp fun _ hy => ⟨List.mem_cons_of_mem _ hy.1, hy.2⟩

/-- A relation of lists may be replaced by one that holds where it does. -/
theorem forall₂_of_mem {r r' : α → β → Prop} {xs : List α} {ys : List β}
    (h : List.Forall₂ r xs ys) (himp : ∀ x, ∀ y ∈ ys, r x y → r' x y) : List.Forall₂ r' xs ys := by
  induction h with
  | nil => exact .nil
  | cons hxy _ ih =>
    exact .cons (himp _ _ List.mem_cons_self hxy)
      (ih fun x y hy => himp x y (List.mem_cons_of_mem _ hy))

/-- Related lists are cut at the same place. -/
theorem exists_append_cons_of_forall₂ {r : α → β → Prop} {xs xs' : List α} {x : α} {zs : List β}
    (h : List.Forall₂ r (xs ++ x :: xs') zs) :
    ∃ ys y ys', zs = ys ++ y :: ys' ∧ List.Forall₂ r xs ys ∧ r x y ∧ List.Forall₂ r xs' ys' := by
  induction xs generalizing zs with
  | nil =>
    cases h with
    | cons hxy hrest => exact ⟨[], _, _, rfl, .nil, hxy, hrest⟩
  | cons _ _ ih =>
    cases h with
    | cons hfirst hrest =>
      obtain ⟨ys, y, ys', rfl, hys, hxy, hys'⟩ := ih hrest
      exact ⟨_ :: ys, y, ys', rfl, .cons hfirst hys, hxy, hys'⟩

end SynthTable
