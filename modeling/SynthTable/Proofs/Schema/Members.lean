import Mathlib.Data.List.Forall2
import SynthTable.Schema.Document

/-!
# Members that may be left out

A document leaves out the members that have their defaults. The values of a name among the members
are those of the one part that writes it, so the fields of a record are read from its parts
(`fields?_object`), and each reader gives back what was written or the default
(`optional?_map`, `orDefault?_flag`, `orDefault?_listField`).
-/

namespace SynthTable

variable {α : Type}

namespace Json

/-! ## The values of a name -/

theorem valuesOf_append (n : String) (members more : List (String × Json)) :
    valuesOf n (members ++ more) = valuesOf n members ++ valuesOf n more :=
  List.filterMap_append

theorem valuesOf_cons (n m : String) (v : Json) (members : List (String × Json)) :
    valuesOf n ((m, v) :: members) = (if m = n then [v] else []) ++ valuesOf n members := by
  by_cases h : m = n <;> simp [valuesOf, h]

theorem valuesOf_nil (n : String) : valuesOf n [] = [] := rfl

theorem valuesOf_optionalMember (n m : String) (toJson : α → Json) (a? : Option α) :
    valuesOf n (optionalMember m toJson a?) = if m = n then (a?.map toJson).toList else [] := by
  cases a? with
  | none => simp [optionalMember, valuesOf]
  | some a => simp [optionalMember, valuesOf_cons, valuesOf_nil]

/-- The fields of an object are the values of their names, each there at most once. -/
theorem fields?_object {names : List String} {fields : List (Option Json)}
    {members : List (String × Json)}
    (h : List.Forall₂ (fun n field => valuesOf n members = field.toList) names fields) :
    fields? names (.object members) = some fields := by
  rw [fields?]
  induction h with
  | nil => rfl
  | cons hfield _ ih =>
    rename_i field _ _ _
    rw [List.mapM_cons, hfield, ih]
    cases field <;> rfl

/-! ## The depth of what stands inside -/

theorem depth_le_of_mem_items {v : Json} {items : List Json} (h : v ∈ items) :
    v.depth ≤ depthOfItems items := by
  induction items with
  | nil => cases h
  | cons w rest ih =>
    rw [depthOfItems]
    rcases List.mem_cons.1 h with rfl | hrest
    · exact Nat.le_max_left _ _
    · exact Nat.le_trans (ih hrest) (Nat.le_max_right _ _)

theorem depth_le_of_mem_members {member : String × Json} {members : List (String × Json)}
    (h : member ∈ members) : member.2.depth ≤ depthOfMembers members := by
  induction members with
  | nil => cases h
  | cons m rest ih =>
    rw [depthOfMembers]
    rcases List.mem_cons.1 h with rfl | hrest
    · exact Nat.le_max_left _ _
    · exact Nat.le_trans (ih hrest) (Nat.le_max_right _ _)

/-! ## Reading back what was written -/

/-- A member that was written only if there is a value. -/
theorem optional?_map {read : Json → Option α} {toJson : α → Json} {a? : Option α}
    (hnull : ∀ a, toJson a ≠ .null) (hread : ∀ a ∈ a?, read (toJson a) = some a) :
    optional? read (a?.map toJson) = some a? := by
  cases a? with
  | none => rfl
  | some a =>
    rw [Option.map_some, optional?, hread a rfl]
    · rfl
    · exact hnull a

end Json

namespace Column

theorem valuesOf_flagMember (n m : String) (flag : Bool) :
    Json.valuesOf n (flagMember m flag) =
      if m = n then (if flag then some (.bool true) else none : Option Json).toList else [] := by
  cases flag with
  | false => simp [flagMember, Json.valuesOf]
  | true => simp [flagMember, Json.valuesOf_cons, Json.valuesOf_nil]

/-- The member of a list, if the list has an item. -/
def listField (toJson : List α → Json) : List α → Option Json
  | [] => none
  | items => some (toJson items)

theorem valuesOf_listMember (n m : String) (toJson : List α → Json) (items : List α) :
    Json.valuesOf n (listMember m toJson items) =
      if m = n then (listField toJson items).toList else [] := by
  cases items with
  | nil => simp [listMember, listField, Json.valuesOf]
  | cons a rest => simp [listMember, listField, Json.valuesOf_cons, Json.valuesOf_nil]

theorem orDefault?_flag (flag : Bool) :
    Json.orDefault? Json.bool? false (if flag then some (.bool true) else none) = some flag := by
  cases flag <;> rfl

theorem orDefault?_listField {read : Json → Option (List α)} {toJson : List α → Json}
    {items : List α} (hread : read (toJson items) = some items) :
    Json.orDefault? read [] (listField toJson items) = some items := by
  cases items with
  | nil => rfl
  | cons a rest => exact hread

/-- The fields of a column in the order of their names. -/
def documentFields (c : Column) : List (Option Json) :=
  [some (.string c.name), some (.string c.kind.label), if c.ghost then some (.bool true) else none,
    listField (fun ws => .object (ws.map fun pair => (pair.1, .integer pair.2.toInt))) c.values,
    c.min?.map Bound.toJson, c.max?.map Bound.toJson, c.length?.map fun n => .integer n.toInt,
    listField Json.ofTexts c.filters, c.pattern?.map .string, c.format?.map .string,
    if c.useNow then some (.bool true) else none, c.source?.map CsvSource.toJson,
    c.derivation?.map Derivation.toJson]

/-- Each field of a column is found under its name. -/
theorem fields?_toJson (c : Column) : c.toJson.fields? memberNames = some c.documentFields := by
  apply Json.fields?_object
  simp [memberNames, documentFields, Json.valuesOf_append, Json.valuesOf_cons,
    Json.valuesOf_optionalMember, valuesOf_flagMember, valuesOf_listMember]

end Column

end SynthTable
