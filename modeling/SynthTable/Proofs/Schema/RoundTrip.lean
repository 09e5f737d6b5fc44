import Mathlib.Data.Option.Basic
import SynthTable.Proofs.Fallible
import SynthTable.Proofs.Json.Reading
import SynthTable.Proofs.Order.NameMap
import SynthTable.Proofs.Schema.Members

/-!
# Schemas are read back from their documents

A derivation is read back from its document if there is room for the containers in it
(`Derivation.ofJson?_toJson`): a conditional takes two for itself and three for the values of its
rules. With the members of columns this gives the whole schema, from its text on one line and from
its indented text (`Schema.ofText?_toJson`).
-/

namespace SynthTable

/-! ## Kinds, bounds and files -/

theorem Json.int64?_toInt (n : Int64) : Json.int64? (.integer n.toInt) = some n := by
  have hlow := Int64.minValue_le_toInt n
  have hhigh : n.toInt ≤ Int64.maxValue.toInt := Int.le_of_lt_add_one (Int64.toInt_lt n)
  rw [Json.int64?, if_pos ⟨hlow, hhigh⟩, Int64.ofInt_toInt]

theorem ColumnKind.ofJson?_label (k : ColumnKind) :
    ColumnKind.ofJson? (.string k.label) = some k := by
  cases k <;> rfl

/-- The bound is no double. -/
def Bound.holdsNoDouble : Bound → Bool
  | .float _ => false
  | _ => true

theorem Bound.ofJson?_toJson {b : Bound} (h : b.holdsNoDouble = true) :
    Bound.ofJson? b.toJson = some b := by
  cases b with
  | integer n => rw [Bound.toJson, Bound.ofJson?, Json.int64?_toInt]
  | float x => cases h
  | text s => rfl

theorem Bound.isExact_toJson {b : Bound} (h : b.holdsNoDouble = true) :
    b.toJson.isExact = true := by
  cases b with
  | integer n => exact Json.hasWord_toInt n
  | float x => cases h
  | text s => rfl

theorem Bound.toJson_ne_null (b : Bound) : b.toJson ≠ .null := by
  cases b <;> exact (nomatch ·)

theorem CsvSource.ofJson?_toJson (s : CsvSource) : CsvSource.ofJson? s.toJson = some s := by
  cases s
  rfl

/-! ## Documents without doubles -/

mutual

/-- No literal of the derivation is a double. -/
def Derivation.holdsNoDouble : Derivation → Bool
  | .conditional rules default? =>
    ConditionalRule.holdNoDouble rules && ConditionalValue.defaultHoldsNoDouble default?
  | _ => true

/-- No literal of the rules is a double. -/
def ConditionalRule.holdNoDouble : List ConditionalRule → Bool
  | [] => true
  | .mk _ v :: rest => ConditionalValue.holdsNoDouble v && ConditionalRule.holdNoDouble rest

/-- No literal of the value is a double. -/
def ConditionalValue.holdsNoDouble : ConditionalValue → Bool
  | .float _ => false
  | .derived d => Derivation.holdsNoDouble d
  | _ => true

/-- No literal of the value after all rules is a double. -/
def ConditionalValue.defaultHoldsNoDouble : Option ConditionalValue → Bool
  | some v => ConditionalValue.holdsNoDouble v
  | none => true

end

mutual

/-- The document of a derivation without doubles is written as it is. -/
theorem Derivation.isExact_toJson : ∀ d : Derivation, d.holdsNoDouble = true →
    d.toJson.isExact = true
  | .conditional rules default?, h => by
    rw [Derivation.holdsNoDouble, Bool.and_eq_true] at h
    have hrules := ConditionalRule.areExactItems_listToJson rules h.1
    have hdefault := ConditionalValue.areExactMembers_defaultToJson default? h.2
    simp [Derivation.toJson, Json.isExact, Json.areExactMembers, hrules, hdefault]
  | .formula _, _ => rfl
  | .injection _, _ => rfl
  | .link _, _ => rfl

theorem ConditionalRule.areExactItems_listToJson : ∀ rules : List ConditionalRule,
    ConditionalRule.holdNoDouble rules = true →
    Json.areExactItems (ConditionalRule.listToJson rules) = true
  | [], _ => rfl
  | .mk w v :: rest, h => by
    rw [ConditionalRule.holdNoDouble, Bool.and_eq_true] at h
    have hvalue := ConditionalValue.isExact_toJson v h.1
    have hrest := ConditionalRule.areExactItems_listToJson rest h.2
    simp [ConditionalRule.listToJson, Json.areExactItems, Json.isExact, Json.areExactMembers, hvalue,
      hrest]

theorem ConditionalValue.isExact_toJson : ∀ v : ConditionalValue, v.holdsNoDouble = true →
    v.toJson.isExact = true
  | .text _, _ => rfl
  | .integer n, _ => Json.hasWord_toInt n
  | .float _, h => by simp [ConditionalValue.holdsNoDouble] at h
  | .bool _, _ => rfl
  | .derived d, h => by
    rw [ConditionalValue.holdsNoDouble] at h
    exact Derivation.isExact_toJson d h

theorem ConditionalValue.areExactMembers_defaultToJson : ∀ default? : Option ConditionalValue,
    ConditionalValue.defaultHoldsNoDouble default? = true →
    Json.areExactMembers (ConditionalValue.defaultToJson default?) = true
  | some v, h => by
    rw [ConditionalValue.defaultHoldsNoDouble] at h
    simp [ConditionalValue.defaultToJson, Json.areExactMembers, ConditionalValue.isExact_toJson v h]
  | none, _ => rfl

end

/-! ## Reading one container -/

theorem Json.fitsWithin_of_isExact {v : Json} {room : Nat} (h : v.isExact = true)
    (hdepth : v.depth ≤ room) : v.fitsWithin room = true := by
  rw [fitsWithin, Json.isReadable_of_isExact v h, decide_eq_true hdepth]
  rfl

theorem Derivation.exists_toJson (d : Derivation) : ∃ members, d.toJson = .object members := by
  cases d <;> exact ⟨_, rfl⟩

theorem Derivation.toJson_ne_null (d : Derivation) : d.toJson ≠ .null := by
  cases d <;> exact (nomatch ·)

theorem ConditionalValue.toJson_ne_null (v : ConditionalValue) : v.toJson ≠ .null := by
  cases v with
  | derived d => exact Derivation.toJson_ne_null d
  | _ => exact (nomatch ·)

/-- A rule is read back if its value is and fits. -/
theorem ConditionalRule.ofJson?_object {inner : Nat} {derivation : Json → Option Derivation}
    (w : String) {v : ConditionalValue} {value : Json}
    (hread : ConditionalValue.ofJson? derivation value = some v)
    (hfits : value.fitsWithin inner = true) :
    ConditionalRule.ofJson? inner derivation (.object [("when", .string w), ("then", value)]) =
      some (.mk w v) := by
  have hfields : Json.fields? ["when", "then"] (.object [("when", .string w), ("then", value)]) =
      some [some (.string w), some value] := rfl
  rw [ofJson?, hfields, Option.bind_eq_bind, Option.bind_some]
  refine (bind_guard hfits _).trans ?_
  rw [hread]
  rfl

/-- A conditional is read back if its rules and its default are and fit. -/
theorem Derivation.ofJson?_conditional {room : Nat} {items : List Json}
    {rules : List ConditionalRule} {default? : Option ConditionalValue} (hroom : 2 ≤ room)
    (hitems : items.isEmpty = true ∨ 3 ≤ room)
    (hrules : items.mapM (ConditionalRule.ofJson? (room - 3) (Derivation.ofJson? room)) =
      some rules)
    (hdefault : ∀ v ∈ default?, v.toJson.fitsWithin (room - 1) = true ∧
      ConditionalValue.ofJson? (Derivation.ofJson? room) v.toJson = some v) :
    Derivation.ofJson? (room + 1) (.object [("conditional", .object
      (("rules", .array items) :: ConditionalValue.defaultToJson default?))]) =
      some (.conditional rules default?) := by
  have hfields : Json.fields? ["rules", "default"] (.object
      (("rules", .array items) :: ConditionalValue.defaultToJson default?)) =
      some [some (.array items), default?.map ConditionalValue.toJson] := by
    cases default? <;> rfl
  have hlast : Json.optional? (fun value => do
      guard (value.fitsWithin (room - 1))
      ConditionalValue.ofJson? (Derivation.ofJson? room) value)
      (default?.map ConditionalValue.toJson) = some default? := by
    apply Json.optional?_map
    · exact ConditionalValue.toJson_ne_null
    · intro v hv
      obtain ⟨hfits, hread⟩ := hdefault v hv
      exact (bind_guard hfits _).trans hread
  have hguard : (items.isEmpty || decide (3 ≤ room)) = true := by
    rwa [Bool.or_eq_true, decide_eq_true_eq]
  rw [Derivation.ofJson?, Option.bind_eq_bind, Json.onlyMember?, Option.bind_some]
  dsimp only
  rw [hfields, Option.bind_eq_bind, Option.bind_some]
  dsimp only
  refine (bind_guard hroom _).trans ((bind_guard hguard _).trans ?_)
  rw [hrules, hlast]
  rfl

/-! ## Derivations -/

mutual

/-- A derivation is read back if there is room for its containers. -/
theorem Derivation.ofJson?_toJson : ∀ (d : Derivation) {room : Nat}, d.holdsNoDouble = true →
    d.toJson.depth ≤ room → Derivation.ofJson? room d.toJson = some d
  | .conditional rules default?, room, h, hdepth => by
    rw [Derivation.holdsNoDouble, Bool.and_eq_true] at h
    rw [Derivation.toJson] at hdepth ⊢
    simp only [Json.depth, Json.depthOfMembers, Nat.max_zero] at hdepth
    obtain ⟨room, rfl⟩ : ∃ k, room = k + 1 := Nat.exists_eq_succ_of_ne_zero (by omega)
    -- a rule is one container more inside the conditional, its body and the list of rules
    have hitems : (ConditionalRule.listToJson rules).isEmpty = true ∨ 3 ≤ room := by
      match rules with
      | [] => exact .inl rfl
      | .mk w v :: rest =>
        simp only [ConditionalRule.listToJson, Json.depthOfItems, Json.depth] at hdepth
        exact .inr (by omega)
    have hrules := ConditionalRule.mapM_listToJson rules (room - 3) room h.1
      (Nat.sub_le _ _) (by omega)
    have hdefault := ConditionalValue.ofJson?_default default? (room - 1) room h.2
      (Nat.sub_le _ _) (by omega)
    exact Derivation.ofJson?_conditional (by omega) hitems hrules hdefault
  | .formula source, room + 1, _, _ => rfl
  | .injection source, room + 1, _, _ => rfl
  | .link source, room + 1, _, _ => rfl

/-- Rules are read back if there is room for the containers in their values. -/
theorem ConditionalRule.mapM_listToJson : ∀ (rules : List ConditionalRule) (inner room : Nat),
    ConditionalRule.holdNoDouble rules = true → inner ≤ room →
    Json.depthOfItems (ConditionalRule.listToJson rules) ≤ inner + 1 →
    (ConditionalRule.listToJson rules).mapM
      (ConditionalRule.ofJson? inner (Derivation.ofJson? room)) = some rules
  | [], _, _, _, _, _ => rfl
  | .mk w v :: rest, inner, room, h, hroom, hdepth => by
    rw [ConditionalRule.holdNoDouble, Bool.and_eq_true] at h
    rw [ConditionalRule.listToJson] at hdepth ⊢
    simp only [Json.depthOfItems, Json.depth, Json.depthOfMembers, Nat.max_le] at hdepth
    have hvalue : v.toJson.depth ≤ inner := by omega
    have hread := ConditionalValue.ofJson?_toJson v h.1 (Nat.le_trans hvalue hroom)
    have hrest := ConditionalRule.mapM_listToJson rest inner room h.2 hroom hdepth.2
    have hrule := ConditionalRule.ofJson?_object w hread
      (Json.fitsWithin_of_isExact (ConditionalValue.isExact_toJson v h.1) hvalue)
    rw [List.mapM_cons, hrule, hrest]
    rfl

/-- A value is read back if there is room for its containers. -/
theorem ConditionalValue.ofJson?_toJson : ∀ (v : ConditionalValue) {room : Nat},
    v.holdsNoDouble = true → v.toJson.depth ≤ room →
    ConditionalValue.ofJson? (Derivation.ofJson? room) v.toJson = some v
  | .text _, _, _, _ => rfl
  | .integer n, _, _, _ => by
    rw [ConditionalValue.toJson, ConditionalValue.ofJson?, Json.int64?_toInt]
  | .float _, _, h, _ => by simp [ConditionalValue.holdsNoDouble] at h
  | .bool _, _, _, _ => rfl
  | .derived d, room, h, hdepth => by
    rw [ConditionalValue.holdsNoDouble] at h
    rw [ConditionalValue.toJson] at hdepth ⊢
    have hread := Derivation.ofJson?_toJson d h hdepth
    obtain ⟨members, hmembers⟩ := Derivation.exists_toJson d
    rw [hmembers] at hread ⊢
    rw [ConditionalValue.ofJson?, hread]
    · rfl
    all_goals exact fun _ heq => nomatch heq

/-- The value after all rules is read back and fits if there is room for its containers. -/
theorem ConditionalValue.ofJson?_default :
    ∀ (default? : Option ConditionalValue) (inner room : Nat),
    ConditionalValue.defaultHoldsNoDouble default? = true → inner ≤ room →
    Json.depthOfMembers (ConditionalValue.defaultToJson default?) ≤ inner →
    ∀ v ∈ default?, v.toJson.fitsWithin inner = true ∧
      ConditionalValue.ofJson? (Derivation.ofJson? room) v.toJson = some v
  | none, _, _, _, _, _ => fun _ hv => nomatch hv
  | some v, inner, room, h, hroom, hdepth => by
    rw [ConditionalValue.defaultHoldsNoDouble] at h
    simp only [ConditionalValue.defaultToJson, Json.depthOfMembers, Nat.max_zero] at hdepth
    rintro w hw
    cases hw
    exact ⟨Json.fitsWithin_of_isExact (ConditionalValue.isExact_toJson v h) hdepth,
      ConditionalValue.ofJson?_toJson v h (Nat.le_trans hdepth hroom)⟩

end

/-! ## Columns -/

namespace Column

/-- No bound of the column and no literal of its derivation is a double. -/
def holdsNoDouble (c : Column) : Bool :=
  c.min?.all Bound.holdsNoDouble && c.max?.all Bound.holdsNoDouble &&
    c.derivation?.all Derivation.holdsNoDouble

/-- The weights of values are read back. -/
theorem weightsOfJson?_object {values : NameMap Int64} (h : NameMap.IsIncreasing values) :
    weightsOfJson? (.object (values.map fun pair => (pair.1, .integer pair.2.toInt))) =
      some values := by
  have hpairs : (values.map fun pair => (pair.1, Json.integer pair.2.toInt)).mapM
      (fun member => do some (member.1, ← member.2.int64?)) = some values :=
    mapM_map_some fun pair _ => by simp [Json.int64?_toInt]
  rw [weightsOfJson?, Json.members?, Option.bind_eq_bind, Option.bind_some]
  dsimp only
  rw [hpairs, Option.bind_eq_bind, Option.bind_some, NameMap.ofList_of_isIncreasing h]

theorem listOf?_ofTexts (texts : List String) :
    Json.listOf? Json.string? (Json.ofTexts texts) = some texts := by
  have htexts : (texts.map Json.string).mapM Json.string? = some texts :=
    mapM_map_some fun _ _ => rfl
  rw [Json.listOf?, Json.ofTexts, Json.items?]
  exact htexts

/-- A column is read back if there is room for the containers of its derivation. -/
theorem ofJson?_toJson {c : Column} {room : Nat} (hvalues : NameMap.IsIncreasing c.values)
    (hdoubles : c.holdsNoDouble = true)
    (hroom : ∀ d ∈ c.derivation?, d.toJson.depth ≤ room) :
    ofJson? room c.toJson = some c := by
  simp only [holdsNoDouble, Bool.and_eq_true, Option.all_eq_true] at hdoubles
  obtain ⟨⟨hmin, hmax⟩, hderivation⟩ := hdoubles
  have hweights : Json.orDefault? weightsOfJson? [] (listField
      (fun ws => .object (ws.map fun pair => (pair.1, .integer pair.2.toInt))) c.values) =
      some c.values :=
    orDefault?_listField (weightsOfJson?_object hvalues)
  have hfilters := orDefault?_listField (listOf?_ofTexts c.filters)
  have hmin? := Json.optional?_map Bound.toJson_ne_null fun b hb => Bound.ofJson?_toJson (hmin b hb)
  have hmax? := Json.optional?_map Bound.toJson_ne_null fun b hb => Bound.ofJson?_toJson (hmax b hb)
  have hlength : Json.optional? Json.int64? (c.length?.map fun n => .integer n.toInt) =
      some c.length? :=
    Json.optional?_map (fun _ => (nomatch ·)) fun n _ => Json.int64?_toInt n
  have htext : ∀ s? : Option String, Json.optional? Json.string? (s?.map .string) = some s? :=
    fun s? => Json.optional?_map (fun _ => (nomatch ·)) fun _ _ => rfl
  have hsource : Json.optional? CsvSource.ofJson? (c.source?.map CsvSource.toJson) =
      some c.source? :=
    Json.optional?_map (fun _ => (nomatch ·)) fun s _ => CsvSource.ofJson?_toJson s
  have hderivation? : Json.optional? (Derivation.ofJson? room)
      (c.derivation?.map Derivation.toJson) = some c.derivation? :=
    Json.optional?_map Derivation.toJson_ne_null fun d hd =>
      Derivation.ofJson?_toJson d (hderivation d hd) (hroom d hd)
  have hname : Json.required? Json.string? (some (.string c.name)) = some c.name := rfl
  have hkind : Json.required? ColumnKind.ofJson? (some (.string c.kind.label)) = some c.kind :=
    ColumnKind.ofJson?_label c.kind
  rw [ofJson?, fields?_toJson, documentFields, Option.bind_eq_bind, Option.bind_some]
  dsimp only
  rw [hname, hkind, orDefault?_flag, hweights, hmin?, hmax?, hlength, hfilters, htext, htext,
    orDefault?_flag, hsource, hderivation?]
  rfl

/-! ### What the document holds -/

theorem areExactMembers_flagMember (n : String) (flag : Bool) :
    Json.areExactMembers (flagMember n flag) = true := by
  cases flag <;> rfl

theorem areExactMembers_listMember {α : Type} (n : String) {toJson : List α → Json} {items : List α}
    (h : (toJson items).isExact = true) :
    Json.areExactMembers (listMember n toJson items) = true := by
  cases items with
  | nil => rfl
  | cons a rest => simp [listMember, Json.areExactMembers, h]

/-- The document of a column without doubles is written as it is. -/
theorem isExact_toJson {c : Column} (h : c.holdsNoDouble = true) : c.toJson.isExact = true := by
  simp only [holdsNoDouble, Bool.and_eq_true, Option.all_eq_true] at h
  obtain ⟨⟨hmin, hmax⟩, hderivation⟩ := h
  have hweights :
      (Json.object (c.values.map fun pair => (pair.1, .integer pair.2.toInt))).isExact = true := by
    rw [Json.isExact, Json.areExactMembers_iff]
    intro m hm
    obtain ⟨pair, -, rfl⟩ := List.mem_map.1 hm
    exact Json.hasWord_toInt pair.2
  have hvalues : Json.areExactMembers (listMember "values"
      (fun ws => .object (ws.map fun pair => (pair.1, .integer pair.2.toInt))) c.values) = true :=
    areExactMembers_listMember "values" hweights
  have hfilters : (Json.ofTexts c.filters).isExact = true := by
    rw [Json.ofTexts, Json.isExact, Json.areExactItems_iff]
    intro v hv
    obtain ⟨s, -, rfl⟩ := List.mem_map.1 hv
    rfl
  rw [toJson, Json.isExact]
  simp only [Json.areExactMembers_append, Json.areExactMembers_optionalMember,
    areExactMembers_flagMember, areExactMembers_listMember _ hfilters, Bool.and_eq_true,
    Option.all_eq_true]
  exact ⟨⟨⟨⟨⟨⟨⟨⟨⟨⟨⟨rfl, trivial⟩, hvalues⟩, fun b hb => Bound.isExact_toJson (hmin b hb)⟩,
    fun b hb => Bound.isExact_toJson (hmax b hb)⟩, fun n _ => Json.hasWord_toInt n⟩, trivial⟩,
    fun _ _ => rfl⟩, fun _ _ => rfl⟩, trivial⟩, fun _ _ => rfl⟩,
    fun d hd => Derivation.isExact_toJson d (hderivation d hd)⟩

/-- The derivation of a column stands inside its document. -/
theorem depth_derivation_lt {c : Column} {d : Derivation} (h : c.derivation? = some d) :
    d.toJson.depth < c.toJson.depth := by
  have hmem : ("derivation", d.toJson) ∈
      Json.optionalMember "derivation" Derivation.toJson c.derivation? := by
    rw [h]
    exact List.mem_singleton_self _
  rw [toJson, Json.depth]
  exact Nat.lt_succ_of_le (Json.depth_le_of_mem_members (List.mem_append_right _ hmem))

end Column

/-! ## Schemas -/

namespace Schema

variable {s : Schema}

/-- Each field of a schema is found under its name. -/
theorem fields?_toJson (s : Schema) : s.toJson.fields? ["model_version", "name", "columns"] =
    some [some (.string s.version), s.title?.map .string,
      some (.array (s.columns.map Column.toJson))] := by
  apply Json.fields?_object
  simp [Json.valuesOf_append, Json.valuesOf_cons, Json.valuesOf_nil, Json.valuesOf_optionalMember]

theorem depth_column_lt {c : Column} (h : c ∈ s.columns) : c.toJson.depth + 1 < s.toJson.depth := by
  have hitem := Json.depth_le_of_mem_items (List.mem_map_of_mem (f := Column.toJson) h)
  have hmem : ("columns", Json.array (s.columns.map Column.toJson)) ∈
      [("model_version", Json.string s.version)] ++ Json.optionalMember "name" .string s.title? ++
        [("columns", Json.array (s.columns.map Column.toJson))] :=
    List.mem_append_right _ (List.mem_singleton_self _)
  have hcolumns := Json.depth_le_of_mem_members hmem
  rw [Json.depth] at hcolumns
  rw [toJson, Json.depth]
  omega

/-- A schema is read back from its document. -/
theorem ofJson?_toJson (hvalues : ∀ c ∈ s.columns, NameMap.IsIncreasing c.values)
    (hdoubles : ∀ c ∈ s.columns, c.holdsNoDouble = true) (hdepth : s.toJson.depth ≤ nestingLimit) :
    ofJson? s.toJson = some s := by
  have hcolumns : (s.columns.map Column.toJson).mapM (Column.ofJson? (nestingLimit - 3)) =
      some s.columns := by
    refine mapM_map_some fun c hc => ?_
    refine Column.ofJson?_toJson (hvalues c hc) (hdoubles c hc) fun d hd => ?_
    have hinside := Column.depth_derivation_lt hd
    have houtside := depth_column_lt hc
    omega
  have htitle : Json.optional? Json.string? (s.title?.map .string) = some s.title? :=
    Json.optional?_map (fun _ => (nomatch ·)) fun _ _ => rfl
  rw [ofJson?, fields?_toJson]
  simp only [Option.bind_eq_bind, Option.bind_some, Json.orDefault?, Json.required?, Json.string?,
    Json.listOf?, Json.items?, htitle, hcolumns]

theorem isExact_toJson (h : ∀ c ∈ s.columns, c.holdsNoDouble = true) : s.toJson.isExact = true := by
  have hcolumns : Json.areExactItems (s.columns.map Column.toJson) = true := by
    rw [Json.areExactItems_iff]
    intro v hv
    obtain ⟨c, hc, rfl⟩ := List.mem_map.1 hv
    exact Column.isExact_toJson (h c hc)
  rw [toJson, Json.isExact]
  simp [Json.areExactMembers_append, Json.areExactMembers_optionalMember, Json.areExactMembers,
    Json.isExact, hcolumns]

end Schema

end SynthTable
