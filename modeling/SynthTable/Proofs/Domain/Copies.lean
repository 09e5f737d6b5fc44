import SynthTable.Proofs.Calendar.Reading
import SynthTable.Proofs.Domain.Ranges
import SynthTable.Proofs.Reference.Names
import SynthTable.Proofs.Table.Fields
import SynthTable.Proofs.Value.Uuid

/-!
# Copies keep the value

Some kinds have values that their texts say in full: integers, truth values, identifiers, dates and
whole seconds. A field of such a kind casts the text of a value back to the value, so what it draws
survives the way through a text, and a template that is one reference copies the value that it
refers to (`Field.cast_toText`).
-/

namespace SynthTable

/-! ## The kinds and their values -/

/-- The kinds whose values can be read back from their texts. -/
def ColumnKind.exact : List ColumnKind :=
  [.integer, .long, .incrementInteger, .incrementLong, .timestamp, .boolean, .uuid, .birthdate,
    .date]

/-- The values of these kinds that their texts say in full: all but times with a fraction of a
second. A cell may also hold no value. -/
inductive ColumnKind.Holds : ColumnKind → Value → Prop where
  | null {kind : ColumnKind} (h : kind ∈ exact) : Holds kind .null
  | integer (n : Int64) : Holds .integer (.int n)
  | long (n : Int64) : Holds .long (.int n)
  | incrementInteger (n : Int64) : Holds .incrementInteger (.int n)
  | incrementLong (n : Int64) : Holds .incrementLong (.int n)
  | timestamp (n : Int64) : Holds .timestamp (.int n)
  | boolean (b : Bool) : Holds .boolean (.bool b)
  | uuid (u : Uuid) : Holds .uuid (.uuid u)
  | birthdate (d : Date) : Holds .birthdate (.date d)
  | date (t : DateTime) (h : t.nanosecond = 0) : Holds .date (.timestamp t)

/-- The domains of these kinds. -/
inductive Domain.IsExact : ColumnKind → Domain → Prop where
  | integer (values : PickList Int64) (min max : Int64) : IsExact .integer (.integer values min max)
  | long (values : PickList Int64) (min max : Int64) : IsExact .long (.integer values min max)
  | incrementInteger (start : Int64) : IsExact .incrementInteger (.counter start)
  | incrementLong (start : Int64) : IsExact .incrementLong (.counter start)
  | timestamp (values : PickList Int64) : IsExact .timestamp (.timestamp values)
  | boolean (values : PickList Bool) : IsExact .boolean (.boolean values)
  | uuid : IsExact .uuid .uuid
  | birthdate (values : PickList Date) (min max : Int64) :
    IsExact .birthdate (.birthdate values min max)
  | date (values : PickList DateTime) (min max : Int64) (useNow : Bool) :
    IsExact .date (.date values min max useNow none)

namespace Domain

variable {c : Column} {assets : AssetSource} {domain : Domain} {kind : ColumnKind} {v : Value}

theorem isExact_of_build (h : build c assets = .ok domain) (hkind : c.kind ∈ ColumnKind.exact) :
    IsExact c.kind domain := by
  simp only [ColumnKind.exact, List.mem_cons, List.not_mem_nil, or_false] at hkind
  rcases hkind with hkind | hkind | hkind | hkind | hkind | hkind | hkind | hkind | hkind <;>
    rw [build, hkind] at h <;> rw [hkind] <;> dsimp only at h
  · obtain ⟨values, low, high, -, -, -, -, rfl⟩ := exists_of_buildInteger h
    exact .integer values low high
  · obtain ⟨values, low, high, -, -, -, -, rfl⟩ := exists_of_buildInteger h
    exact .long values low high
  · obtain ⟨start, -, h⟩ := exists_ok_of_bind h
    cases h
    exact .incrementInteger start
  · obtain ⟨start, -, h⟩ := exists_ok_of_bind h
    cases h
    exact .incrementLong start
  · obtain ⟨values, -, h⟩ := exists_ok_of_bind h
    cases h
    exact .timestamp values
  · obtain ⟨values, -, h⟩ := exists_ok_of_bind h
    cases h
    exact .boolean values
  · cases h
    exact .uuid
  · obtain ⟨values, -, h⟩ := exists_ok_of_bind h
    obtain ⟨low, -, h⟩ := exists_ok_of_bind h
    obtain ⟨high, -, h⟩ := exists_ok_of_bind h
    split at h <;> cases h
    exact .birthdate values _ _
  · obtain ⟨values, low, high, format?, -, -, -, -, -, hnone, rfl⟩ := exists_of_buildDate h
    obtain rfl := hnone rfl
    exact .date values low high c.useNow

/-! ## Reading texts -/

theorem readInteger?_toString (n : Int64) : readInteger? (toString n.toInt) = some n := by
  rw [readInteger?, Text.trim_of_tight (Numeral.tight_toString _), Numeral.int64?_toString]

theorem readMilliseconds?_toString (n : Int64) :
    readMilliseconds? (toString n.toInt) = some n := by
  rw [readMilliseconds?, readInteger?_toString]

theorem readBool?_toString (b : Bool) : readBool? (toString b) = some b := by
  cases b <;> decide

theorem dateOf?_toText (d : Date) : dateOf? d.toText = some d := by
  rw [dateOf?, Date.ofText?_toText]

/-- A domain casts the text of a value to the value, and the text is not empty. -/
theorem cast_toText_of_isExact (hdomain : IsExact kind domain) (hv : kind.Holds v) :
    v = .null ∨ v.toText ≠ "" ∧ domain.cast v.toText = .ok v := by
  have hne {text : String} (h : Text.IsTight text.toList) : text ≠ "" := by
    rintro rfl
    exact h.ne_nil rfl
  cases hv with
  | null h => exact .inl rfl
  | integer n | long n | incrementInteger n | incrementLong n =>
    cases hdomain
    refine .inr ⟨hne (Numeral.tight_toString _), ?_⟩
    simp only [cast, Value.toText, readInteger?_toString, castTo]
  | timestamp n =>
    cases hdomain
    refine .inr ⟨hne (Numeral.tight_toString _), ?_⟩
    simp only [cast, Value.toText, readMilliseconds?_toString, castTo]
  | boolean b =>
    cases hdomain
    refine .inr ⟨by cases b <;> decide, ?_⟩
    simp only [cast, Value.toText, readBool?_toString, castTo]
  | uuid u =>
    cases hdomain
    refine .inr ⟨hne ?_, ?_⟩
    · rw [Value.toText, Uuid.toText, String.toList_ofList]
      exact u.tight_toChars
    · simp only [cast, Value.toText, Uuid.ofText?_toText, castTo]
  | birthdate d =>
    cases hdomain
    refine .inr ⟨hne d.tight_toText, ?_⟩
    simp only [cast, Value.toText, dateOf?_toText, castTo]
  | date t h =>
    cases hdomain
    refine .inr ⟨hne t.tight_toText, ?_⟩
    simp only [cast, Value.toText, DateTime.ofText?_toText h, castTo]

/-! ## Drawing values -/

theorem holds_of_drawTime {σ : Type} [RandomSource σ] {values : PickList DateTime}
    {low high : Int64} {s : σ} (h : (drawTime values low high none s).1 = .ok v)
    (hwhole : ∀ t, v = .timestamp t → t.nanosecond = 0) : ColumnKind.date.Holds v := by
  rcases drawTime_fst_cases values low high none s with ⟨t, ht⟩ | hnull
  · rw [ht] at h
    cases h
    exact .date t (hwhole t rfl)
  · rw [hnull] at h
    cases h
    exact .null (by decide)

theorem holds_drawDay {σ : Type} [RandomSource σ] (low high : Int64) (s : σ) :
    ColumnKind.birthdate.Holds (drawDay low high s).1 := by
  unfold drawDay
  dsimp only
  split
  · exact .birthdate _
  · exact .null (by decide)

theorem holds_drawUuid {σ : Type} [RandomSource σ] (s : σ) :
    ColumnKind.uuid.Holds (drawUuid s).1 := by
  unfold drawUuid
  dsimp only
  split
  · exact .uuid _
  · exact .null (by decide)

/-- What a domain draws is a value of its kind, unless it is a time with a fraction of a second. -/
theorem holds_of_generate {σ : Type} [RandomSource σ] {column : String} {w : World σ}
    (hdomain : IsExact kind domain) (h : (domain.generate column w).1 = .ok v)
    (hwhole : ∀ t, v = .timestamp t → t.nanosecond = 0) : kind.Holds v := by
  cases hdomain with
  | integer values min max | long values min max =>
    cases h
    constructor
  | incrementInteger start | incrementLong start =>
    cases h
    constructor
  | boolean values =>
    cases h
    exact .boolean _
  | timestamp values =>
    rw [generate] at h
    split at h <;> cases h <;> exact .timestamp _
  | uuid =>
    cases h
    exact holds_drawUuid w.source
  | birthdate values min max =>
    rcases hdraw : values.draw w.source with ⟨_ | d, s⟩
    · simp only [generate, drawn, World.draw, hdraw] at h
      cases h
      exact holds_drawDay min max s
    · simp only [generate, drawn, World.draw, hdraw] at h
      cases h
      exact .birthdate d
  | date values min max useNow =>
    cases useNow with
    | true =>
      cases h
      exact .date _ (hwhole _ rfl)
    | false =>
      simp only [generate, Bool.false_eq_true, if_false, World.draw] at h
      exact holds_of_drawTime h hwhole

end Domain

/-! ## References -/

namespace Template

/-- A reference to a column, in braces. -/
def referenceTo (name : String) : String := String.ofList ('$' :: '{' :: (name.toList ++ ['}']))

/-- A template that is one reference gives the text of the value that it refers to. -/
theorem render_referenceTo {name : String} {row : Row} {v : Value}
    (hname : Reference.IsName name.toList) (hv : row.get? name = some v) :
    (ofText (referenceTo name)).render row = v.toText := by
  have hsegments : Reference.segments Reference.templateStyle (referenceTo name).toList =
      [.reference ('$' :: '{' :: (name.toList ++ ['}'])) name.toList] := by
    rw [referenceTo, String.toList_ofList, Reference.segments]
    simp [Reference.afterDollar_braces hname, Reference.templateStyle, Reference.segments]
  rw [render, ofText, hsegments]
  simp [segmentText, hv]

end Template

namespace Field

variable {c : Column} {assets : AssetSource} {f : Field} {v : Value}

theorem cast_of_holds (h : build c assets = .ok f) (hkind : c.kind ∈ ColumnKind.exact)
    (hv : c.kind.Holds v) : f.cast v.toText = .ok v := by
  obtain ⟨domain, computation?, rfl, hdomain, -⟩ := eq_of_build h
  have hempty : Domain.keepsEmptyText c.kind = false := by
    have hall : ∀ kind ∈ ColumnKind.exact, Domain.keepsEmptyText kind = false := by decide
    exact hall c.kind hkind
  rw [cast]
  dsimp only
  rcases Domain.cast_toText_of_isExact (Domain.isExact_of_build hdomain hkind) hv with rfl | hcast
  · simp [Value.toText, hempty]
  · simp [hcast.1, hcast.2]

/-- A field that copies another column casts the text of its value. -/
theorem compute_of_referenceTo {name : String} {row : Row} (h : build c assets = .ok f)
    (hname : Reference.IsName name.toList)
    (hderivation : c.derivation? = some (.injection (Template.referenceTo name)))
    (hget : row.get? name = some v) : f.compute row = .ok (f.cast v.toText) := by
  obtain ⟨domain, computation?, rfl, -, hcomputation⟩ := eq_of_build h
  rw [computationOf, hderivation] at hcomputation
  cases hcomputation
  rw [compute]
  dsimp only
  rw [Computation.evaluate, Template.render_referenceTo hname hget]

/-- Values go through a text and come back. A field of a kind whose texts say values in full casts
the text of each value of the kind to the value; what it draws is such a value, but for times with
a fraction of a second; and as a copy of another column it has the value of that column. -/
theorem cast_toText (h : build c assets = .ok f) (hkind : c.kind ∈ ColumnKind.exact) :
    (∀ v, c.kind.Holds v → f.cast v.toText = .ok v) ∧
      (∀ {σ : Type} [RandomSource σ] (w : World σ) (v : Value), (f.generate w).1 = .ok v →
        (∀ t, v = .timestamp t → t.nanosecond = 0) →
        c.kind.Holds v ∧ f.cast v.toText = .ok v) ∧
      ∀ (name : String) (row : Row) (v : Value), Reference.IsName name.toList →
        c.derivation? = some (.injection (Template.referenceTo name)) →
        row.get? name = some v → c.kind.Holds v → f.compute row = .ok (.ok v) := by
  have hcast (v : Value) (hv : c.kind.Holds v) : f.cast v.toText = .ok v :=
    cast_of_holds h hkind hv
  refine ⟨hcast, ?_, ?_⟩
  · intro σ _ w v hgenerate hwhole
    have hv : c.kind.Holds v := by
      obtain ⟨domain, computation?, rfl, hdomain, -⟩ := eq_of_build h
      exact Domain.holds_of_generate (Domain.isExact_of_build hdomain hkind) hgenerate hwhole
    exact ⟨hv, hcast v hv⟩
  · intro name row v hname hderivation hget hv
    rw [compute_of_referenceTo h hname hderivation hget, hcast v hv]

/-- A copy of the dates of another column. -/
def dateCopy : Column :=
  { Column.plain "y" .birthdate with derivation? := some (.injection "${x}") }

/-- A row with the very first date, in a year of six digits before the year 0. -/
def firstDateRow : Row := .ofValues [⟨"x", false⟩, ⟨"y", false⟩] [.date Date.first]

theorem cast_toText_firstDate :
    dateCopy.kind ∈ ColumnKind.exact ∧ Date.first.toText = "-262143-01-01" ∧
      ColumnKind.birthdate.Holds (.date Date.first) ∧
      firstDateRow.get? "x" = some (.date Date.first) ∧
      ∀ assets, ∃ f, build dateCopy assets = .ok f ∧
        f.cast (Value.date Date.first).toText = .ok (.date Date.first) ∧
        f.compute firstDateRow = .ok (.ok (.date Date.first)) := by
  have hkind : dateCopy.kind ∈ ColumnKind.exact := by decide
  have hholds : ColumnKind.birthdate.Holds (.date Date.first) := .birthdate _
  have hget : firstDateRow.get? "x" = some (.date Date.first) := by decide
  refine ⟨hkind, by decide, hholds, hget, ?_⟩
  intro assets
  have hbuild : build dateCopy assets = .ok ⟨"y", false, .declared .birthdate
      (.birthdate ⟨[]⟩ Domain.firstBirthday Domain.lastBirthday)
      (some (.template (.ofText "${x}")))⟩ := by
    rfl
  obtain ⟨hcast, -, hcopy⟩ := cast_toText hbuild hkind
  have hname : Reference.IsName "x".toList := ⟨by decide, List.all_eq_true.1 (by decide +kernel)⟩
  have hreference : Template.referenceTo "x" = "${x}" := by decide
  have hderivation : dateCopy.derivation? = some (.injection (Template.referenceTo "x")) := by
    rw [hreference]
    rfl
  exact ⟨_, hbuild, hcast _ hholds, hcopy "x" firstDateRow _ hname hderivation hget hholds⟩

end Field

end SynthTable
