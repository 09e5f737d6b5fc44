import SynthTable.Assets.Cache
import SynthTable.Proofs.Text.Parts

/-!
# The cache of tables is transparent

A table is kept under a label in which path, separator and header mode are written one after the
other with bars between them. Paths may hold bars, but the label is read from its end, and so
different tables have different labels (`label_injective`). After any requests the cache holds
exactly the tables that have been asked for and could be read (`Holds`), with missing files marked as
such. So every request is answered as if it were the first one, and as if there were no cache
(`answers_eq_fresh`).
-/

namespace SynthTable

/-- The answer to a request without a cache. -/
def AssetSource.answer (source : AssetSource) : AssetRequest → Except AssetError AssetTable
  | .dictionary name => source.dictionary name
  | .table path separator => source.table path separator

/-- What a request reads: the path of a file, the separator and the header mode. -/
def AssetRequest.place (root : String) : AssetRequest → String × UInt8 × Bool
  | .dictionary name => (joinPath root name, 59, false)
  | .table path separator => (path, separator, true)

namespace AssetTable

theorem missing_of_withHeader {path : String} {separator : UInt8} {content : List UInt8}
    {table : AssetTable} (h : withHeader path separator content = .ok table) :
    table.missing = false := by
  unfold withHeader at h
  split at h
  · cases h
    rfl
  · split at h
    · cases h
    · split at h <;> cases h
      rfl

theorem missing_of_withoutHeader {path : String} {separator : UInt8} {content : List UInt8}
    {table : AssetTable} (h : withoutHeader path separator content = .ok table) :
    table.missing = false := by
  unfold withoutHeader at h
  dsimp only at h
  split at h <;> cases h
  rfl

/-- Only a file that does not exist gives a table with the mark, and this table is empty. -/
theorem missing_iff {path : String} {separator : UInt8} {hasHeader : Bool}
    {file : FileContent} {table : AssetTable}
    (h : ofFile path separator hasHeader file = .ok table) :
    table.missing = true ↔ file = .missing ∧ table = absent := by
  cases file with
  | missing =>
    cases h
    simp [absent]
  | closed reason => cases h
  | unreadable reason => cases h
  | bytes content =>
    have hthere : table.missing = false := by
      cases hasHeader with
      | true => exact missing_of_withHeader h
      | false => exact missing_of_withoutHeader h
    simp [hthere]

end AssetTable

namespace AssetCache

variable {root path path' : String} {separator separator' : UInt8} {hasHeader hasHeader' : Bool}
  {read : String → FileContent} {cache : AssetCache} {places : List (String × UInt8 × Bool)}

/-! ## Labels -/

theorem toList_label (path : String) (separator : UInt8) (hasHeader : Bool) :
    (label path separator hasHeader).toList =
      path.toList ++ '|' :: Char.ofNat separator.toNat :: '|' :: (toString hasHeader).toList := by
  simp [label]

theorem charOf_injective (h : Char.ofNat separator.toNat = Char.ofNat separator'.toNat) :
    separator = separator' := by
  have hsmall : ∀ b : UInt8, (Char.ofNat b.toNat).toNat = b.toNat := by
    intro b
    have hb := b.toNat_lt
    exact Text.toNat_ofNat_of_lt (by omega)
  rw [← UInt8.toNat_inj, ← hsmall, h, hsmall]

/-- Different tables have different labels, whatever characters the paths hold. -/
theorem label_injective (h : label path separator hasHeader = label path' separator' hasHeader') :
    path = path' ∧ separator = separator' ∧ hasHeader = hasHeader' := by
  have htext := congrArg String.toList h
  rw [toList_label, toList_label] at htext
  have hmode : hasHeader = hasHeader' := by
    -- read from the end, the words of the two header modes differ in their second letters
    have htrue : (toString true).toList = ['t', 'r', 'u', 'e'] := by decide
    have hfalse : (toString false).toList = ['f', 'a', 'l', 's', 'e'] := by decide
    have hreverse := congrArg List.reverse htext
    cases hasHeader <;> cases hasHeader'
    · rfl
    · simp [htrue, hfalse] at hreverse
    · simp [htrue, hfalse] at hreverse
    · rfl
  subst hmode
  obtain ⟨hpath, hend⟩ := List.append_inj' htext rfl
  simp only [List.cons.injEq, true_and, and_true] at hend
  exact ⟨String.toList_inj.1 hpath, charOf_injective hend, rfl⟩

/-! ## What the cache holds -/

/-- What is kept of a table once it has been asked for: nothing if it cannot be read. -/
def keptOf (read : String → FileContent) (path : String) (separator : UInt8) (hasHeader : Bool) :
    Option (Option AssetTable) :=
  match AssetTable.ofFile path separator hasHeader (read path) with
  | .error _ => none
  | .ok table => some (if table.missing then none else some table)

/-- The cache holds the tables that have been asked for and could be read, and no others. -/
structure Holds (read : String → FileContent) (places : List (String × UInt8 × Bool))
    (cache : AssetCache) : Prop where
  asked : ∀ path separator hasHeader, (path, separator, hasHeader) ∈ places →
    cache.find? (label path separator hasHeader) = keptOf read path separator hasHeader
  unasked : ∀ path separator hasHeader, (path, separator, hasHeader) ∉ places →
    cache.find? (label path separator hasHeader) = none

theorem holds_nil (read : String → FileContent) : Holds read [] [] :=
  ⟨fun _ _ _ hplace => absurd hplace List.not_mem_nil, fun _ _ _ _ => rfl⟩

theorem find?_cons (key key' : String) (entry : Option AssetTable) (cache : AssetCache) :
    find? ((key, entry) :: cache) key' = if key = key' then some entry else cache.find? key' := by
  rw [find?, List.find?_cons]
  by_cases hkey : key = key'
  · simp [hkey]
  · simp [hkey, find?]

/-- A kept table is what reading the file would give. -/
theorem ofFile_of_keptOf {entry : Option AssetTable}
    (h : keptOf read path separator hasHeader = some entry) :
    AssetTable.ofFile path separator hasHeader (read path) = .ok (entry.getD .absent) := by
  unfold keptOf at h
  split at h
  · cases h
  · next table htable =>
    rw [htable]
    cases h
    by_cases hmissing : table.missing = true
    · obtain ⟨-, rfl⟩ := (AssetTable.missing_iff htable).1 hmissing
      rfl
    · rw [if_neg hmissing]
      rfl

/-! ## Loading -/

theorem load_of_kept {entry : Option AssetTable}
    (h : cache.find? (label path separator hasHeader) = some entry) :
    cache.load read path separator hasHeader = (.ok (entry.getD .absent), cache) := by
  rw [load, h]
  cases entry <;> rfl

theorem load_of_error {e : AssetError}
    (h : cache.find? (label path separator hasHeader) = none)
    (hfile : AssetTable.ofFile path separator hasHeader (read path) = .error e) :
    cache.load read path separator hasHeader = (.error e, cache) := by
  rw [load, h, hfile]

theorem load_of_ok {table : AssetTable}
    (h : cache.find? (label path separator hasHeader) = none)
    (hfile : AssetTable.ofFile path separator hasHeader (read path) = .ok table) :
    cache.load read path separator hasHeader =
      (.ok table,
        (label path separator hasHeader, if table.missing then none else some table) :: cache) := by
  rw [load, h, hfile]

/-- A cache that comes to hold a table, and nothing else, under its label. -/
theorem Holds.ask {later : AssetCache} (h : Holds read places cache)
    (hplace : later.find? (label path separator hasHeader) = keptOf read path separator hasHeader)
    (hothers : ∀ key, key ≠ label path separator hasHeader → later.find? key = cache.find? key) :
    Holds read ((path, separator, hasHeader) :: places) later := by
  have hkey : ∀ {path' separator' hasHeader'},
      (path', separator', hasHeader') ≠ (path, separator, hasHeader) →
      later.find? (label path' separator' hasHeader') =
        cache.find? (label path' separator' hasHeader') := by
    intro path' separator' hasHeader' hne
    refine hothers _ fun hlabel => hne ?_
    obtain ⟨rfl, rfl, rfl⟩ := label_injective hlabel
    rfl
  constructor
  · intro path' separator' hasHeader' hmem
    by_cases hsame : (path', separator', hasHeader') = (path, separator, hasHeader)
    · cases hsame
      exact hplace
    · rw [hkey hsame]
      exact h.asked _ _ _ ((List.mem_cons.1 hmem).resolve_left hsame)
  · intro path' separator' hasHeader' hnew
    rw [List.mem_cons, not_or] at hnew
    rw [hkey hnew.1]
    exact h.unasked _ _ _ hnew.2

/-- A table is given as its file reads, from the cache or not, and is kept from then on. -/
theorem Holds.load (h : Holds read places cache) (path : String) (separator : UInt8)
    (hasHeader : Bool) :
    (cache.load read path separator hasHeader).1 =
        AssetTable.ofFile path separator hasHeader (read path) ∧
      Holds read ((path, separator, hasHeader) :: places)
        (cache.load read path separator hasHeader).2 := by
  cases hfind : cache.find? (label path separator hasHeader) with
  | some entry =>
    have hkept : keptOf read path separator hasHeader = some entry := by
      by_cases hasked : (path, separator, hasHeader) ∈ places
      · rw [← h.asked _ _ _ hasked, hfind]
      · rw [h.unasked _ _ _ hasked] at hfind
        cases hfind
    rw [load_of_kept hfind, ofFile_of_keptOf hkept]
    exact ⟨rfl, h.ask (hfind.trans hkept.symm) fun _ _ => rfl⟩
  | none =>
    cases hfile : AssetTable.ofFile path separator hasHeader (read path) with
    | error e =>
      have hkept : keptOf read path separator hasHeader = none := by rw [keptOf, hfile]
      rw [load_of_error hfind hfile]
      exact ⟨rfl, h.ask (hfind.trans hkept.symm) fun _ _ => rfl⟩
    | ok table =>
      rw [load_of_ok hfind hfile]
      refine ⟨rfl, h.ask ?_ fun key hkey => ?_⟩
      · rw [find?_cons, if_pos rfl, keptOf, hfile]
      · rw [find?_cons, if_neg hkey.symm]

/-! ## Requests one after another -/

theorem answer_eq_load (cache : AssetCache) (root : String) (read : String → FileContent)
    (request : AssetRequest) :
    cache.answer root read request =
      cache.load read (request.place root).1 (request.place root).2.1 (request.place root).2.2 := by
  cases request <;> rfl

/-- Without a cache a request reads its own place. -/
theorem answer_ofDirectory (root : String) (read : String → FileContent)
    (request : AssetRequest) :
    (AssetSource.ofDirectory root read).answer request =
      AssetTable.ofFile (request.place root).1 (request.place root).2.1 (request.place root).2.2
        (read (request.place root).1) := by
  cases request <;> rfl

theorem Holds.answer (h : Holds read places cache) (root : String) (request : AssetRequest) :
    (cache.answer root read request).1 = (AssetSource.ofDirectory root read).answer request ∧
      Holds read (request.place root :: places) (cache.answer root read request).2 := by
  rw [answer_eq_load, answer_ofDirectory]
  exact h.load _ _ _

/-- Requests are answered as without a cache, and what they have asked for is kept. -/
theorem Holds.answers (h : Holds read places cache) (root : String)
    (requests : List AssetRequest) :
    (cache.answers root read requests).1 =
        requests.map (AssetSource.ofDirectory root read).answer ∧
      Holds read ((requests.map (AssetRequest.place root)).reverse ++ places)
        (cache.answers root read requests).2 := by
  induction requests generalizing cache places with
  | nil => exact ⟨rfl, h⟩
  | cons request rest ih =>
    obtain ⟨hanswer, hheld⟩ := h.answer root request
    obtain ⟨hanswers, hlater⟩ := ih hheld
    refine ⟨?_, ?_⟩
    · rw [List.map_cons, ← hanswer, ← hanswers]
      rfl
    · rw [List.map_cons, List.reverse_cons, List.append_assoc]
      exact hlater

theorem keptOf_eq_missing_iff :
    keptOf read path separator hasHeader = some none ↔ read path = .missing := by
  constructor
  · intro hkept
    exact ((AssetTable.missing_iff (ofFile_of_keptOf hkept)).1 rfl).1
  · intro hmissing
    rw [keptOf, hmissing]
    rfl

/-- A dictionary is known to be missing if it has been asked for and no file is there. -/
theorem Holds.isMissing_iff (h : Holds read places cache) (path : String) :
    cache.isMissing path = true ↔ (path, 59, false) ∈ places ∧ read path = .missing := by
  rw [isMissing, beq_iff_eq]
  by_cases hasked : (path, 59, false) ∈ places
  · rw [h.asked _ _ _ hasked, keptOf_eq_missing_iff]
    simp only [hasked, true_and]
  · rw [h.unasked _ _ _ hasked]
    simp only [hasked, false_and, reduceCtorEq]

theorem mem_places_iff {requests : List AssetRequest} :
    (path, 59, false) ∈ requests.map (AssetRequest.place root) ↔
      ∃ name, .dictionary name ∈ requests ∧ joinPath root name = path := by
  rw [List.mem_map]
  constructor
  · rintro ⟨request, hrequest, hplace⟩
    cases request with
    | dictionary name => exact ⟨name, hrequest, congrArg Prod.fst hplace⟩
    | table other separator => cases hplace
  · rintro ⟨name, hname, rfl⟩
    exact ⟨_, hname, rfl⟩

/-- However requests follow one another, each is answered as by a cache that has not been asked for
anything, and as without a cache. No two tables share a label, whatever characters their paths hold.
A dictionary is known to be missing just if its path has been asked for and no file is there. -/
theorem answers_eq_fresh (root : String) (read : String → FileContent) (requests : List AssetRequest) :
    (answers [] root read requests).1 =
        requests.map (fun request => (answer [] root read request).1) ∧
    (answers [] root read requests).1 =
        requests.map (AssetSource.ofDirectory root read).answer ∧
    (∀ path separator hasHeader path' separator' hasHeader',
      label path separator hasHeader = label path' separator' hasHeader' ↔
        path = path' ∧ separator = separator' ∧ hasHeader = hasHeader') ∧
    ∀ path, (answers [] root read requests).2.isMissing path = true ↔
      (∃ name, .dictionary name ∈ requests ∧ joinPath root name = path) ∧ read path = .missing := by
  obtain ⟨hanswers, hheld⟩ := (holds_nil read).answers root requests
  refine ⟨?_, hanswers, ?_, ?_⟩
  · rw [hanswers]
    exact List.map_congr_left fun request _ => ((holds_nil read).answer root request).1.symm
  · intro path separator hasHeader path' separator' hasHeader'
    refine ⟨label_injective, ?_⟩
    rintro ⟨rfl, rfl, rfl⟩
    rfl
  · intro path
    rw [hheld.isMissing_iff, List.append_nil, List.mem_reverse, mem_places_iff]

end AssetCache

end SynthTable
