import Mathlib.Algebra.Group.Nat.Even
import Mathlib.Data.List.DropRight
import SynthTable.Calendar.Format

/-!
# Formats that name the zone

A format is accepted piece by piece, and a specifier of the zone is a piece like any other; only
writing a time stops at it (`DateFormat.isSome_write?_iff`). Whether it will stop can be told from
the text of the format alone: a specifier of the zone stands in it after an even number of percent
signs, which pair up and leave the percent sign of the specifier to begin a piece
(`DateFormat.zone_mem_iff_namesZone`).
-/

namespace SynthTable.DateFormat

variable {cs piece rest : List Char} {items format : DateFormat}

/-! ## Writing -/

theorem isSome_itemText?_iff (t : DateTime) {item : FormatItem} :
    (itemText? t item).isSome ↔ item ≠ .zone := by
  cases item <;> simp [itemText?]

/-- A format is written for every time or for none. -/
theorem isSome_write?_iff (t : DateTime) : (write? format t).isSome ↔ .zone ∉ format := by
  rw [write?, Option.isSome_map]
  induction format with
  | nil => simp
  | cons item more ih =>
    rw [List.mapM_cons, List.mem_cons, not_or, ← ih, ← ne_eq, ne_comm, ← isSome_itemText?_iff t]
    cases itemText? t item <;> cases more.mapM (itemText? t) <;> simp

/-! ## Percent signs -/

/-- The number of percent signs at the end of a text. -/
def signsAtEnd (cs : List Char) : Nat := (cs.rtakeWhile (· == '%')).length

theorem signsAtEnd_append (xs ys : List Char) : signsAtEnd (xs ++ ys) =
    if signsAtEnd ys = ys.length then ys.length + signsAtEnd xs else signsAtEnd ys := by
  simp only [signsAtEnd, List.rtakeWhile, List.length_reverse, List.reverse_append,
    List.takeWhile_append]
  split
  · rw [List.length_append, List.length_reverse]
  · rfl

theorem signsAtEnd_eq_zero (h : '%' ∉ cs) : signsAtEnd cs = 0 := by
  rw [signsAtEnd, List.length_eq_zero_iff, List.rtakeWhile_eq_nil_iff]
  intro hne hlast
  rw [beq_iff_eq] at hlast
  exact h (hlast ▸ List.getLast_mem hne)

/-! ## Specifiers of the zone -/

/-- The specifiers of the zone. -/
def zoneSpecifiers : List (List Char) :=
  [['%', 'Z'], ['%', 'z'], ['%', ':', 'z'], ['%', ':', ':', 'z'], ['%', ':', ':', ':', 'z'],
    ['%', '#', 'z'], ['%', '+']]

/-- The characters that stand after the percent sign of a specifier of the zone. -/
def zoneMarks : List Char := ['Z', 'z', ':', '#', '+']

/-- A specifier of the zone stands in the text of a format. The percent signs just before it are
pairs that stand for one percent sign each. -/
def NamesZone (cs : List Char) : Prop :=
  ∃ before specifier after, specifier ∈ zoneSpecifiers ∧ cs = before ++ (specifier ++ after) ∧
    Even (signsAtEnd before)

theorem exists_mark {specifier : List Char} (h : specifier ∈ zoneSpecifiers) :
    ∃ mark ∈ zoneMarks, ∃ more, specifier = '%' :: mark :: more := by
  simp only [zoneSpecifiers, List.mem_cons, List.not_mem_nil, or_false] at h
  rcases h with rfl | rfl | rfl | rfl | rfl | rfl | rfl <;> exact ⟨_, by decide, _, rfl⟩

/-! ## Pieces -/

/-- A piece of the text of a format, and what it stands for. Of the parts of a time other than the
zone it matters only that they do not name it. -/
inductive Piece : List Char → DateFormat → Prop
  | plain {c : Char} (h : c ≠ '%') : Piece [c] [.literal c]
  | percent : Piece ['%', '%'] [.literal '%']
  | part {c : Char} {more : List Char} {items : DateFormat} (hmark : c ∉ zoneMarks)
      (hmore : '%' ∉ c :: more) (hitems : .zone ∉ items) : Piece ('%' :: c :: more) items
  | zone (specifier : List Char) (h : specifier ∈ zoneSpecifiers) : Piece specifier [.zone]

/-- A text cut into pieces. -/
inductive Pieces : List Char → DateFormat → Prop
  | nil : Pieces [] []
  | cons {piece rest : List Char} {items format : DateFormat} (hpiece : Piece piece items)
      (hrest : Pieces rest format) : Pieces (piece ++ rest) (items ++ format)

theorem numberOf?_eq_some {c : Char} {number : NumberPart × Filling}
    (h : numberOf? c = some number) : c ∉ zoneMarks ∧ c ≠ '%' := by
  rw [← not_or]
  intro hmem
  simp only [zoneMarks, List.mem_cons, List.not_mem_nil, or_false] at hmem
  rcases hmem with (rfl | rfl | rfl | rfl | rfl) | rfl <;> cases h

theorem piece_of_itemsOf? {c : Char} (h : itemsOf? c = some items) : Piece ['%', c] items := by
  unfold itemsOf? at h
  split at h
  · next part filling hnumber =>
    cases h
    obtain ⟨hmark, hne⟩ := numberOf?_eq_some hnumber
    exact .part hmark (by simpa using hne.symm) (by simp)
  · split at h <;> cases h
    -- The letters in their order in the table; those of the zone and the percent sign stand apart.
    all_goals
      first
      | exact .part (by decide) (by decide) (by decide)
      | exact .zone _ (by decide)
      | exact .percent

/-- A sign before the letter of a number changes its filling only. -/
theorem piece_of_refilled? {sign c : Char} {filling : Filling}
    (hsign : sign ∉ '%' :: zoneMarks) (h : refilled? filling c = some items) :
    Piece ['%', sign, c] items := by
  obtain ⟨number, hnumber, rfl⟩ := Option.map_eq_some_iff.1 h
  obtain ⟨hne, hmark⟩ := List.ne_and_not_mem_of_not_mem_cons hsign
  obtain ⟨-, hc⟩ := numberOf?_eq_some hnumber
  exact .part hmark (by simp [hne.symm, hc.symm]) (by simp)

theorem piece_fraction {d : Char} {item : FormatItem} (hd : d ∉ '%' :: zoneMarks)
    (hitem : item ≠ .zone) : Piece ['%', d, 'f'] [item] := by
  obtain ⟨hne, hmark⟩ := List.ne_and_not_mem_of_not_mem_cons hd
  exact .part hmark (by simpa using hne.symm) (by simpa using hitem.symm)

theorem piece_of_fractionWidth? {d : Char} {width : Nat} (h : fractionWidth? d = some width) :
    Piece ['%', '.', d, 'f'] [.fractionDigits width true] := by
  have hd : d ≠ '%' := by
    rintro rfl
    cases h
  exact .part (by decide) (by simpa using hd.symm) (by simp)

/-- If what follows a piece can be cut into pieces, so can the piece with what follows. -/
theorem Piece.cons_of_map (h : Piece piece items)
    (hrest : ∀ {format}, ofChars? rest = some format → Pieces rest format)
    (heq : (ofChars? rest).map (items ++ ·) = some format) : Pieces (piece ++ rest) format := by
  obtain ⟨more, hmore, rfl⟩ := Option.map_eq_some_iff.1 heq
  exact .cons h (hrest hmore)

/-- Accepted formats are cut into pieces. -/
theorem pieces_of_ofChars? (h : ofChars? cs = some format) : Pieces cs format := by
  fun_induction ofChars? cs generalizing format with
  | case1 =>
    cases h
    exact .nil
  | case2 rest ih => exact (Piece.zone ['%', ':', ':', ':', 'z'] (by decide)).cons_of_map ih h
  | case3 rest ih => exact (Piece.zone ['%', ':', ':', 'z'] (by decide)).cons_of_map ih h
  | case4 rest ih => exact (Piece.zone ['%', ':', 'z'] (by decide)).cons_of_map ih h
  | case5 rest ih => exact (Piece.zone ['%', '#', 'z'] (by decide)).cons_of_map ih h
  | case6 rest ih | case11 rest ih | case12 rest ih | case13 rest ih =>
    exact (piece_fraction (by decide) (by simp)).cons_of_map ih h
  | case7 d rest _ ih =>
    obtain ⟨width, hwidth, h⟩ := Option.bind_eq_some_iff.1 h
    exact (piece_of_fractionWidth? hwidth).cons_of_map ih h
  | case8 c rest ih | case9 c rest ih | case10 c rest ih =>
    obtain ⟨items, hitems, h⟩ := Option.bind_eq_some_iff.1 h
    exact (piece_of_refilled? (by decide) hitems).cons_of_map ih h
  | case14 c rest =>
    rename_i ih
    obtain ⟨items, hitems, h⟩ := Option.bind_eq_some_iff.1 h
    exact (piece_of_itemsOf? hitems).cons_of_map ih h
  | case15 => cases h
  | case16 c rest =>
    rename_i hsign hlast ih
    have hc : c ≠ '%' := by
      rintro rfl
      cases rest with
      | nil => exact hlast rfl rfl
      | cons d rest => exact hsign d rest rfl rfl
    exact (Piece.plain hc).cons_of_map ih h

/-! ## Where the zone is named -/

theorem Piece.even_signsAtEnd (h : Piece piece items) : Even (signsAtEnd piece) := by
  cases h with
  | plain h =>
    rw [signsAtEnd_eq_zero (by simpa using h.symm)]
    exact Even.zero
  | percent => decide
  | @part c more _ _ hmore _ =>
    rw [← List.singleton_append, signsAtEnd_append, signsAtEnd_eq_zero hmore,
      if_neg (by simp)]
    exact Even.zero
  | zone _ h =>
    have hall : ∀ specifier ∈ zoneSpecifiers, Even (signsAtEnd specifier) := by decide
    exact hall _ h

/-- A piece does not change how the percent signs after it pair up. -/
theorem Piece.even_append_iff (h : Piece piece items) (cs : List Char) :
    Even (signsAtEnd (piece ++ cs)) ↔ Even (signsAtEnd cs) := by
  rw [signsAtEnd_append]
  split
  · next hall => rw [Nat.even_add, hall, iff_true_right h.even_signsAtEnd]
  · rfl

theorem Piece.mem_zoneSpecifiers (h : Piece piece items) (hzone : .zone ∈ items) :
    piece ∈ zoneSpecifiers := by
  cases h with
  | plain | percent => simp at hzone
  | part _ _ hitems => exact absurd hzone hitems
  | zone _ h => exact h

/-- A percent sign in a piece begins it or is the second of a pair, so if a mark of the zone comes
after it, the piece is a specifier of the zone. -/
theorem Piece.zone_mem (h : Piece piece items) {before more after : List Char} {mark : Char}
    (hpiece : piece = before ++ '%' :: more) (hbefore : Even (signsAtEnd before))
    (hmark : mark ∈ zoneMarks) (htext : more ++ rest = mark :: after) : .zone ∈ items := by
  cases h with
  | @plain c h =>
    have hmem : '%' ∈ [c] := by
      rw [hpiece]
      simp
    exact absurd (List.mem_singleton.1 hmem).symm h
  | percent =>
    rcases List.append_eq_cons_iff.1 hpiece.symm with ⟨rfl, hmore⟩ | ⟨before, rfl, hmore⟩
    · cases hmore
      cases htext
      exact absurd hmark (by decide)
    · rcases List.append_eq_cons_iff.1 hmore.symm with ⟨rfl, -⟩ | ⟨before, rfl, hmore⟩
      · exact absurd hbefore (by decide)
      · simp at hmore
  | @part c tail _ hc htail _ =>
    rcases List.append_eq_cons_iff.1 hpiece.symm with ⟨rfl, hmore⟩ | ⟨before, rfl, hmore⟩
    · cases hmore
      cases htext
      exact absurd hmark hc
    · exact absurd (by rw [hmore]; simp) htail
  | zone => exact List.mem_singleton_self _

theorem Pieces.zone_mem_iff (h : Pieces cs format) : .zone ∈ format ↔ NamesZone cs := by
  induction h with
  | nil =>
    refine iff_of_false List.not_mem_nil ?_
    rintro ⟨before, specifier, after, hspecifier, hcs, -⟩
    obtain ⟨mark, -, more, rfl⟩ := exists_mark hspecifier
    simp at hcs
  | @cons piece rest items format hpiece hrest ih =>
    rw [List.mem_append, ih]
    constructor
    · rintro (hzone | ⟨before, specifier, after, hspecifier, rfl, heven⟩)
      · exact ⟨[], piece, rest, hpiece.mem_zoneSpecifiers hzone, rfl, by decide⟩
      · exact ⟨piece ++ before, specifier, after, hspecifier, (List.append_assoc ..).symm,
          (hpiece.even_append_iff before).2 heven⟩
    · rintro ⟨before, specifier, after, hspecifier, hcs, heven⟩
      rcases List.append_eq_append_iff.1 hcs with ⟨before, rfl, hrest⟩ | ⟨middle, hmiddle, hafter⟩
      · exact .inr ⟨before, specifier, after, hspecifier, hrest,
          (hpiece.even_append_iff before).1 heven⟩
      · cases middle with
        | nil => exact .inr ⟨[], specifier, after, hspecifier, hafter.symm, by decide⟩
        | cons sign more =>
          obtain ⟨mark, hmark, tail, rfl⟩ := exists_mark hspecifier
          obtain ⟨rfl, htext⟩ := List.cons_eq_cons.1 hafter
          exact .inl (hpiece.zone_mem hmiddle heven hmark htext.symm)

/-- Whether the pieces of an accepted format name the zone can be told from its text. -/
theorem zone_mem_iff_namesZone (h : ofChars? cs = some format) : .zone ∈ format ↔ NamesZone cs :=
  (pieces_of_ofChars? h).zone_mem_iff

end SynthTable.DateFormat
