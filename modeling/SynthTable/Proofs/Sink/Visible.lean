import Mathlib.Data.List.Forall2
import SynthTable.Proofs.Sink.Delivery
import SynthTable.Sink.CsvRows
import SynthTable.Sink.JsonLines

/-!
# Sinks see what is visible

Both sinks for files take their rows one after another and see of each only what is visible
(`CsvRows.seesVisible`, `JsonLines.seesVisible`). Such a sink cannot tell rows apart that differ in
ghosts only, however they are cut into batches (`Sink.deliver_congr`).
-/

namespace SynthTable

/-! ## Rows that differ in ghosts -/

namespace Row

variable {layout : Layout} {row row' : Row}

/-- Two complete rows of a layout have the same values in the columns that are no ghosts. -/
structure AgreeVisibly (layout : Layout) (row row' : Row) : Prop where
  completes : row.Completes layout
  completes' : row'.Completes layout
  values_eq : ∀ (i : Nat) (c : LayoutColumn), layout[i]? = some c → c.ghost = false →
    row.values[i]? = row'.values[i]?

theorem filter_zip_congr {layout : Layout} {values values' : List Value}
    (hlength : values.length = layout.length) (hlength' : values'.length = layout.length)
    (h : ∀ (i : Nat) (c : LayoutColumn), layout[i]? = some c → c.ghost = false →
      values[i]? = values'[i]?) :
    (layout.zip values).filter (!·.1.ghost) = (layout.zip values').filter (!·.1.ghost) := by
  induction layout generalizing values values' with
  | nil => rfl
  | cons c rest ih =>
    obtain ⟨v, vs, rfl⟩ := List.exists_cons_of_length_eq_add_one hlength
    obtain ⟨v', vs', rfl⟩ := List.exists_cons_of_length_eq_add_one hlength'
    have hrest := ih (Nat.succ.inj hlength) (Nat.succ.inj hlength') fun i => h (i + 1)
    rw [List.zip_cons_cons, List.zip_cons_cons, List.filter_cons, List.filter_cons, hrest]
    cases hghost : c.ghost with
    | true => rfl
    | false =>
      obtain rfl : v = v' := Option.some.inj (h 0 c rfl hghost)
      rfl

/-- Complete rows show the same if they differ in ghosts only. -/
theorem AgreeVisibly.visible_eq (h : AgreeVisibly layout row row') : row.visible = row'.visible := by
  obtain ⟨⟨rfl, hcomplete⟩, ⟨hlayout, hcomplete'⟩, hvalues⟩ := h
  rw [isComplete, beq_iff_eq] at hcomplete hcomplete'
  rw [hlayout] at hcomplete'
  rw [visible, visible, cells, cells, hlayout, filter_zip_congr hcomplete hcomplete' hvalues]

end Row

/-! ## Sinks -/

namespace Sink

/-- A step of a sink and what follows it, unless the sink stops. -/
def andThen {ε τ : Type} (first : Except (Stop ε) Unit × τ)
    (next : τ → Except (Stop ε) Unit × τ) : Except (Stop ε) Unit × τ :=
  match first with
  | (.ok (), s) => next s
  | (.error stop, s) => (.error stop, s)

theorem andThen_assoc {ε τ : Type} (first : Except (Stop ε) Unit × τ)
    (next last : τ → Except (Stop ε) Unit × τ) :
    andThen (andThen first next) last = andThen first fun s => andThen (next s) last := by
  rcases first with ⟨stop | _, s⟩ <;> rfl

/-- A sink takes its rows one after another and sees of each only what is visible. -/
structure SeesVisible {ε : Type} (τ : Type) [Sink ε τ] : Prop where
  nil : ∀ s : τ, write [] s = (.ok (), s)
  cons : ∀ row rows (s : τ), write (row :: rows) s = andThen (write [row] s) (write rows)
  visible : ∀ row row', row.visible = row'.visible → ∀ s : τ, write [row] s = write [row'] s

namespace SeesVisible

variable {ε τ : Type} [Sink ε τ]

theorem append (h : SeesVisible τ) (xs ys : List Row) (s : τ) :
    write (xs ++ ys) s = andThen (write xs s) (write ys) := by
  induction xs generalizing s with
  | nil =>
    rw [List.nil_append, h.nil]
    rfl
  | cons row rest ih =>
    rw [List.cons_append, h.cons, h.cons row rest, andThen_assoc]
    exact congrArg (andThen _) (funext ih)

/-- How rows are cut into batches makes no difference. -/
theorem writeAll_eq (h : SeesVisible τ) (batches : List (List Row)) (s : τ) :
    writeAll batches s = write batches.flatten s := by
  induction batches generalizing s with
  | nil => exact (h.nil s).symm
  | cons batch rest ih =>
    rw [List.flatten_cons, h.append, ← funext ih]
    rfl

theorem write_congr (h : SeesVisible τ) {rows rows' : List Row}
    (hrows : List.Forall₂ (fun row row' => row.visible = row'.visible) rows rows') (s : τ) :
    write rows s = write rows' s := by
  induction hrows generalizing s with
  | nil => rfl
  | @cons row row' rows rows' hrow _ ih =>
    rw [h.cons, h.cons row', h.visible row row' hrow, funext ih]

end SeesVisible

/-- Deliveries of rows that show the same end the same and leave the same sink behind. -/
theorem deliver_congr {ε τ : Type} [Sink ε τ] (h : SeesVisible τ) {batches batches' : List (List Row)}
    (hrows : List.Forall₂ (fun row row' => row.visible = row'.visible) batches.flatten
      batches'.flatten) (layout : Layout) (s : τ) :
    deliver layout batches s = deliver layout batches' s := by
  rw [deliver, deliver]
  rcases start layout s with ⟨stop | _, s₁⟩
  · rfl
  · dsimp only
    rw [h.writeAll_eq, h.writeAll_eq, h.write_congr hrows]

end Sink

theorem CsvRows.seesVisible : Sink.SeesVisible CsvRows := by
  refine ⟨fun _ => rfl, fun row rows s => ?_, fun row row' h s => ?_⟩
  · show writeRows (row :: rows) s = Sink.andThen (writeRows [row] s) (writeRows rows)
    rw [writeRows, writeRows]
    rcases writeTexts (recordOf row) s with ⟨stop | _, s₁⟩ <;> rfl
  · have hrecord : recordOf row = recordOf row' := by
      rw [recordOf, recordOf, Row.visibleValues, Row.visibleValues, h]
    show writeRows [row] s = writeRows [row'] s
    rw [writeRows, writeRows, hrecord]

theorem JsonLines.seesVisible : Sink.SeesVisible JsonLines := by
  refine ⟨fun _ => rfl, fun row rows s => ?_, fun row row' h s => ?_⟩
  · show ((writeRows (row :: rows) s.device).1, JsonLines.mk (writeRows (row :: rows) s.device).2) =
      Sink.andThen ((writeRows [row] s.device).1, JsonLines.mk (writeRows [row] s.device).2)
        (Sink.write rows)
    rw [writeRows, writeRows]
    rcases s.device.write (documentBytes row) with ⟨_ | _, device⟩
    · rfl
    · dsimp only
      rcases device.write [10] with ⟨_ | _, last⟩ <;> rfl
  · have hdocument : documentBytes row = documentBytes row' := by
      rw [documentBytes, documentBytes, Row.toJson, Row.toJson, h]
    show ((writeRows [row] s.device).1, JsonLines.mk (writeRows [row] s.device).2) =
      ((writeRows [row'] s.device).1, JsonLines.mk (writeRows [row'] s.device).2)
    rw [writeRows, writeRows, hdocument]

end SynthTable
