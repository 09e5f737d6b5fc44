import SynthTable.Json.Basic
import SynthTable.Schema.Basic

/-!
# The graph of references

Which columns a column reads makes a graph. The report gives an order in which every column comes
after those it reads, the earliest column first wherever there is a choice, or the columns that no
such order can place. The order is made with a counter for each column, of the columns it still waits
for, and the set of those that wait for none.
-/

namespace SynthTable

/-- What the references of a schema say about the order of its columns. -/
structure ReferenceReport where
  nodes : Nat
  edges : Nat
  computed : Nat
  /-- An order that respects every reference. -/
  order? : Option (List String)
  /-- The columns left over if there is no such order. -/
  cycle? : Option (List String)
  /-- The columns that read a column not declared before them. -/
  outOfOrder : List String

namespace ReferenceReport

/-- The order of declaration respects every reference. -/
def isValid (r : ReferenceReport) : Bool := r.cycle?.isNone && r.outOfOrder.isEmpty

/-- A report as a JSON object. -/
def toJson (r : ReferenceReport) : Json :=
  .object [
    ("summary", .object [("nodes", .ofNat r.nodes), ("edges", .ofNat r.edges),
      ("computed", .ofNat r.computed)]),
    ("topo_order", .orNull .ofTexts r.order?), ("cycle", .orNull .ofTexts r.cycle?),
    ("out_of_order", .ofTexts r.outOfOrder)]

end ReferenceReport

namespace Schema

/-- The place of the last column of a name, counted from `index`. -/
def lastPositionFrom (name : String) (index : Nat) : List Column → Option Nat
  | [] => none
  | c :: rest =>
    match lastPositionFrom name (index + 1) rest with
    | some i => some i
    | none => if c.name = name then some index else none

/-- The places of the columns that a column reads. -/
def sourcesOf (s : Schema) (c : Column) : List Nat :=
  c.references.filterMap fun name => lastPositionFrom name 0 s.columns

/-- The edges from the places that a column reads to its own place. -/
def link (graph : List (List Nat)) (sources : List Nat) (index : Nat) : List (List Nat) :=
  sources.foldl (fun graph source => graph.modify source (Ascending.insert index)) graph

/-- For every column the set of the places of the columns that read it. -/
def graph (s : Schema) : List (List Nat) :=
  s.columns.zipIdx.foldl (fun graph (c, index) => link graph (s.sourcesOf c) index)
    (List.replicate s.columns.length [])

/-- The counters with the edges to some places counted. -/
def countTargets (counts targets : List Nat) : List Nat :=
  targets.foldl (fun counts i => counts.modify i (· + 1)) counts

/-- For every place how many places lead to it. -/
def indegrees (graph : List (List Nat)) : List Nat :=
  graph.foldl countTargets (List.replicate graph.length 0)

/-- The places whose counters pass a test. -/
def placesWhere (p : Nat → Bool) (counts : List Nat) : List Nat :=
  (List.range counts.length).filter fun i => p (counts.getD i 0)

/-- The sorting of places under way. -/
structure Sorting where
  /-- The places that have been put in order. -/
  order : List Nat
  /-- For every place how many places that lead to it are still to be put in order. -/
  counts : List Nat
  /-- The set of the places that may come next. -/
  ready : List Nat

namespace Sorting

/-- Nothing is in order yet. -/
def start (graph : List (List Nat)) : Sorting :=
  let counts := indegrees graph
  ⟨[], counts, placesWhere (· = 0) counts⟩

/-- A place waits for one place less, and may come next if it waits for none. -/
def release (st : Sorting) (i : Nat) : Sorting :=
  let counts := st.counts.modify i (· - 1)
  ⟨st.order, counts, if counts.getD i 0 = 0 then Ascending.insert i st.ready else st.ready⟩

/-- Puts places in order as long as there are any that may come next, the first of them each time.
The steps are counted down: there are no more of them than places. -/
def run (graph : List (List Nat)) : Nat → Sorting → Sorting
  | 0, st => st
  | count + 1, st =>
    match st.ready with
    | [] => st
    | i :: ready =>
      run graph count ((graph.getD i []).foldl release ⟨st.order ++ [i], st.counts, ready⟩)

end Sorting

/-- All places in an order that follows the edges, or the places that are left over. -/
def toposort (graph : List (List Nat)) : Except (List Nat) (List Nat) :=
  let st := Sorting.run graph graph.length (.start graph)
  if st.order.length = graph.length then .ok st.order else .error (placesWhere (0 < ·) st.counts)

/-- The name of the column at a place. -/
def nameAt (s : Schema) (index : Nat) : String := ((s.columns[index]?).map (·.name)).getD ""

/-- The report on the references of a schema. -/
def referenceReport (s : Schema) : ReferenceReport :=
  let sorted := toposort s.graph
  { nodes := s.graph.length
    edges := s.graph.flatten.length
    computed := s.columns.countP (·.isComputed)
    order? := sorted.toOption.map (·.map s.nameAt)
    cycle? := match sorted with
      | .ok _ => none
      | .error left => some (left.map s.nameAt)
    outOfOrder := (s.columns.zipIdx.filter fun (c, i) => (s.sourcesOf c).any (i ≤ ·)).map
      (·.1.name) }

end Schema

end SynthTable
