import SynthTable.Main
import SynthTable.Random.WordCycle
import SynthTable.Proofs.Table.Survival
import SynthTable.Proofs.Reference.Names
import SynthTable.Proofs.Formula.Columns
import SynthTable.Proofs.Computation.Reads
import SynthTable.Proofs.Table.Filling
import SynthTable.Proofs.Table.Consistency
import SynthTable.Proofs.Condition.Spelling
import SynthTable.Proofs.Draw.PickList
import SynthTable.Proofs.Domain.Shared
import SynthTable.Proofs.Table.Batches
import SynthTable.Proofs.Table.Workers
import SynthTable.Proofs.Table.Independence
import SynthTable.Proofs.Formula.Grammar
import SynthTable.Proofs.Formula.Layout
import SynthTable.Proofs.Formula.Printing
import SynthTable.Proofs.Formula.References
import SynthTable.Proofs.Condition.Printing
import SynthTable.Proofs.Domain.Attributes
import SynthTable.Proofs.Table.Links
import SynthTable.Proofs.Draw.Pattern
import SynthTable.Proofs.Sink.CsvRows
import SynthTable.Proofs.Sink.JsonLines
import SynthTable.Proofs.Schema.RoundTrip
import SynthTable.Proofs.Draw.Repetition
import SynthTable.Proofs.Schema.Forward
import SynthTable.Proofs.Table.Accounting
import SynthTable.Proofs.Table.Counting
import SynthTable.Proofs.Table.RowSeeds
import SynthTable.Proofs.Table.RisingNumbers
import SynthTable.Proofs.Table.Dependents
import SynthTable.Proofs.Table.Ghosts
import SynthTable.Proofs.Table.Appending
import SynthTable.Proofs.Table.Containment
import SynthTable.Proofs.Domain.Copies
import SynthTable.Proofs.Domain.Ranges
import SynthTable.Proofs.Domain.Periods
import SynthTable.Proofs.Computation.Substitution
import SynthTable.Proofs.Draw.Candidates
import SynthTable.Proofs.Draw.Capacity
import SynthTable.Proofs.Schema.Cycles
import SynthTable.Proofs.Domain.Formats
import SynthTable.Proofs.Domain.Horizon
import SynthTable.Proofs.Number.Rounding
import SynthTable.Proofs.Number.Values
import SynthTable.Proofs.Number.Notation
import SynthTable.Proofs.Number.Names
import SynthTable.Proofs.Number.LetterCase
import SynthTable.Proofs.Number.Shortest
import SynthTable.Proofs.Computation.Integers
import SynthTable.Proofs.Domain.IntegerTexts
import SynthTable.Proofs.Domain.IntegerBounds
import SynthTable.Proofs.Condition.Comparators
import SynthTable.Proofs.Domain.Listed
import SynthTable.Proofs.Domain.FiniteFloats
import SynthTable.Proofs.Domain.Dictionaries
import SynthTable.Proofs.Domain.CheckedBounds
import SynthTable.Proofs.Assets.Cache
