import SchemaTransfer.Catalog.Basic
import SchemaTransfer.DefaultValue

/-!
# The range of a sequence

A sequence takes the type of the column it feeds, and no value beyond what that type holds. It
starts again where the source left off, kept between its bounds. Main statement: bounding never
raises a maximum.
-/

namespace SchemaTransfer

namespace Sequence

/-- The maximum once the target's type bounds it. -/
def boundedMax (s : Sequence) (target : String) : Int64 :=
  match TypeName.capacity? target with
  | some capacity => if capacity < s.maxValue then capacity else s.maxValue
  | none => s.maxValue

/-- The nearest number of 64 bits. -/
def saturated (n : Int) : Int64 :=
  Int64.ofInt (max (-9223372036854775808) (min 9223372036854775807 n))

/-- The value to go on with, before the bounds are looked at. -/
def nextValue (s : Sequence) : Int64 :=
  if s.isCalled then saturated (s.lastValue.toInt + s.increment.toInt) else s.lastValue

/-- The value at which the sequence starts again; bounds that exclude each other bound nothing. -/
def resumeValue (s : Sequence) : Int64 :=
  if s.minValue ≤ s.maxValue then
    if s.nextValue < s.minValue then s.minValue
    else if s.maxValue < s.nextValue then s.maxValue
    else s.nextValue
  else s.nextValue

/-- Whether the default of a column takes the next value of the sequence. -/
def feeds (s : Sequence) (schema : String) (c : Column) : Bool :=
  match c.defaultExpr with
  | some raw => DefaultValue.ofText schema raw == .nextValue s.schema s.name
  | none => false

/-- The columns of a catalog that a sequence feeds, in order. -/
def fedColumns (s : Sequence) (tables : List Table) : List Column :=
  tables.flatMap fun t => t.columns.filter (s.feeds t.schema)

/-- The type that bounds a sequence: that of its owner, else of the first column that it feeds,
else its own. -/
def feedingType (s : Sequence) (tables : List Table) : String :=
  match s.ownerType with
  | some owner => owner
  | none =>
    match (s.fedColumns tables).head? with
    | some c => c.elementType
    | none => s.dataType

/-- The sequence with its type in the target and its maximum bounded. -/
def resolved (s : Sequence) (tables : List Table) : Sequence :=
  let target := (TypeMapping.ofName (s.feedingType tables)).target
  { s with targetType := target, maxValue := s.boundedMax target }

end Sequence

namespace Catalog

/-- Resolves every sequence of a catalog. -/
def resolveSequences (k : Catalog) : Catalog :=
  { k with sequences := k.sequences.map fun s => s.resolved k.tables }

/-- The number of sequences whose maximum resolving lowers. -/
def clampedCount (k : Catalog) : Nat :=
  (k.sequences.filter fun s => (s.resolved k.tables).maxValue != s.maxValue).length

end Catalog

namespace Sequence

/-- Bounding never raises a maximum. -/
theorem boundedMax_le (s : Sequence) (target : String) : s.boundedMax target ≤ s.maxValue := by
  unfold boundedMax
  split
  · split
    · exact Int64.le_of_lt ‹_›
    · exact Int64.le_refl _
  · exact Int64.le_refl _

end Sequence

end SchemaTransfer
