import Mathlib.Logic.Basic
import SchemaTransfer.Conversion.Plan

/-!
# What the transformations leave alone

Taking arrays apart changes columns and index keys, sizing changes columns, and bounding changes
the types and the maxima of sequences. Schemas, foreign keys and the names of tables and sequences
are the same before and after.
-/

namespace SchemaTransfer

namespace Table

@[simp] theorem schema_flattened (t : Table) (found : Cardinalities) :
    (t.flattened found).schema = t.schema := by
  unfold flattened
  split <;> rfl

@[simp] theorem name_flattened (t : Table) (found : Cardinalities) :
    (t.flattened found).name = t.name := by
  unfold flattened
  split <;> rfl

end Table

namespace Sequence

@[simp] theorem schema_resolved (s : Sequence) (tables : List Table) :
    (s.resolved tables).schema = s.schema := by
  simp only [resolved]

@[simp] theorem name_resolved (s : Sequence) (tables : List Table) :
    (s.resolved tables).name = s.name := by
  simp only [resolved]

end Sequence

namespace Catalog

open Emission (tableName)

variable (k : Catalog) (found : Cardinalities)

/-- The names of the tables, in order. -/
def tableIds : List ObjectName := k.tables.map tableName

theorem hasTable_iff_mem_tableIds {schema name : String} :
    k.hasTable schema name = true ↔ ⟨schema, name⟩ ∈ k.tableIds := by
  simp only [hasTable_iff, tableIds, List.mem_map, tableName, ObjectName.mk.injEq]

@[simp] theorem tableIds_flatten : (k.flatten found).tableIds = k.tableIds := by
  simp only [tableIds, flatten, List.map_map]
  exact List.map_congr_left fun t _ => by simp only [Function.comp_apply, tableName,
    Table.schema_flattened, Table.name_flattened]

@[simp] theorem tableIds_sizeBinaryColumns : (k.sizeBinaryColumns found).tableIds = k.tableIds := by
  simp only [tableIds, sizeBinaryColumns, List.map_map]
  exact List.map_congr_left fun t _ => rfl

/-- The tables keep their names and their order through all three transformations. -/
theorem tableIds_transformed : (k.transformed found).tableIds = k.tableIds := by
  have h : (k.transformed found).tableIds = ((k.flatten found).sizeBinaryColumns found).tableIds :=
    rfl
  rw [h, tableIds_sizeBinaryColumns, tableIds_flatten]

theorem schemas_transformed : (k.transformed found).schemas = k.schemas := rfl

theorem foreignKeys_transformed : (k.transformed found).foreignKeys = k.foreignKeys := rfl

/-- A transformed sequence is one of the catalog with another type and maximum. -/
theorem exists_of_mem_sequences_transformed {s : Sequence}
    (h : s ∈ (k.transformed found).sequences) :
    ∃ q ∈ k.sequences, s.schema = q.schema ∧ s.name = q.name := by
  have hs : (k.transformed found).sequences = k.sequences.map fun q =>
    q.resolved ((k.flatten found).sizeBinaryColumns found).tables := rfl
  rw [hs, List.mem_map] at h
  obtain ⟨q, hq, he⟩ := h
  refine ⟨q, hq, ?_, ?_⟩ <;> simp only [← he, Sequence.schema_resolved, Sequence.name_resolved]

/-- Every sequence of the catalog is there under its names after it is transformed. -/
theorem exists_mem_sequences_transformed {q : Sequence} (h : q ∈ k.sequences) :
    ∃ s ∈ (k.transformed found).sequences, s.schema = q.schema ∧ s.name = q.name := by
  have hs : (k.transformed found).sequences = k.sequences.map fun q =>
    q.resolved ((k.flatten found).sizeBinaryColumns found).tables := rfl
  rw [hs]
  exact ⟨_, List.mem_map_of_mem h, Sequence.schema_resolved .., Sequence.name_resolved ..⟩

end Catalog

end SchemaTransfer
