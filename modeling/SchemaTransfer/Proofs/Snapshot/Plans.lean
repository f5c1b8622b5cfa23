import SchemaTransfer.Proofs.Build.Tables
import SchemaTransfer.Proofs.Conversion.Frame
import SchemaTransfer.Proofs.Snapshot.Answers

/-!
# Plans for snapshots

A run on a snapshot always has a plan: the snapshot answers every question. Main statements: the plan
is for the scripts of one catalog, and there is nothing to process exactly when no included row
describes a column.
-/

namespace SchemaTransfer

/-- A stream leaves no table exactly when it had no row. -/
theorem Build.TableStream.closed_ofRows_eq_nil_iff (rows : List ColumnRow) :
    (ofRows rows).closed = [] ↔ rows = [] := by
  have hopen (s : TableStream) (r : ColumnRow) : (s.accept r).current ≠ none := by
    unfold accept
    split
    · rename_i t ht
      have hcurrent := (Option.filter_eq_some_iff.mp ht).1
      unfold fill
      split <;> simp [hcurrent]
    · simp
  refine ⟨fun h => ?_, fun h => by rw [h]; rfl⟩
  rcases List.eq_nil_or_concat rows with hnil | ⟨front, r, rfl⟩
  · exact hnil
  · rw [ofRows, List.concat_eq_append, List.foldl_append] at h
    exact absurd (Option.toList_eq_nil_iff.mp (List.append_eq_nil_iff.mp h).2) (hopen _ r)

namespace Catalog

/-- A catalog has no tables exactly when its rows describe no column. -/
theorem isEmpty_build_iff (rows : CatalogRows) (ending : String) :
    (build rows ending).catalog.isEmpty = true ↔ rows.columns = [] := by
  have hlength := congrArg List.length
    (Build.map_tableEntry_comments rows.tableComments (Build.TableStream.ofRows rows.columns).closed)
  rw [List.length_map, List.length_map] at hlength
  rw [← Build.TableStream.closed_ofRows_eq_nil_iff, isEmpty, List.isEmpty_iff,
    ← List.length_eq_zero_iff, ← List.length_eq_zero_iff, ← hlength]
  rfl

/-- Transforming a catalog makes no table and leaves none out. -/
theorem isEmpty_transformed (k : Catalog) (found : Cardinalities) :
    (k.transformed found).isEmpty = k.isEmpty := by
  simp [isEmpty, transformed, resolveSequences, sizeBinaryColumns, flatten]

end Catalog

namespace Snapshot

variable (s : Snapshot) (excluded : List String) (settings : Settings)

/-- What a run gathers from a snapshot. -/
def gathered : Gathered where
  rows := s.rows excluded
  found := .ofList ((s.findings (s.rows excluded).columns).map fun r => (r.ref, r.maxCardinality))
  reported := []

/-- The catalog for which a run on a snapshot makes its scripts. -/
def converted : Catalog :=
  (Catalog.build (s.rows excluded) settings.conversion.foreignKeySuffix).catalog.transformed
    (s.gathered excluded).found

/-- A run on a snapshot has a plan. -/
theorem plan_reader_eq :
    (s.reader excluded).plan settings =
      .ok (.ofGathered settings s.title (s.gathered excluded)) := by
  rw [Source.plan, gather_reader_eq]
  rfl

/-- Putting rows in order keeps the included ones. -/
theorem mem_selected {α : Type} {schemaOf : α → String} {compare : α → α → Ordering}
    {rows : List α} {r : α} :
    r ∈ selected excluded schemaOf compare rows ↔
      r ∈ rows ∧ isIncluded excluded (schemaOf r) = true := by
  rw [selected, ordered, List.mem_mergeSort, List.mem_filter]

/-- No row is left exactly when none is included. -/
theorem selected_eq_nil_iff {α : Type} {schemaOf : α → String} {compare : α → α → Ordering}
    {rows : List α} :
    selected excluded schemaOf compare rows = [] ↔
      ∀ r ∈ rows, isIncluded excluded (schemaOf r) = false := by
  simp only [List.eq_nil_iff_forall_not_mem, mem_selected, not_and, Bool.not_eq_true]

/-- The catalog of a snapshot has no tables exactly when no column is included. -/
theorem isEmpty_converted_iff :
    (s.converted excluded settings).isEmpty = true ↔
      ∀ r ∈ s.columns, isIncluded excluded r.schema = false := by
  rw [converted, Catalog.isEmpty_transformed, Catalog.isEmpty_build_iff]
  exact selected_eq_nil_iff excluded

/-- Without an included column there is nothing to process. -/
theorem ofGathered_of_isEmpty (h : (s.converted excluded settings).isEmpty = true) :
    (Plan.ofGathered settings s.title (s.gathered excluded)).outcome = .nothingToProcess ∧
      (Plan.ofGathered settings s.title (s.gathered excluded)).scripts = [] := by
  rw [converted, Catalog.isEmpty_transformed] at h
  simp only [Plan.ofGathered, gathered, h, if_true, and_self]

/-- With one, the plan is for the scripts of the catalog, and holds what was reported on it. -/
theorem ofGathered_of_not_isEmpty (h : (s.converted excluded settings).isEmpty = false) :
    (Plan.ofGathered settings s.title (s.gathered excluded)).outcome = .generated ∧
      (Plan.ofGathered settings s.title (s.gathered excluded)).scripts =
        ((s.converted excluded settings).emit settings.emitOptions).scripts ∧
      (Plan.ofGathered settings s.title (s.gathered excluded)).diagnostics =
        (Catalog.build (s.rows excluded) settings.conversion.foreignKeySuffix).diagnostics ++
          ((s.converted excluded settings).emit settings.emitOptions).diagnostics := by
  rw [converted, Catalog.isEmpty_transformed] at h
  simp only [Plan.ofGathered, gathered, converted, h, Bool.false_eq_true, if_false, List.nil_append,
    and_self]

end Snapshot

end SchemaTransfer
