import SchemaTransfer.Proofs.Conversion.Likeness
import SchemaTransfer.Proofs.Snapshot.Answers
import SchemaTransfer.Proofs.Snapshot.Order

/-!
# Taking a snapshot and converting it

What is taken of a snapshot is its included rows, already in order, and one finding for each column
that was sampled. Reading it again leaves the rows as they are and finds the same. Main statement:
the snapshot that is taken is converted as the one that it was taken of, and taking it once more
gives it again, but for the name of the source.
-/

namespace SchemaTransfer.Snapshot

/-! ## Rows -/

/-- Schemas that are included next to excluded ones are included where none is excluded. -/
theorem isIncluded_nil {excluded : List String} {schema : String}
    (h : isIncluded excluded schema = true) : isIncluded [] schema = true := by
  simp only [isIncluded, Bool.and_eq_true] at h ⊢
  exact ⟨h.1, rfl⟩

/-- Rows that were read stay as they are when they are read again. -/
theorem selected_selected {α : Type} (excluded : List String) (schemaOf : α → String)
    (cmp : α → α → Ordering) [Std.TransCmp cmp] (rows : List α) :
    selected [] schemaOf cmp (selected excluded schemaOf cmp rows) =
      selected excluded schemaOf cmp rows := by
  have hall : (selected excluded schemaOf cmp rows).filter
      (fun r => isIncluded [] (schemaOf r)) = selected excluded schemaOf cmp rows := by
    refine List.filter_eq_self.mpr fun r hr => ?_
    have hmem := (isStableOrder_ordered cmp _).perm.subset hr
    exact isIncluded_nil (List.mem_filter.mp hmem).2
  rw [selected, hall]
  exact ordered_ordered _

/-- The rows of a snapshot that was taken are those that were read. -/
theorem rows_captured (s : Snapshot) (excluded : List String) :
    (s.captured excluded).rows [] = s.rows excluded := by
  simp only [captured, rows, selected_selected]

/-! ## Findings -/

/-- A finding that was taken says what the snapshot says. -/
theorem finding?_of_mem_findings {s : Snapshot} {rows : List ColumnRow} {q : CardinalityRow}
    (hq : q ∈ s.findings rows) : s.finding? q.ref = some q.maxCardinality := by
  obtain ⟨r, _, hrow⟩ := List.mem_filterMap.mp hq
  unfold findingRow? at hrow
  split at hrow
  · obtain ⟨n, hn, rfl⟩ := Option.map_eq_some_iff.mp hrow
    exact hn
  · cases hrow

/-- Every column that was sampled has its finding taken. -/
theorem mem_findings {s : Snapshot} {rows : List ColumnRow} {r : ColumnRow} (hr : r ∈ rows)
    (hsampled : r.needsSampling = true) {n : Int64} (hn : s.finding? r.ref = some n) :
    ⟨r.schema, r.table, r.column, n⟩ ∈ s.findings rows :=
  List.mem_filterMap.mpr ⟨r, hr, by rw [findingRow?, if_pos hsampled, hn]; rfl⟩

/-- What was taken says the same about the columns that were sampled. -/
theorem finding?_captured (s : Snapshot) (excluded : List String) {r : ColumnRow}
    (hr : r ∈ (s.rows excluded).columns) (hsampled : r.needsSampling = true) :
    (s.captured excluded).finding? r.ref = s.finding? r.ref := by
  rw [finding?, captured]
  cases hfound : (s.findings (s.rows excluded).columns).find? fun q => q.ref = r.ref with
  | some q =>
    have hq : q.ref = r.ref := by simpa using List.find?_some hfound
    rw [← hq, finding?_of_mem_findings (List.mem_of_find?_eq_some hfound)]
    rfl
  | none =>
    rw [List.find?_eq_none] at hfound
    cases hn : s.finding? r.ref with
    | none => rfl
    | some n => exact absurd (decide_eq_true rfl) (hfound _ (mem_findings hr hsampled hn))

theorem findings_captured (s : Snapshot) (excluded : List String) :
    (s.captured excluded).findings (s.rows excluded).columns =
      s.findings (s.rows excluded).columns :=
  findings_congr fun _ hr hsampled => finding?_captured s excluded hr hsampled

/-! ## Runs -/

/-- A snapshot that is taken of a snapshot is converted as that one, and gives itself when it is
taken once more, but for the name of the source. -/
theorem runsAs_of_capture (s : Snapshot) (excluded : List String) (limit : Int64) :
    ∃ c, capture (s.reader excluded) limit = .ok c ∧
      (∀ settings, (c.reader []).RunsAs (s.reader excluded) settings []) ∧
      ∀ later, capture (c.reader []) later = .ok { c with source := (c.reader []).name } := by
  refine ⟨s.captured excluded, capture_reader_eq s excluded limit, fun settings => ?_,
    fun later => ?_⟩
  · refine Source.runsAs_of_gather ?_
    rw [gather_reader_eq, gather_reader_eq, rows_captured, findings_captured]
    rfl
  · rw [capture_reader_eq, captured, rows_captured, findings_captured]
    rfl

end SchemaTransfer.Snapshot
