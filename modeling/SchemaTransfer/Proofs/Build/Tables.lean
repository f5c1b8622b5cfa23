import Mathlib.Data.List.Basic
import SchemaTransfer.Build.Catalog

/-!
# Tables from the rows of each

The stream of column rows compares each row with the table being filled only. Rows of that table add
the columns whose names it does not have yet, and every other one of them is reported.
-/

namespace SchemaTransfer.Build

/-- The rows whose names are not taken, neither before nor by an earlier row. -/
def firstOfName (taken : List String) : List ColumnRow → List ColumnRow
  | [] => []
  | r :: rows =>
    if r.column ∈ taken then firstOfName taken rows
    else r :: firstOfName (taken ++ [r.column]) rows

/-- The rows whose names are taken, before or by an earlier row. -/
def laterOfName (taken : List String) : List ColumnRow → List ColumnRow
  | [] => []
  | r :: rows =>
    if r.column ∈ taken then r :: laterOfName taken rows
    else laterOfName (taken ++ [r.column]) rows

/-- Every row is either the first of its name or a later one. -/
theorem perm_firstOfName_laterOfName (taken : List String) (rows : List ColumnRow) :
    (firstOfName taken rows ++ laterOfName taken rows).Perm rows := by
  induction rows generalizing taken with
  | nil => exact List.Perm.refl _
  | cons r rows ih =>
    unfold firstOfName laterOfName
    split
    · exact List.perm_middle.trans ((ih taken).cons r)
    · exact (ih _).cons r

/-- A table by what its rows decide: its names and its columns. -/
def tableEntry (t : Table) : List String × List Column := ([t.schema, t.name], t.columns)

/-- The key under which column rows are grouped. -/
def tableKey (r : ColumnRow) : List String := [r.schema, r.table]

namespace TableStream

/-- The tables of a stream, closed or open. -/
def tables (s : TableStream) : List Table := s.closed ++ s.current.toList

theorem openFor?_eq_some {s : TableStream} {t : Table} {r : ColumnRow} (ht : s.current = some t)
    (hr : tableKey r = [t.schema, t.name]) : s.openFor? r = some t := by
  obtain ⟨hschema, hname⟩ : r.schema = t.schema ∧ r.table = t.name := by
    simpa [tableKey] using hr
  rw [openFor?, ht, Option.filter_some, if_pos ((Table.isNamed_iff ..).mpr ⟨hschema.symm, hname.symm⟩)]

theorem openFor?_eq_none {s : TableStream} {r : ColumnRow}
    (h : ∀ t ∈ s.current, [t.schema, t.name] ≠ tableKey r) : s.openFor? r = none := by
  refine Option.filter_eq_none_iff.mpr fun t ht hn => h t ht ?_
  obtain ⟨hschema, hname⟩ := (Table.isNamed_iff ..).mp hn
  rw [tableKey, hschema, hname]

/-- Rows of the open table add the first column of each new name; the others are reported. -/
theorem foldl_accept_open {s : TableStream} {t : Table} (ht : s.current = some t)
    (rows : List ColumnRow) (hrows : ∀ r ∈ rows, tableKey r = [t.schema, t.name]) :
    rows.foldl accept s =
      { s with
        current := some
          { t with columns := t.columns ++ (firstOfName t.columnNames rows).map .ofRow }
        diagnostics := s.diagnostics ++ (laterOfName t.columnNames rows).map duplicate } := by
  induction rows generalizing s t with
  | nil => simp [firstOfName, laterOfName, ← ht]
  | cons r rows ih =>
    have hopen := openFor?_eq_some ht (hrows r List.mem_cons_self)
    have hrest := fun q hq => hrows q (List.mem_cons_of_mem r hq)
    rw [List.foldl_cons, accept, hopen]
    dsimp only
    by_cases hr : r.column ∈ t.columnNames
    · rw [fill, if_pos hr,
        ih (s := { s with diagnostics := s.diagnostics ++ [duplicate r] }) ht hrest]
      simp [firstOfName, laterOfName, hr]
    · have hnames : Table.columnNames { t with columns := t.columns ++ [Column.ofRow r] } =
          t.columnNames ++ [r.column] := by
        simp [Table.columnNames, Column.ofRow]
      let filled : Table := { t with columns := t.columns ++ [Column.ofRow r] }
      rw [fill, if_neg hr, ih (s := { s with current := some filled }) (t := filled) rfl hrest,
        hnames]
      simp [filled, firstOfName, laterOfName, hr]

/-- What holds before any row, and is kept by a row and by closing a table, holds of a whole
stream. -/
theorem ofRows_induction {P : TableStream → Prop} (empty : P {})
    (accept : ∀ s r, P s → P (s.accept r)) (flush : ∀ s, P s → P s.flush)
    (rows : List ColumnRow) : P (ofRows rows) :=
  flush _ (List.foldlRecOn rows _ empty fun s hs r _ => accept s r hs)

/-- The reports of the stream are on repeated columns. -/
theorem kind_of_mem_diagnostics {rows : List ColumnRow} {d : Diagnostic}
    (hd : d ∈ (ofRows rows).diagnostics) : d.kind = .duplicateColumn := by
  refine ofRows_induction (P := fun s => ∀ d ∈ s.diagnostics, d.kind = .duplicateColumn)
    (by simp) (fun s r hs d hd => ?_) (fun s hs => hs) rows d hd
  unfold accept fill at hd
  split at hd
  · split at hd
    · rcases List.mem_append.mp hd with hd | hd
      · exact hs d hd
      · rw [List.mem_singleton.mp hd]
        rfl
    · exact hs d hd
  · exact hs d hd

end TableStream

/-! ## Comments on tables -/

/-- Comments leave what the rows decide alone. -/
theorem map_tableEntry_comments (rs : List TableCommentRow) (ts : List Table) :
    (rs.foldl (fun ts r => setComment r ts) ts).map tableEntry = ts.map tableEntry := by
  have hone (r : TableCommentRow) (ts : List Table) :
      (setComment r ts).map tableEntry = ts.map tableEntry := by
    induction ts with
    | nil => rfl
    | cons t ts ih =>
      unfold setComment
      split
      · rfl
      · rw [List.map_cons, List.map_cons, ih]
  induction rs generalizing ts with
  | nil => rfl
  | cons r rs ih => rw [List.foldl_cons, ih, hone]

end SchemaTransfer.Build
