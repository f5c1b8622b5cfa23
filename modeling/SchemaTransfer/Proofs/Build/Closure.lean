import Mathlib.Data.List.Nodup
import SchemaTransfer.Proofs.Build.Tables
import SchemaTransfer.Proofs.Conversion.Frame

/-!
# Closed catalogs

A catalog is closed when the schemas of its objects are noted and its foreign keys refer to tables
that it has. Whatever the rows are and in whatever order they come, the catalog built of them is
closed, and each of its tables has columns, with distinct names. Taking arrays apart, sizing binary
columns and bounding sequences keep a catalog closed: none of the three renames a table or touches
the schemas and the foreign keys.
-/

namespace SchemaTransfer

/-- Every schema in use is noted and every foreign key refers to a table of the catalog. -/
structure Catalog.IsClosed (k : Catalog) : Prop where
  /-- The schema of a table is noted. -/
  table : ∀ t ∈ k.tables, t.schema ∈ k.schemas
  /-- The schema of a domain is noted. -/
  userType : ∀ t ∈ k.userTypes, t.schema ∈ k.schemas
  /-- The schema of a sequence is noted. -/
  sequence : ∀ s ∈ k.sequences, s.schema ∈ k.schemas
  /-- The table that a foreign key refers to is there. -/
  target : ∀ fk ∈ k.foreignKeys, k.hasTable fk.refSchema fk.refTable = true

/-! ## The built catalog -/

namespace Build

/-- Every table of a stream, closed or open, has its schema noted, and columns with distinct
names. -/
private def TableStream.Sound (s : TableStream) : Prop :=
  ∀ t ∈ s.tables, t.schema ∈ s.schemas ∧ t.columns ≠ [] ∧ t.columnNames.Nodup

private theorem TableStream.sound_empty : TableStream.Sound {} := by
  simp [Sound, tables]

private theorem TableStream.sound_flush {s : TableStream} (h : s.Sound) : s.flush.Sound := by
  simpa only [Sound, tables, flush, Option.toList_none, List.append_nil] using h

/-- A row of the open table adds a column with a new name, or nothing. -/
private theorem TableStream.sound_fill {s : TableStream} (h : s.Sound) {t : Table}
    (ht : s.current = some t) (r : ColumnRow) : (s.fill t r).Sound := by
  have hopen := h t (by simp [tables, ht])
  unfold fill
  split
  · exact h
  · rename_i hnew
    intro u hu
    simp only [tables, Option.toList_some, List.mem_append, List.mem_singleton] at hu
    rcases hu with hu | rfl
    · exact h u (List.mem_append_left _ hu)
    · refine ⟨hopen.1, by simp, ?_⟩
      have hnames : Table.columnNames { t with columns := t.columns ++ [Column.ofRow r] } =
          t.columnNames ++ [r.column] := by
        simp only [Table.columnNames, List.map_append, List.map_cons, List.map_nil, Column.ofRow]
      rw [hnames, List.nodup_append]
      refine ⟨hopen.2.2, List.nodup_singleton _, ?_⟩
      rintro a ha b hb rfl
      exact hnew (List.mem_singleton.mp hb ▸ ha)

/-- One row keeps the stream sound: it goes to the open table, or opens a table whose schema it
notes. -/
private theorem TableStream.sound_accept {s : TableStream} (h : s.Sound) (r : ColumnRow) :
    (s.accept r).Sound := by
  unfold accept
  split
  · rename_i t ht
    exact sound_fill h (Option.filter_eq_some_iff.mp ht).1 r
  · intro u hu
    simp only [tables, Option.toList_some, List.mem_append, List.mem_singleton] at hu
    rw [mem_noteSchema]
    rcases hu with hu | rfl
    · obtain ⟨hs, hn⟩ := sound_flush h u (List.mem_append_left _ hu)
      exact ⟨Or.inl hs, hn⟩
    · exact ⟨Or.inr rfl, List.cons_ne_nil _ _, List.nodup_singleton _⟩

/-- Every table of a whole stream has its schema noted, and columns with distinct names. -/
theorem TableStream.sound_ofRows {rows : List ColumnRow} {t : Table}
    (ht : t ∈ (TableStream.ofRows rows).closed) :
    t.schema ∈ (TableStream.ofRows rows).schemas ∧ t.columns ≠ [] ∧ t.columnNames.Nodup :=
  ofRows_induction sound_empty (fun _ r h => sound_accept h r) (fun _ h => sound_flush h) rows t
    (List.mem_append_left _ ht)

/-- A row notes its schema, also where it goes to the open table: that one's schema is noted. -/
private theorem TableStream.schemas_accept {s : TableStream} (h : s.Sound) (r : ColumnRow) :
    (s.accept r).schemas = noteSchema s.schemas r.schema := by
  unfold accept
  split
  · rename_i t ht
    obtain ⟨hcurrent, hnamed⟩ := Option.filter_eq_some_iff.mp ht
    have hnoted : r.schema ∈ s.schemas := by
      rw [← ((Table.isNamed_iff ..).mp hnamed).1]
      exact (h t (by simp [tables, hcurrent])).1
    rw [noteSchema, if_pos hnoted]
    unfold fill
    split <;> rfl
  · rfl

/-- The schemas of a whole stream are noted row by row. -/
theorem TableStream.schemas_ofRows (rows : List ColumnRow) :
    (TableStream.ofRows rows).schemas = (rows.map (·.schema)).foldl noteSchema [] := by
  have hrun (s : TableStream) (hs : s.Sound) :
      (rows.foldl accept s).schemas = (rows.map (·.schema)).foldl noteSchema s.schemas := by
    induction rows generalizing s with
    | nil => rfl
    | cons r rows ih =>
      rw [List.foldl_cons, List.map_cons, List.foldl_cons, ih _ (sound_accept hs r),
        schemas_accept hs]
  exact hrun {} sound_empty

/-- Comments leave the schema and the columns of the tables alone. -/
theorem exists_of_mem_setComment {r : TableCommentRow} {ts : List Table} {t : Table}
    (h : t ∈ setComment r ts) : ∃ u ∈ ts, u.schema = t.schema ∧ u.columns = t.columns := by
  induction ts with
  | nil => simp [setComment] at h
  | cons u ts ih =>
    unfold setComment at h
    split at h
    · rcases List.mem_cons.mp h with rfl | h
      · exact ⟨u, List.mem_cons_self .., rfl, rfl⟩
      · exact ⟨t, List.mem_cons_of_mem _ h, rfl, rfl⟩
    · rcases List.mem_cons.mp h with rfl | h
      · exact ⟨t, List.mem_cons_self .., rfl, rfl⟩
      · obtain ⟨v, hv, he⟩ := ih h
        exact ⟨v, List.mem_cons_of_mem _ hv, he⟩

private theorem exists_of_mem_comments {rs : List TableCommentRow} {ts : List Table} {t : Table}
    (h : t ∈ rs.foldl (fun ts r => setComment r ts) ts) :
    ∃ u ∈ ts, u.schema = t.schema ∧ u.columns = t.columns := by
  induction rs generalizing ts with
  | nil => exact ⟨t, h, rfl, rfl⟩
  | cons r rs ih =>
    obtain ⟨v, hv, hvs, hvc⟩ := ih h
    obtain ⟨u, hu, hus, huc⟩ := exists_of_mem_setComment hv
    exact ⟨u, hu, hus.trans hvs, huc.trans hvc⟩

end Build

/-- Noting several schemas notes exactly these. -/
theorem mem_foldl_noteSchema {noted schemas : List String} {s : String} :
    s ∈ schemas.foldl noteSchema noted ↔ s ∈ noted ∨ s ∈ schemas := by
  induction schemas generalizing noted with
  | nil => simp
  | cons x schemas ih => simp only [List.foldl_cons, ih, mem_noteSchema, List.mem_cons, or_assoc]

namespace Catalog

/-- The catalog of any rows is closed. -/
theorem isClosed_build (rows : CatalogRows) (foreignKeyEnding : String) :
    (build rows foreignKeyEnding).catalog.IsClosed where
  table t ht := by
    obtain ⟨u, hu, he, _⟩ := Build.exists_of_mem_comments ht
    exact mem_foldl_noteSchema.mpr (Or.inl (he ▸ (Build.TableStream.sound_ofRows hu).1))
  userType t ht := by
    obtain ⟨r, hr, rfl⟩ := List.mem_map.mp ht
    exact mem_foldl_noteSchema.mpr (Or.inr (List.mem_append_left _ (List.mem_map_of_mem hr)))
  sequence s hs := by
    obtain ⟨r, hr, rfl⟩ := List.mem_map.mp hs
    exact mem_foldl_noteSchema.mpr (Or.inr (List.mem_append_right _ (List.mem_map_of_mem hr)))
  target fk hfk := (List.mem_filter.mp hfk).2

/-- The column names of each table of the catalog of any rows are distinct. -/
theorem nodup_columnNames_build (rows : CatalogRows) (foreignKeyEnding : String) :
    ∀ t ∈ (build rows foreignKeyEnding).catalog.tables, t.columnNames.Nodup := by
  intro t ht
  obtain ⟨u, hu, _, hc⟩ := Build.exists_of_mem_comments ht
  rw [Table.columnNames, ← hc]
  exact (Build.TableStream.sound_ofRows hu).2.2

/-- Each table of the catalog of any rows has a column. -/
theorem columns_ne_nil_build (rows : CatalogRows) (foreignKeyEnding : String) :
    ∀ t ∈ (build rows foreignKeyEnding).catalog.tables, t.columns ≠ [] := by
  intro t ht
  obtain ⟨u, hu, _, hc⟩ := Build.exists_of_mem_comments ht
  rw [← hc]
  exact (Build.TableStream.sound_ofRows hu).2.1

/-! ## The transformed catalog -/

/-- A closed catalog stays closed when it is transformed. -/
theorem IsClosed.transformed {k : Catalog} (h : k.IsClosed) (found : Cardinalities) :
    (k.transformed found).IsClosed where
  table t ht := by
    have hid : Emission.tableName t ∈ k.tableIds := by
      rw [← tableIds_transformed k found]
      exact List.mem_map_of_mem ht
    obtain ⟨u, hu, he⟩ := List.mem_map.mp hid
    have hs : u.schema = t.schema := congrArg ObjectName.schema he
    rw [schemas_transformed, ← hs]
    exact h.table u hu
  userType t ht := h.userType t ht
  sequence s hs := by
    obtain ⟨q, hq, he, _⟩ := exists_of_mem_sequences_transformed k found hs
    rw [he]
    exact h.sequence q hq
  target fk hfk := by
    rw [hasTable_iff_mem_tableIds, tableIds_transformed, ← hasTable_iff_mem_tableIds]
    exact h.target fk hfk

end Catalog

end SchemaTransfer
