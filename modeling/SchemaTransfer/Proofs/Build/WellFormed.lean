import SchemaTransfer.Proofs.Build.Closure
import SchemaTransfer.Proofs.Build.Indexes

/-!
# The built catalog is well formed

A catalog is built from rows that nothing vouches for: they may come in any order, repeat and
contradict each other, and a table may come up again after it was closed. Main statement: what is
built has tables with columns of distinct names, at most one primary key for each table, indexes and
foreign keys that have their columns and their tables, and each schema of a column, domain or
sequence row once, in the order in which they come up.
-/

namespace SchemaTransfer

/-- What every catalog to convert has to satisfy. -/
structure Catalog.IsWellFormed (k : Catalog) : Prop where
  /-- A table has a column. -/
  columns : ∀ t ∈ k.tables, t.columns ≠ []
  /-- No two columns of a table have the same name. -/
  columnNames : ∀ t ∈ k.tables, t.columnNames.Nodup
  /-- No two primary keys are on the same schema and table. -/
  primaryKeys :
    ((k.indexes.filter fun x => x.kind = .primaryKey).map fun x => (x.schema, x.table)).Nodup
  /-- An index has a key. -/
  indexKeys : ∀ x ∈ k.indexes, x.columns ≠ []
  /-- The table of an index is there. -/
  indexTables : ∀ x ∈ k.indexes, k.hasTable x.schema x.table = true
  /-- A foreign key has columns, each with a referenced one. -/
  foreignKeyColumns : ∀ fk ∈ k.foreignKeys,
    fk.columns ≠ [] ∧ fk.columns.length = fk.refColumns.length
  /-- The table of a foreign key is there. -/
  foreignKeyTables : ∀ fk ∈ k.foreignKeys, k.hasTable fk.schema fk.table = true
  /-- The table that a foreign key refers to is there. -/
  referencedTables : ∀ fk ∈ k.foreignKeys, k.hasTable fk.refSchema fk.refTable = true
  /-- No schema is listed twice. -/
  schemas : k.schemas.Nodup

namespace Build

/-! ## Indexes -/

namespace IndexStream

/-- Every index has a key, and the tables on record are those of the primary keys, the last first,
each once. -/
private structure Sound (s : IndexStream) : Prop where
  keys : ∀ x ∈ s.indexes, x.columns ≠ []
  recorded : (s.indexes.filter fun x => x.kind = .primaryKey).map (fun x => (x.schema, x.table)) =
    s.primaryKeys.reverse
  nodup : s.primaryKeys.Nodup

/-- Completing an index keeps the stream sound: a primary key of a table on record becomes a unique
constraint. -/
private theorem sound_close {s : IndexStream} (h : s.Sound) (p : PendingIndex) :
    (s.close p).Sound := by
  have hkeys (x : Index) (hx : x.columns ≠ []) : ∀ y ∈ s.indexes ++ [x], y.columns ≠ [] := by
    intro y hy
    rcases List.mem_append.mp hy with hy | hy
    · exact h.keys y hy
    · rwa [List.mem_singleton.mp hy]
  unfold close
  dsimp only
  split_ifs with hskip hprimary hsecond
  · exact ⟨h.keys, h.recorded, h.nodup⟩
  · exact ⟨hkeys _ (by simp_all), by simp [List.filter_append, h.recorded], h.nodup⟩
  · refine ⟨hkeys _ (by simp_all), ?_, List.nodup_cons.mpr ⟨hsecond, h.nodup⟩⟩
    rw [List.filter_append, List.map_append, h.recorded, List.reverse_cons]
    simp [hprimary]
  · exact ⟨hkeys _ (by simp_all), by simp [List.filter_append, h.recorded, hprimary], h.nodup⟩

/-- A whole stream of index rows is sound. -/
private theorem sound_ofRows (rows : List IndexRow) : (ofRows rows).Sound :=
  ofRows_induction (P := Sound) ⟨by simp, rfl, List.nodup_nil⟩
    (fun _ _ h => ⟨h.keys, h.recorded, h.nodup⟩) (fun _ p h => sound_close h p) rows

/-- Every index of a whole stream has a key. -/
theorem columns_ne_nil_of_mem {rows : List IndexRow} {x : Index} (hx : x ∈ (ofRows rows).indexes) :
    x.columns ≠ [] :=
  (sound_ofRows rows).keys x hx

/-- No two primary keys of a whole stream are on the same schema and table. -/
theorem nodup_primaryKeys (rows : List IndexRow) :
    (((ofRows rows).indexes.filter fun x => x.kind = .primaryKey).map
      fun x => (x.schema, x.table)).Nodup := by
  rw [(sound_ofRows rows).recorded, List.nodup_reverse]
  exact (sound_ofRows rows).nodup

end IndexStream

/-! ## Foreign keys -/

/-- Every foreign key of a whole stream has columns, each with a referenced one. -/
theorem ForeignKeyStream.columns_of_mem {ending : String} {rows : List ForeignKeyRow}
    {fk : ForeignKey} (hfk : fk ∈ (ofRows ending rows).foreignKeys) :
    fk.columns ≠ [] ∧ fk.columns.length = fk.refColumns.length := by
  refine List.foldlRecOn rows (accept ending)
    (motive := fun s => ∀ fk ∈ s.foreignKeys,
      fk.columns ≠ [] ∧ fk.columns.length = fk.refColumns.length)
    (by simp) (fun s hs r _ => ?_) fk hfk
  unfold accept
  split
  · rename_i hpairs
    intro fk hfk
    rcases List.mem_append.mp hfk with hfk | hfk
    · exact hs fk hfk
    · rw [List.mem_singleton.mp hfk]
      simpa [pairsUp] using hpairs
  · exact hs

end Build

/-! ## Schemas -/

/-- Noting schemas one after the other adds the new ones, each where it first occurs. -/
theorem foldl_noteSchema (noted schemas : List String) :
    schemas.foldl noteSchema noted = noted ++ (schemas.filter (· ∉ noted)).eraseDups := by
  induction schemas generalizing noted with
  | nil => simp
  | cons s schemas ih =>
    rw [List.foldl_cons, ih]
    by_cases hs : s ∈ noted
    · rw [noteSchema, if_pos hs, List.filter_cons_of_neg (by simpa using hs)]
    · rw [noteSchema, if_neg hs, List.filter_cons_of_pos (by simpa using hs), List.eraseDups_cons,
        List.append_assoc, List.singleton_append, List.filter_filter]
      refine congrArg (fun rest => noted ++ s :: rest.eraseDups) (List.filter_congr fun q _ => ?_)
      rw [Bool.eq_iff_iff]
      simp [and_comm]

/-- Noting keeps any number of schemas without repetition. -/
theorem nodup_foldl_noteSchema {noted : List String} (h : noted.Nodup) (schemas : List String) :
    (schemas.foldl noteSchema noted).Nodup :=
  List.foldlRecOn schemas noteSchema h fun _ hb s _ => nodup_noteSchema hb s

namespace Catalog

/-- The schemas of the built catalog are noted row by row. -/
theorem schemas_build (rows : CatalogRows) (ending : String) :
    (build rows ending).catalog.schemas =
      (rows.columns.map (·.schema) ++ rows.userTypes.map (·.schema) ++
        rows.sequences.map (·.schema)).foldl noteSchema [] := by
  rw [List.append_assoc, List.foldl_append, ← Build.TableStream.schemas_ofRows]
  rfl

/-- The catalog of any rows is well formed, and its schemas are those of the rows of columns, then
of domains, then of sequences, each where it first occurs. -/
theorem isWellFormed_build (rows : CatalogRows) (ending : String) :
    (build rows ending).catalog.IsWellFormed ∧
      (build rows ending).catalog.schemas =
        (rows.columns.map (·.schema) ++ rows.userTypes.map (·.schema) ++
          rows.sequences.map (·.schema)).eraseDups := by
  refine ⟨?_, by rw [schemas_build, foldl_noteSchema]; simp⟩
  have hindexes : (build rows ending).catalog.indexes.Sublist
      (Build.IndexStream.ofRows rows.indexes).indexes := List.filter_sublist
  have howned (fk : ForeignKey) (hfk : fk ∈ (build rows ending).catalog.foreignKeys) :
      fk ∈ (Build.ForeignKeyStream.ofRows ending rows.foreignKeys).foreignKeys ∧
        (build rows ending).catalog.hasTable fk.schema fk.table = true :=
    List.mem_filter.mp (List.mem_filter.mp hfk).1
  exact {
    columns := columns_ne_nil_build rows ending
    columnNames := nodup_columnNames_build rows ending
    primaryKeys := (Build.IndexStream.nodup_primaryKeys rows.indexes).sublist
      ((hindexes.filter _).map _)
    indexKeys := fun _ hx => Build.IndexStream.columns_ne_nil_of_mem (hindexes.subset hx)
    indexTables := fun _ hx => (List.mem_filter.mp hx).2
    foreignKeyColumns := fun fk hfk => Build.ForeignKeyStream.columns_of_mem (howned fk hfk).1
    foreignKeyTables := fun fk hfk => (howned fk hfk).2
    referencedTables := fun fk hfk => (isClosed_build rows ending).target fk hfk
    schemas := schemas_build rows ending ▸ nodup_foldl_noteSchema List.nodup_nil _ }

end Catalog

end SchemaTransfer
