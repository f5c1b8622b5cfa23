import Mathlib.Data.List.Induction
import SchemaTransfer.Build.ForeignKeys

/-!
# Foreign keys row by row

The stream of foreign key rows keeps one record of the names asked for, shared by all tables. Main
statement: each row whose columns pair up becomes a foreign key, numbered by the earlier rows of its
table that were kept and ask for the same base name, and each other row is reported; so the keys of a
table are those that its rows alone would give, whatever rows of other tables stand between them.
-/

namespace SchemaTransfer.Build

/-- Whether the local and the referenced columns of a row are equally many, and not none. -/
def IsPaired (r : ForeignKeyRow) : Prop :=
  r.columns.length = r.refColumns.length ∧ r.columns.length ≠ 0

instance (r : ForeignKeyRow) : Decidable (IsPaired r) := inferInstanceAs (Decidable (_ ∧ _))

/-- Whether two rows ask for the same base name in the same table. -/
def Competes (ending : String) (r q : ForeignKeyRow) : Prop :=
  q.schema = r.schema ∧ q.table = r.table ∧
    baseName q.constraintName ending = baseName r.constraintName ending

instance (ending : String) (r q : ForeignKeyRow) : Decidable (Competes ending r q) :=
  inferInstanceAs (Decidable (_ ∧ _))

/-- The foreign key that a row describes, under a name. -/
def keyNamed (name : String) (r : ForeignKeyRow) : ForeignKey where
  name
  sourceName := r.constraintName
  schema := r.schema
  table := r.table
  refSchema := r.refSchema
  refTable := r.refTable
  columns := r.columns
  refColumns := r.refColumns
  onDelete := .ofCode r.onDelete
  onUpdate := .ofCode r.onUpdate

/-- The foreign key of a row that is kept after others: it is called by its base name, followed by the
number of those that ask for the same, if there are any. -/
def keyAfter (ending : String) (earlier : List ForeignKeyRow) (r : ForeignKeyRow) : ForeignKey :=
  let n := earlier.countP (Competes ending r ·)
  keyNamed (baseName r.constraintName ending ++ if n = 0 then "" else toString n) r

/-- The foreign keys of rows that are all kept. -/
def keysOfKept (ending : String) (kept : List ForeignKeyRow) : List ForeignKey :=
  kept.mapIdx fun i r => keyAfter ending (kept.take i) r

/-- Whether a row belongs to a table. -/
def isRowOf (schema table : String) (r : ForeignKeyRow) : Bool :=
  r.schema == schema && r.table == table

/-- Whether a foreign key belongs to a table. -/
def isKeyOf (schema table : String) (fk : ForeignKey) : Bool :=
  fk.schema == schema && fk.table == table

theorem pairsUp_eq (r : ForeignKeyRow) : pairsUp r = decide (IsPaired r) := by
  rw [Bool.eq_iff_iff]
  simp [pairsUp, IsPaired, and_comm]

/-- One more kept row adds its key after those before it. -/
theorem keysOfKept_concat (ending : String) (kept : List ForeignKeyRow) (r : ForeignKeyRow) :
    keysOfKept ending (kept ++ [r]) = keysOfKept ending kept ++ [keyAfter ending kept r] := by
  rw [keysOfKept, List.mapIdx_concat, List.take_left, keysOfKept]
  congr 1
  rw [List.mapIdx_eq_mapIdx_iff]
  intro i hi
  rw [List.take_append_of_le_length (Nat.le_of_lt hi)]

namespace ForeignKeyStream

variable {ending : String}

theorem numbered_eq (base : String) (n : Nat) :
    numbered base n = base ++ if n = 0 then "" else toString n := by
  unfold numbered
  split <;> simp

/-! ## One row -/

/-- The record that is made of a kept row. -/
def record (ending : String) (r : ForeignKeyRow) : String × String × String :=
  (r.schema, r.table, baseName r.constraintName ending)

/-- A row whose columns pair up is put on record and becomes a key. -/
theorem accept_of_isPaired (s : ForeignKeyStream) {r : ForeignKeyRow} (h : IsPaired r) :
    s.accept ending r =
      { s with
        seen := record ending r :: s.seen
        foreignKeys := s.foreignKeys ++
          [keyNamed (numbered (baseName r.constraintName ending)
            (s.seen.count (record ending r))) r] } := by
  rw [accept, pairsUp_eq, if_pos (decide_eq_true h)]
  rfl

/-- Any other row is reported. -/
theorem accept_of_not_isPaired (s : ForeignKeyStream) {r : ForeignKeyRow} (h : ¬ IsPaired r) :
    s.accept ending r = { s with diagnostics := s.diagnostics ++ [unpaired r] } := by
  rw [accept, pairsUp_eq, if_neg (by simpa using h)]

/-! ## Rows and their keys -/

/-- A row is on record as often as kept rows compete with it. -/
theorem count_map_record (kept : List ForeignKeyRow) (r : ForeignKeyRow) :
    ((kept.map (record ending)).reverse).count (record ending r) =
      kept.countP (Competes ending r ·) := by
  rw [List.count_reverse, List.count_eq_countP, List.countP_map]
  refine List.countP_congr fun q _ => ?_
  rw [decide_eq_true_iff]
  simp [record, Competes]

/-- The state of the stream after rows. -/
structure HasRead (ending : String) (s : ForeignKeyStream) (rows : List ForeignKeyRow) : Prop where
  seen : s.seen = ((rows.filter (IsPaired ·)).map (record ending)).reverse
  foreignKeys : s.foreignKeys = keysOfKept ending (rows.filter (IsPaired ·))
  diagnostics : s.diagnostics = (rows.filter (¬ IsPaired ·)).map unpaired

/-- One more row is read as the ones before it were. -/
theorem HasRead.accept {s : ForeignKeyStream} {rows : List ForeignKeyRow}
    (h : HasRead ending s rows) (r : ForeignKeyRow) :
    HasRead ending (s.accept ending r) (rows ++ [r]) := by
  by_cases hr : IsPaired r
  · have hkept : (rows ++ [r]).filter (IsPaired ·) = rows.filter (IsPaired ·) ++ [r] := by
      simp [hr]
    rw [accept_of_isPaired s hr, h.seen, count_map_record, numbered_eq]
    refine ⟨?_, ?_, ?_⟩
    · simp [hkept]
    · rw [hkept, keysOfKept_concat, ← h.foreignKeys]
      rfl
    · simp [hr, h.diagnostics]
  · rw [accept_of_not_isPaired s hr]
    refine ⟨?_, ?_, ?_⟩
    · simp [hr, h.seen]
    · simp [hr, h.foreignKeys]
    · simp [hr, h.diagnostics]

/-- A whole stream has read its rows. -/
theorem hasRead_ofRows (ending : String) (rows : List ForeignKeyRow) :
    HasRead ending (ofRows ending rows) rows := by
  induction rows using List.reverseRecOn with
  | nil => exact ⟨rfl, rfl, rfl⟩
  | append_singleton rows r ih =>
    rw [ofRows, List.foldl_append]
    exact ih.accept r

/-! ## The keys of one table -/

/-- Two streams that are alike as far as one table goes, of which the second has read nothing else. -/
structure AgreeOn (schema table : String) (s alone : ForeignKeyStream) : Prop where
  seen : ∀ base, s.seen.count (schema, table, base) = alone.seen.count (schema, table, base)
  foreignKeys : s.foreignKeys.filter (isKeyOf schema table) = alone.foreignKeys

/-- A row of the table is read alike by both. -/
theorem AgreeOn.accept_own {schema table : String} {s alone : ForeignKeyStream}
    (h : AgreeOn schema table s alone) {r : ForeignKeyRow} (hr : isRowOf schema table r = true) :
    AgreeOn schema table (s.accept ending r) (alone.accept ending r) := by
  have hkey (name : String) : isKeyOf schema table (keyNamed name r) = true := hr
  obtain ⟨rfl, rfl⟩ : r.schema = schema ∧ r.table = table := by simpa [isRowOf] using hr
  by_cases hpaired : IsPaired r
  · rw [accept_of_isPaired s hpaired, accept_of_isPaired alone hpaired]
    refine ⟨fun base => ?_, ?_⟩
    · rw [List.count_cons, List.count_cons, h.seen]
    · rw [record, h.seen, List.filter_append, h.foreignKeys, List.filter_cons_of_pos (hkey _)]
      rfl
  · rw [accept_of_not_isPaired s hpaired, accept_of_not_isPaired alone hpaired]
    exact ⟨h.seen, h.foreignKeys⟩

/-- A row of another table leaves the keys and the records of the table alone. -/
theorem AgreeOn.accept_other {schema table : String} {s alone : ForeignKeyStream}
    (h : AgreeOn schema table s alone) {r : ForeignKeyRow} (hr : isRowOf schema table r = false) :
    AgreeOn schema table (s.accept ending r) alone := by
  have hkey (name : String) : isKeyOf schema table (keyNamed name r) = false := hr
  by_cases hpaired : IsPaired r
  · rw [accept_of_isPaired s hpaired]
    refine ⟨fun base => ?_, ?_⟩
    · have hne : record ending r ≠ (schema, table, base) := by
        intro he
        simp only [record, Prod.mk.injEq] at he
        simp [isRowOf, he.1, he.2.1] at hr
      rw [List.count_cons_of_ne hne, h.seen]
    · rw [List.filter_append, h.foreignKeys, List.filter_cons_of_neg (by rw [hkey]; simp)]
      exact List.append_nil _
  · rw [accept_of_not_isPaired s hpaired]
    exact ⟨h.seen, h.foreignKeys⟩

/-- The rows of a table alone are read like all rows, as far as the table goes. -/
theorem agreeOn_ofRows (ending : String) (rows : List ForeignKeyRow) (schema table : String) :
    AgreeOn schema table (ofRows ending rows) (ofRows ending (rows.filter (isRowOf schema table))) := by
  induction rows using List.reverseRecOn with
  | nil => exact ⟨fun _ => rfl, rfl⟩
  | append_singleton rows r ih =>
    rw [ofRows, List.foldl_append, List.filter_append]
    cases hr : isRowOf schema table r with
    | true =>
      rw [List.filter_cons_of_pos hr, ofRows, List.foldl_append]
      exact ih.accept_own hr
    | false =>
      rw [List.filter_cons_of_neg (by simp [hr]), List.filter_nil, List.append_nil]
      exact ih.accept_other hr

/-- The foreign keys of any rows: those of the rows whose columns pair up, each numbered by the earlier
ones of its table that ask for the same base name. The other rows are reported one by one, and the
keys of a table are those of its rows alone. -/
theorem foreignKeys_ofRows (ending : String) (rows : List ForeignKeyRow) :
    (ofRows ending rows).foreignKeys = keysOfKept ending (rows.filter (IsPaired ·)) ∧
      (ofRows ending rows).diagnostics = (rows.filter (¬ IsPaired ·)).map unpaired ∧
      ∀ schema table, (ofRows ending rows).foreignKeys.filter (isKeyOf schema table) =
        (ofRows ending (rows.filter (isRowOf schema table))).foreignKeys :=
  ⟨(hasRead_ofRows ending rows).foreignKeys, (hasRead_ofRows ending rows).diagnostics,
    fun schema table => (agreeOn_ofRows ending rows schema table).foreignKeys⟩

end ForeignKeyStream

end SchemaTransfer.Build
