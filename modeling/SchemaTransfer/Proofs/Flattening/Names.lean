import Mathlib.Data.List.Flatten
import Mathlib.Data.List.Nodup
import Mathlib.Data.List.Pairwise
import SchemaTransfer.Flattening
import SchemaTransfer.Proofs.Build.Closure
import SchemaTransfer.Proofs.Emission.Contents

/-!
# The names of flattened columns

Each column is replaced by columns whose names are its own name with an ending: the empty one, or
a numeral for each element. Numerals of one column differ, so two replaced columns have the same
name only when the name of one column begins the name of another and the rest of the longer name
starts a numeral of the shorter one. Main statement: the names of a flattened table are distinct
exactly when no two columns of the table are so related. Then no created table repeats a column,
and the defaults of one table are added under different names.
-/

namespace SchemaTransfer

open Function (onFun)

namespace Column

/-! ## Numerals -/

/-- The zeros before a number do not change it. -/
theorem ofDigitChars_padded (width n : Nat) : Nat.ofDigitChars 10 (padded width n) 0 = n := by
  simp only [padded, decimalDigits, Nat.ofDigitChars_append, Nat.ofDigitChars_replicate_zero,
    Nat.mul_zero, Nat.ofDigitChars_ten_toDigits]

/-- Different numbers have different numerals of the same width. -/
theorem padded_injective (width : Nat) : Function.Injective (padded width) := by
  intro i j h
  rw [← ofDigitChars_padded width i, h, ofDigitChars_padded]

/-! ## Endings -/

/-- What follows the name of a column in the names of the columns that replace it. -/
def endings (c : Column) (found : Option Int64) : List (List Char) :=
  if c.isExpanded found then
    (List.range' 1 (found.getD 0).toInt.toNat).map (padded (suffixWidth (found.getD 0)))
  else [[]]

/-- The name of a column followed by an ending. -/
def nameWith (c : Column) (ending : List Char) : String := String.ofList (c.name.toList ++ ending)

/-- The columns that replace a column are named after it, with one ending each. -/
theorem names_flattened (c : Column) (found : Option Int64) :
    (c.flattened found).map (·.name) = (c.endings found).map c.nameWith := by
  unfold flattened endings isExpanded
  cases ha : c.isArray with
  | false => simp [nameWith]
  | true =>
    by_cases hc : found.getD 0 ≤ 1
    · have hn : ¬ 1 < found.getD 0 := Int64.not_lt.mpr hc
      simp [hc, hn, scalar, nameWith]
    · have hn : 1 < found.getD 0 := Int64.not_le.mp hc
      simp only [if_true, hc, if_false, Bool.true_and, decide_eq_true hn, List.map_map]
      refine List.map_congr_left fun i _ => ?_
      simp only [Function.comp_apply, element, apply_ite Column.name, scalar, ite_self,
        elementName, nameWith]

/-- The endings of one column differ. -/
theorem nodup_endings (c : Column) (found : Option Int64) : (c.endings found).Nodup := by
  unfold endings
  split
  · exact List.Nodup.map (padded_injective _) List.nodup_range'
  · exact List.nodup_singleton _

theorem nameWith_injective (c : Column) : Function.Injective c.nameWith := by
  intro a b h
  simpa only [nameWith, String.ofList_inj, List.append_cancel_left_eq] using h

/-- Whether the name of another column, with one of its endings, continues the name of this one to
one of its own replacements. -/
def Shadows (c d : Column) (foundC foundD : Option Int64) : Prop :=
  ∃ rest ≠ [], d.name.toList = c.name.toList ++ rest ∧
    ∃ ending ∈ d.endings foundD, rest ++ ending ∈ c.endings foundC

/-- Two columns with different names are replaced by different names unless one shadows the
other. -/
theorem disjoint_replacements_iff {c d : Column} (h : c.name ≠ d.name)
    (foundC foundD : Option Int64) :
    List.Disjoint ((c.endings foundC).map c.nameWith) ((d.endings foundD).map d.nameWith) ↔
      ¬ c.Shadows d foundC foundD ∧ ¬ d.Shadows c foundD foundC := by
  have hne : c.name.toList ≠ d.name.toList := fun he => h (String.toList_inj.mp he)
  constructor
  · intro hd
    constructor
    · rintro ⟨rest, _, hname, ending, hending, hmem⟩
      refine hd (List.mem_map_of_mem hmem) (List.mem_map.mpr ⟨ending, hending, ?_⟩)
      simp only [nameWith, hname, List.append_assoc]
    · rintro ⟨rest, _, hname, ending, hending, hmem⟩
      refine hd (List.mem_map.mpr ⟨ending, hending, ?_⟩) (List.mem_map_of_mem hmem)
      simp only [nameWith, hname, List.append_assoc]
  · rintro ⟨hcd, hdc⟩ name hc hd
    obtain ⟨a, ha, rfl⟩ := List.mem_map.mp hc
    obtain ⟨b, hb, he⟩ := List.mem_map.mp hd
    simp only [nameWith, String.ofList_inj] at he
    -- One of the two names begins the other; the rest of it starts the longer ending.
    rcases List.append_eq_append_iff.mp he with ⟨rest, hname, rfl⟩ | ⟨rest, hname, rfl⟩
    · refine hdc ⟨rest, ?_, hname, a, ha, hb⟩
      rintro rfl
      exact hne (by simpa using hname)
    · refine hcd ⟨rest, ?_, hname, b, hb, ha⟩
      rintro rfl
      exact hne (by simpa using hname.symm)

/-- A column that holds no arrays stays as it is. -/
theorem flattened_of_not_isArray {c : Column} (h : c.isArray = false) (found : Option Int64) :
    c.flattened found = [c] := by
  simp only [flattened, h, Bool.false_eq_true, if_false]

end Column

namespace Table

theorem hasArray_eq_false_iff {t : Table} :
    t.hasArray = false ↔ ∀ c ∈ t.columns, c.isArray = false := by
  simp only [hasArray, List.any_eq_false, Bool.not_eq_true]

/-- A table without arrays stays as it is. -/
theorem flattened_of_not_hasArray {t : Table} (h : t.hasArray = false) (found : Cardinalities) :
    t.flattened found = t := by
  simp only [flattened, h, Bool.false_eq_true, if_false]

/-- In a table with arrays the columns are replaced and numbered. -/
theorem flattened_of_hasArray {t : Table} (h : t.hasArray = true) (found : Cardinalities) :
    t.flattened found = { t with columns := renumbered (t.flattenedColumns found) } := by
  simp only [flattened, h, if_true]

/-- Without arrays each column stands for itself. -/
theorem flattenedColumns_of_not_hasArray {t : Table} (h : t.hasArray = false)
    (found : Cardinalities) : t.flattenedColumns found = t.columns := by
  refine (List.flatMap_congr fun c hc => ?_).trans (List.flatMap_singleton' _)
  exact Column.flattened_of_not_isArray (hasArray_eq_false_iff.mp h c hc) _

/-- Columns keep their names when they are numbered. -/
theorem names_renumbered (columns : List Column) :
    (renumbered columns).map (·.name) = columns.map (·.name) := by
  apply List.ext_getElem
  · simp [renumbered]
  · intro i _ _
    simp [renumbered]

/-- The names of a flattened table are those of the replacements of its columns, in order. -/
theorem columnNames_flattened (t : Table) (found : Cardinalities) :
    (t.flattened found).columnNames =
      t.columns.flatMap fun c => (c.endings (found (t.ref c))).map c.nameWith := by
  have hmap : (t.flattenedColumns found).map (·.name) =
      t.columns.flatMap fun c => (c.endings (found (t.ref c))).map c.nameWith := by
    simp only [flattenedColumns, List.map_flatMap, Column.names_flattened]
  cases ha : t.hasArray with
  | true => simpa only [flattened_of_hasArray ha, columnNames, names_renumbered] using hmap
  | false =>
    rw [flattenedColumns_of_not_hasArray ha] at hmap
    rwa [flattened_of_not_hasArray ha]

/-- Whether no column of a table shadows another. -/
def NamesStayApart (t : Table) (found : Cardinalities) : Prop :=
  ∀ c ∈ t.columns, ∀ d ∈ t.columns, ¬ c.Shadows d (found (t.ref c)) (found (t.ref d))

/-- Distinct names stay distinct exactly when no column shadows another. -/
theorem nodup_columnNames_flattened_iff {t : Table} (h : t.columnNames.Nodup)
    (found : Cardinalities) :
    (t.flattened found).columnNames.Nodup ↔ t.NamesStayApart found := by
  have hnames : ∀ c ∈ t.columns, ∀ d ∈ t.columns, c ≠ d → c.name ≠ d.name :=
    fun c hc d hd hne he => hne (List.inj_on_of_nodup_map h hc hd he)
  rw [columnNames_flattened, List.nodup_flatMap]
  constructor
  · rintro ⟨_, hp⟩ c hc d hd hs
    have hne : c ≠ d := by
      rintro rfl
      obtain ⟨rest, hrest, hname, _⟩ := hs
      exact hrest (by simpa using hname)
    have hsymm : Std.Symm (onFun List.Disjoint fun c : Column =>
        (c.endings (found (t.ref c))).map c.nameWith) := ⟨fun _ _ => List.disjoint_symm⟩
    have hapart := hp.forall hc hd hne
    exact ((Column.disjoint_replacements_iff (hnames c hc d hd hne) _ _).mp hapart).1 hs
  · intro hs
    refine ⟨fun c _ => (c.nodup_endings _).map c.nameWith_injective, ?_⟩
    refine (List.Nodup.of_map _ h).pairwise_of_forall_ne fun c hc d hd hne => ?_
    exact (Column.disjoint_replacements_iff (hnames c hc d hd hne) _ _).mpr
      ⟨hs c hc d hd, hs d hd c hc⟩

end Table

/-! ## Names that the scripts write -/

namespace Emission

/-- A table is created with distinct columns when its columns have distinct names. -/
private theorem nodup_columns_of_createTable_mem {options : EmitOptions} {k : Catalog}
    (h : ∀ t ∈ k.tables, t.columnNames.Nodup) {script : Script}
    (hs : script ∈ (k.emit options).scripts) {name : ObjectName}
    {columns : List ColumnDefinition} (hc : .createTable name columns ∈ script.statements) :
    (columns.map (·.name)).Nodup := by
  cases hk : k.isEmpty with
  | true => simp [Catalog.emit, hk] at hs
  | false =>
    rw [scripts_emit options hk] at hs
    obtain ⟨kind, _, rfl⟩ := List.mem_map.mp hs
    obtain ⟨t, ht, he⟩ := exists_of_createTable_mem hc
    cases he
    have hnames := h t (mem_keptTables.mp ht).1
    simpa only [List.map_map, Function.comp_def, name_columnDefinition, Table.columnNames]
      using hnames

/-- The name under which a statement adds a default. -/
def addedConstraint? : Statement → Option String
  | .addDefault _ constraint _ _ => some constraint
  | _ => none

/-- The defaults of a table are added under different names when its columns have distinct
names. -/
private theorem nodup_constraints_addDefaults {t : Table} (h : t.columnNames.Nodup) :
    ((addDefaults t).batch.filterMap addedConstraint?).Nodup := by
  have hcolumn : ∀ c ∈ t.columns, ((addDefault t c).batch.filterMap addedConstraint?).Sublist
      [defaultConstraint t c] := by
    intro c _
    rcases addDefault_cases t c with ⟨_, he⟩ | ⟨_, expression, he⟩ | ⟨_, d, _, he⟩
    · simp [he]
    · simp [he, addedConstraint?]
    · simp [he, Emitted.skipped]
  have hsub : ((addDefaults t).batch.filterMap addedConstraint?).Sublist
      (t.columnNames.map fun name => "DF_" ++ t.name ++ "_" ++ name) := by
    simpa only [addDefaults, batch_gather, List.flatMap_map, List.filterMap_flatMap,
      ← List.map_eq_flatMap, Table.columnNames, List.map_map, Function.comp_def,
      defaultConstraint] using List.Sublist.flatMap_right _ hcolumn
  refine List.Nodup.sublist hsub (h.map fun a b hab => ?_)
  exact String.append_right_inj _ |>.mp hab

end Emission

namespace Catalog

/-- Flattening keeps the column names of every table distinct exactly when no column shadows
another one of its table. Then no created table repeats a column and no two defaults of one table
are added under the same name. -/
theorem nodup_columnNames_flatten_iff {k : Catalog} (h : ∀ t ∈ k.tables, t.columnNames.Nodup)
    (found : Cardinalities) :
    ((∀ t ∈ (k.flatten found).tables, t.columnNames.Nodup) ↔
        ∀ t ∈ k.tables, t.NamesStayApart found) ∧
      ((∀ t ∈ k.tables, t.NamesStayApart found) → ∀ options : EmitOptions,
        (∀ script ∈ ((k.flatten found).emit options).scripts, ∀ name columns,
          .createTable name columns ∈ script.statements → (columns.map (·.name)).Nodup) ∧
        ∀ t ∈ (k.flatten found).tables,
          ((Emission.addDefaults t).batch.filterMap Emission.addedConstraint?).Nodup) := by
  have hiff : (∀ t ∈ (k.flatten found).tables, t.columnNames.Nodup) ↔
      ∀ t ∈ k.tables, t.NamesStayApart found := by
    simp only [flatten, List.forall_mem_map]
    exact forall₂_congr fun t ht => Table.nodup_columnNames_flattened_iff (h t ht) found
  refine ⟨hiff, fun hapart options => ⟨fun script hs name columns hc => ?_, fun t ht => ?_⟩⟩
  · exact Emission.nodup_columns_of_createTable_mem (hiff.mpr hapart) hs hc
  · exact Emission.nodup_constraints_addDefaults (hiff.mpr hapart t ht)

/-- Rows of a table with an array column `tags` and a text column of a given name. -/
def taggedRows (name : String) : CatalogRows where
  columns := [
    { schema := "s", table := "t", column := "tags", ordinal := 1, regtype := "text[]"
      isNullable := true, arrayDims := 1 },
    { schema := "s", table := "t", column := name, ordinal := 2, regtype := "text"
      isNullable := true }]

/-- Two elements at most were found in `tags`. -/
def taggedFound : Cardinalities := Cardinalities.empty.record ⟨"s", "t", "tags"⟩ 2

theorem nodup_columnNames_flatten_tagged :
    (∀ t ∈ (build (taggedRows "note") "").catalog.tables, t.columnNames.Nodup) ∧
      ∀ t ∈ (build (taggedRows "note") "").catalog.tables, t.NamesStayApart taggedFound := by
  have h : ∀ t ∈ (build (taggedRows "note") "").catalog.tables, t.columnNames.Nodup := by decide
  exact ⟨h, (nodup_columnNames_flatten_iff h taggedFound).1.mp (by decide)⟩

/-- A column called like the first element of another one makes two columns of one name. -/
theorem not_nodup_columnNames_flatten_tagged :
    (∀ t ∈ (build (taggedRows "tags1") "").catalog.tables, t.columnNames.Nodup) ∧
      ((build (taggedRows "tags1") "").catalog.flatten taggedFound).tables.map (·.columnNames) =
        [["tags1", "tags2", "tags1"]] ∧
      ¬ ∀ t ∈ ((build (taggedRows "tags1") "").catalog.flatten taggedFound).tables,
        t.columnNames.Nodup := by
  refine ⟨by decide, by decide, by decide⟩

end Catalog

end SchemaTransfer
