import Mathlib.Algebra.Ring.Nat
import Mathlib.Data.List.Forall2
import SchemaTransfer.Proofs.Flattening.Columns
import SchemaTransfer.Proofs.Flattening.References

/-!
# What flattening is to do

Flattening is described here by what may stand for what: which columns for a column, which keys for
a key of an index, and how the columns of a table are numbered. Nothing is said about how the
columns are found or in which order the work is done. Main statement: the flattened catalog is the
only one that fits the description, and the numbers of columns before and after differ by what the
summary counts.
-/

namespace SchemaTransfer

/-- Where each element of a list is related to one other only, so is the list. -/
theorem forall₂_iff_eq_map {α β : Type} {R : α → β → Prop} {f : α → β} {as : List α}
    (h : ∀ a ∈ as, ∀ b, R a b ↔ b = f a) {bs : List β} :
    List.Forall₂ R as bs ↔ bs = as.map f := by
  induction as generalizing bs with
  | nil => exact List.forall₂_nil_left_iff
  | cons a as ih =>
    have hrest (bs : List β) : List.Forall₂ R as bs ↔ bs = as.map f :=
      ih fun a ha => h a (List.mem_cons_of_mem _ ha)
    simp only [List.forall₂_cons_left_iff, List.map_cons, hrest, h a List.mem_cons_self]
    constructor
    · rintro ⟨b, bs, rfl, rfl, rfl⟩
      rfl
    · rintro rfl
      exact ⟨_, _, rfl, rfl, rfl⟩

namespace Column

/-- How many columns stand for a column, if there are several. -/
def elementCount? (c : Column) (found : Option Int64) : Option Int64 :=
  if c.isArray then found.filter fun n => 1 < n else none

/-- Whether a column holds single elements of the arrays of another one: it has the element type,
and what else goes with a type is the same. -/
structure HoldsElementsOf (d c : Column) : Prop where
  sourceType : d.sourceType = c.elementType
  formattedType : d.formattedType = TypeName.bare c.formattedType
  arrayDims : d.arrayDims = 0
  isNullable : d.isNullable = c.isNullable
  numericPrecision : d.numericPrecision = c.numericPrecision
  numericScale : d.numericScale = c.numericScale
  maxCharSize : d.maxCharSize = c.maxCharSize

/-- The columns that may stand for a column, given what was found for it; their numbers are left
open. -/
inductive ReplacedBy (c : Column) (found : Option Int64) : List Column → Prop
  /-- A column that holds no arrays stands for itself. -/
  | itself (d : Column) (array : c.isArray = false) (same : d.unnumbered = c.unnumbered) :
      ReplacedBy c found [d]
  /-- Where nothing is known or one element at most was found, one column of the same name stands
  for an array. -/
  | single (d : Column) (array : c.isArray = true) (few : ∀ n ∈ found, n ≤ 1)
      (holds : d.HoldsElementsOf c) (name : d.name = c.name)
      (count : d.maxCardinality.toInt = max 0 (found.getD 0).toInt)
      (default : d.defaultExpr = c.defaultExpr) (comment : d.comment = c.comment) :
      ReplacedBy c found [d]
  /-- Otherwise one column for each element stands for an array; the first one has the default and
  the comment. -/
  | several (count : Int64) (ds : List Column) (array : c.isArray = true)
      (known : found = some count) (many : 1 < count) (length : (ds.length : Int) = count.toInt)
      (holds : ∀ i (h : i < ds.length), ds[i].HoldsElementsOf c ∧ ds[i].maxCardinality = count ∧
        ds[i].name = elementName c.name (suffixWidth count) (i + 1))
      (first : ∀ h : 0 < ds.length, ds[0].defaultExpr = c.defaultExpr ∧ ds[0].comment = c.comment)
      (later : ∀ i (h : i < ds.length), 0 < i →
        ds[i].defaultExpr = none ∧ ds[i].comment = none) :
      ReplacedBy c found ds

variable {c d : Column} {found : Option Int64}

/-- Columns that are the same but for their numbers differ in these. -/
theorem eq_of_unnumbered_eq (h : d.unnumbered = c.unnumbered) :
    d = { c with ordinal := d.ordinal } :=
  calc
    d = { d.unnumbered with ordinal := d.ordinal } := rfl
    _ = { c.unnumbered with ordinal := d.ordinal } := by rw [h]

theorem isExpanded_eq_isSome (c : Column) (found : Option Int64) :
    c.isExpanded found = (c.elementCount? found).isSome := by
  unfold isExpanded elementCount?
  cases c.isArray with
  | false => rfl
  | true =>
    cases found with
    | none => rfl
    | some n => by_cases h : 1 < n <;> simp [h]

/-- A column that is made of another by taking the element type is known by its fields. -/
theorem unnumbered_eq_scalar_iff {name : String} {count : Int64} {default comment : Option String} :
    d.unnumbered = unnumbered { c.scalar name count with
        defaultExpr := default, comment := comment } ↔
      d.HoldsElementsOf c ∧ d.name = name ∧ d.maxCardinality = count ∧
        d.defaultExpr = default ∧ d.comment = comment := by
  have hholds : d.HoldsElementsOf c ↔ d.sourceType = c.elementType ∧
      d.formattedType = TypeName.bare c.formattedType ∧ d.arrayDims = 0 ∧
      d.isNullable = c.isNullable ∧ d.numericPrecision = c.numericPrecision ∧
      d.numericScale = c.numericScale ∧ d.maxCharSize = c.maxCharSize :=
    ⟨fun ⟨h1, h2, h3, h4, h5, h6, h7⟩ => ⟨h1, h2, h3, h4, h5, h6, h7⟩,
      fun ⟨h1, h2, h3, h4, h5, h6, h7⟩ => ⟨h1, h2, h3, h4, h5, h6, h7⟩⟩
  simp only [hholds, unnumbered, scalar, mk.injEq, true_and]
  tauto

/-- The column for an element has the default and the comment if it is the first. -/
theorem element_eq (c : Column) (count : Int64) (i : Nat) :
    c.element count i = { c.scalar (elementName c.name (suffixWidth count) i) count with
      defaultExpr := if i = 1 then c.defaultExpr else none
      comment := if i = 1 then c.comment else none } := by
  unfold element
  split <;> rfl

/-- What is kept for an array that becomes one column, as a number of elements. -/
theorem eq_ite_iff_toInt_eq_max {n count : Int64} :
    n = (if count < 0 then 0 else count) ↔ n.toInt = max 0 count.toInt := by
  simp only [← Int64.toInt_inj, apply_ite Int64.toInt, Int64.lt_iff_toInt_lt, Int64.toInt_zero]
  split <;> omega

/-- The columns that may stand for an array of which several elements were found. -/
private theorem replacedBy_several_iff {count : Int64} (hc : c.isArray = true) (hmany : 1 < count)
    {ds : List Column} :
    c.ReplacedBy (some count) ds ↔ ds.map unnumbered =
      ((List.range' 1 count.toInt.toNat).map (c.element count)).map unnumbered := by
  have hpos : 1 < count.toInt := by simpa [Int64.lt_iff_toInt_lt] using hmany
  constructor
  · rintro (⟨d, harray, _⟩ | ⟨d, _, few, _⟩ | ⟨n, _, _, hknown, _, hlength, hholds, hfirst, hlater⟩)
    · rw [hc] at harray
      cases harray
    · exact absurd hmany (Int64.not_lt.mpr (few count rfl))
    · obtain rfl : count = n := Option.some.inj hknown
      refine List.ext_getElem ?_ fun i hi _ => ?_
      · simp only [List.length_map, List.length_range']
        omega
      simp only [List.getElem_map, List.getElem_range', element_eq, unnumbered_eq_scalar_iff]
      rw [List.length_map] at hi
      obtain ⟨helement, hcount, hname⟩ := hholds i hi
      refine ⟨helement, by rw [hname]; congr 1; omega, hcount, ?_⟩
      cases i with
      | zero => simpa using hfirst hi
      | succ i => simpa using hlater (i + 1) hi (Nat.succ_pos i)
  · intro h
    have hlength : ds.length = count.toInt.toNat := by simpa using congrArg List.length h
    have hfields (i : Nat) (hi : i < ds.length) := by
      have hget := List.getElem_of_eq h (by simpa using hi : i < (ds.map unnumbered).length)
      simp only [List.getElem_map, List.getElem_range', element_eq,
        unnumbered_eq_scalar_iff] at hget
      exact hget
    refine .several count ds hc rfl hmany (by omega) (fun i hi => ?_) (fun h => ?_)
      fun i hi hi0 => ?_
    · obtain ⟨helement, hname, hcount, _⟩ := hfields i hi
      exact ⟨helement, hcount, by rw [hname]; congr 1; omega⟩
    · simpa using (hfields 0 h).2.2.2
    · simpa [Nat.ne_of_gt hi0] using (hfields i hi).2.2.2

/-- The column that may stand for an array of which one element at most was found. -/
private theorem replacedBy_single_iff (hc : c.isArray = true) (hfew : found.getD 0 ≤ 1)
    {ds : List Column} :
    c.ReplacedBy found ds ↔ ∃ d, ds = [d] ∧ d.unnumbered = unnumbered
      (c.scalar c.name (if found.getD 0 < 0 then 0 else found.getD 0)) := by
  have hfields (d : Column) : d.unnumbered = unnumbered
      (c.scalar c.name (if found.getD 0 < 0 then 0 else found.getD 0)) ↔
        d.HoldsElementsOf c ∧ d.name = c.name ∧
          d.maxCardinality = (if found.getD 0 < 0 then 0 else found.getD 0) ∧
          d.defaultExpr = c.defaultExpr ∧ d.comment = c.comment :=
    unnumbered_eq_scalar_iff
  constructor
  · rintro (⟨_, harray, _⟩ | ⟨d, _, _, hholds, hname, hcount, hdefault, hcomment⟩ |
      ⟨n, _, _, rfl, hmany, _⟩)
    · rw [hc] at harray
      cases harray
    · exact ⟨d, rfl, (hfields d).mpr
        ⟨hholds, hname, eq_ite_iff_toInt_eq_max.mpr hcount, hdefault, hcomment⟩⟩
    · exact absurd hmany (Int64.not_lt.mpr hfew)
  · rintro ⟨d, rfl, hsame⟩
    obtain ⟨hholds, hname, hcount, hdefault, hcomment⟩ := (hfields d).mp hsame
    refine .single d hc ?_ hholds hname (eq_ite_iff_toInt_eq_max.mp hcount) hdefault hcomment
    rintro n rfl
    exact hfew

/-- The column that may stand for a column without arrays. -/
private theorem replacedBy_itself_iff (hc : c.isArray = false) {ds : List Column} :
    c.ReplacedBy found ds ↔ ∃ d, ds = [d] ∧ d.unnumbered = c.unnumbered := by
  constructor
  · rintro (⟨d, _, hsame⟩ | ⟨_, harray, _⟩ | ⟨_, _, harray, _⟩)
    · exact ⟨d, rfl, hsame⟩
    all_goals
      rw [hc] at harray
      cases harray
  · rintro ⟨d, rfl, hsame⟩
    exact .itself d hc hsame

/-- The columns that may stand for a column are, but for their numbers, those that flattening puts
in its place. -/
theorem replacedBy_iff {ds : List Column} :
    c.ReplacedBy found ds ↔ ds.map unnumbered = (c.flattened found).map unnumbered := by
  cases hc : c.isArray with
  | false =>
    rw [flattened_of_not_isArray hc, List.map_singleton, List.map_eq_singleton_iff,
      replacedBy_itself_iff hc]
  | true =>
    by_cases hfew : found.getD 0 ≤ 1
    · have hone : c.flattened found =
          [c.scalar c.name (if found.getD 0 < 0 then 0 else found.getD 0)] := by
        simp only [flattened, hc, if_true, hfew]
      rw [hone, List.map_singleton, List.map_eq_singleton_iff, replacedBy_single_iff hc hfew]
    · cases found with
      | none => exact absurd (by decide : (0 : Int64) ≤ 1) hfew
      | some count =>
        rw [Option.getD_some] at hfew
        rw [replacedBy_several_iff hc (Int64.not_le.mp hfew)]
        simp only [flattened, hc, if_true, Option.getD_some, hfew, if_false]

/-- Columns that may stand for a column have the names of those that flattening puts in its
place. -/
theorem names_of_replacedBy {ds : List Column} (h : c.ReplacedBy found ds) :
    ds.map (·.name) = (c.endings found).map c.nameWith := by
  have hnames := congrArg (List.map (·.name)) (replacedBy_iff.mp h)
  rw [← names_flattened]
  simpa only [List.map_map, Function.comp_def, unnumbered] using hnames

/-- As many columns stand for a column as it has elements, or one. -/
theorem length_flattened (c : Column) (found : Option Int64) :
    (c.flattened found).length = ((c.elementCount? found).map (·.toInt.toNat)).getD 1 := by
  have hlength : (c.flattened found).length = (c.endings found).length := by
    simpa only [List.length_map] using congrArg List.length (c.names_flattened found)
  rw [hlength, endings, isExpanded_eq_isSome]
  unfold elementCount?
  cases c.isArray with
  | false => rfl
  | true =>
    cases found with
    | none => rfl
    | some n => by_cases h : 1 < n <;> simp [h, Option.filter]

end Column

namespace Table

/-- Whether a table is another one without arrays. A table without arrays is not touched; in any
other table each column is replaced in its place, and the columns are numbered from one on. -/
structure FlattenedTo (t : Table) (found : Cardinalities) (t' : Table) : Prop where
  schema : t'.schema = t.schema
  name : t'.name = t.name
  comment : t'.comment = t.comment
  untouched : (∀ c ∈ t.columns, c.isArray = false) → t'.columns = t.columns
  replaced : (∃ c ∈ t.columns, c.isArray = true) → ∃ parts,
    List.Forall₂ (fun c ds => c.ReplacedBy (found (t.ref c)) ds) t.columns parts ∧
      t'.columns = parts.flatten
  numbered : (∃ c ∈ t.columns, c.isArray = true) →
    ∀ i (h : i < t'.columns.length), t'.columns[i].ordinal.toInt = i + 1

/-- Columns are numbered when they are the given ones but for the numbers, and these count from
one. -/
theorem eq_renumbered_iff {columns ds : List Column} (hsize : columns.length < 2 ^ 31) :
    ds = renumbered columns ↔ ds.map Column.unnumbered = columns.map Column.unnumbered ∧
      ∀ i (h : i < ds.length), ds[i].ordinal.toInt = i + 1 := by
  have hnumber {i : Nat} (hi : i < columns.length) : (Int32.ofNat (i + 1)).toInt = i + 1 := by
    rw [Int32.toInt_ofNat_of_lt (by omega)]
    rfl
  constructor
  · rintro rfl
    refine ⟨map_unnumbered_renumbered columns, fun i hi => ?_⟩
    simp only [renumbered, List.length_mapIdx] at hi
    simpa only [renumbered, List.getElem_mapIdx] using hnumber hi
  · rintro ⟨hsame, hordinal⟩
    have hlength : ds.length = columns.length := by simpa using congrArg List.length hsame
    refine List.ext_getElem (by simp [renumbered, hlength]) fun i hi hi' => ?_
    have hfields : ds[i].unnumbered = columns[i].unnumbered := by
      have hi' : i < (ds.map Column.unnumbered).length := by rwa [List.length_map]
      simpa only [List.getElem_map] using List.getElem_of_eq hsame hi'
    have hown : ds[i].ordinal = Int32.ofNat (i + 1) := by
      rw [← Int32.toInt_inj, hordinal i hi, hnumber (hlength ▸ hi)]
    rw [Column.eq_of_unnumbered_eq hfields, hown]
    simp only [renumbered, List.getElem_mapIdx]

/-- Columns that stand for the columns of a list, one after the other. -/
theorem exists_parts_iff {f : Column → Option Int64} {columns ds : List Column} :
    (∃ parts, List.Forall₂ (fun c part => c.ReplacedBy (f c) part) columns parts ∧
        ds = parts.flatten) ↔
      ds.map Column.unnumbered =
        (columns.flatMap fun c => c.flattened (f c)).map Column.unnumbered := by
  induction columns generalizing ds with
  | nil => simp
  | cons c columns ih =>
    simp only [List.flatMap_cons, List.map_append, List.map_eq_append_iff]
    constructor
    · rintro ⟨_, hparts, rfl⟩
      cases hparts with
      | cons hpart hparts =>
        exact ⟨_, _, rfl, Column.replacedBy_iff.mp hpart, ih.mp ⟨_, hparts, rfl⟩⟩
    · rintro ⟨part, rest, rfl, hpart, hrest⟩
      obtain ⟨parts, hparts, rfl⟩ := ih.mpr hrest
      exact ⟨part :: parts, .cons (Column.replacedBy_iff.mpr hpart) hparts, rfl⟩

/-- What stands for a table without arrays is the table. -/
private theorem flattenedTo_iff_of_not_hasArray {t t' : Table} {found : Cardinalities}
    (ha : t.hasArray = false) : t.FlattenedTo found t' ↔ t' = t := by
  have hscalar := hasArray_eq_false_iff.mp ha
  have hnone : ¬ ∃ c ∈ t.columns, c.isArray = true := fun ⟨c, hc, harray⟩ =>
    Bool.false_ne_true ((hscalar c hc).symm.trans harray)
  constructor
  · intro h
    cases t'
    cases t
    simp only [mk.injEq]
    exact ⟨h.schema, h.name, h.untouched hscalar, h.comment⟩
  · rintro rfl
    exact ⟨rfl, rfl, rfl, fun _ => rfl, fun h => absurd h hnone, fun h => absurd h hnone⟩

/-- What stands for a table with arrays has the columns that stand for its columns, numbered. -/
private theorem flattenedTo_iff_of_hasArray {t t' : Table} {found : Cardinalities}
    (ha : t.hasArray = true) (hsize : (t.flattenedColumns found).length < 2 ^ 31) :
    t.FlattenedTo found t' ↔
      t' = { t with columns := renumbered (t.flattenedColumns found) } := by
  have hsome : ∃ c ∈ t.columns, c.isArray = true := by
    simpa only [hasArray, List.any_eq_true] using ha
  have hnot : ¬ ∀ c ∈ t.columns, c.isArray = false := fun h =>
    Bool.false_ne_true ((hasArray_eq_false_iff.mpr h).symm.trans ha)
  have hcolumns : t'.columns = renumbered (t.flattenedColumns found) ↔ _ := eq_renumbered_iff hsize
  rw [flattenedColumns, ← exists_parts_iff] at hcolumns
  constructor
  · intro h
    have heq := hcolumns.mpr ⟨h.replaced hsome, h.numbered hsome⟩
    cases t'
    simp only [mk.injEq]
    exact ⟨h.schema, h.name, heq, h.comment⟩
  · rintro rfl
    obtain ⟨hparts, hnumbered⟩ := hcolumns.mp rfl
    exact ⟨rfl, rfl, rfl, fun h => absurd h hnot, fun _ => hparts, fun _ => hnumbered⟩

/-- The flattened table is the only one that fits the description. -/
theorem flattenedTo_iff {t t' : Table} {found : Cardinalities}
    (hsize : (t.flattened found).columns.length < 2 ^ 31) :
    t.FlattenedTo found t' ↔ t' = t.flattened found := by
  cases ha : t.hasArray with
  | false => rw [flattened_of_not_hasArray ha, flattenedTo_iff_of_not_hasArray ha]
  | true =>
    rw [flattened_of_hasArray ha] at hsize ⊢
    exact flattenedTo_iff_of_hasArray ha (by simpa [renumbered] using hsize)

/-- How many columns stand for each column that becomes several. -/
def elementCounts (t : Table) (found : Cardinalities) : List Nat :=
  t.columns.filterMap fun c => (c.elementCount? (found (t.ref c))).map (·.toInt.toNat)

/-- A flattened table has one column for each column and for each element beyond the first. -/
theorem length_columns_flattened (t : Table) (found : Cardinalities) :
    (t.flattened found).columns.length + (t.elementCounts found).length =
      t.columns.length + (t.elementCounts found).sum := by
  have hlength : (t.flattened found).columns.length =
      (t.columns.flatMap fun c => c.flattened (found (t.ref c))).length := by
    have hnames := congrArg List.length (t.columnNames_flattened found)
    simp only [← Column.names_flattened, ← List.map_flatMap, columnNames,
      List.length_map] at hnames
    exact hnames
  rw [hlength, elementCounts]
  induction t.columns with
  | nil => rfl
  | cons c columns ih =>
    simp only [List.flatMap_cons, List.length_append, List.length_cons, Column.length_flattened,
      List.filterMap_cons] at ih ⊢
    cases c.elementCount? (found (t.ref c)) with
    | none =>
      simp only [Option.map_none, Option.getD_none]
      omega
    | some n =>
      simp only [Option.map_some, Option.getD_some, List.length_cons, List.sum_cons]
      omega

/-- The columns in the place of each column that becomes several are as many as it has elements. -/
theorem map_length_expandedColumns (t : Table) (found : Cardinalities) :
    (t.expandedColumns found).map (fun c => (c.flattened (found (t.ref c))).length) =
      t.elementCounts found := by
  rw [expandedColumns, elementCounts]
  induction t.columns with
  | nil => rfl
  | cons c columns ih =>
    rw [List.filter_cons, List.filterMap_cons, Column.isExpanded_eq_isSome, ← ih]
    have hlength := c.length_flattened (found (t.ref c))
    cases hcount : c.elementCount? (found (t.ref c)) with
    | none => rfl
    | some n =>
      rw [hcount] at hlength
      simp only [Option.isSome_some, if_true, List.map_cons, hlength, Option.map_some,
        Option.getD_some]

end Table

namespace Catalog

variable {k k' : Catalog} {found : Cardinalities}

/-- Whether a column of the catalog stands at a place and becomes several. -/
def BecomesSeveral (k : Catalog) (found : Cardinalities) (place : ColumnRef) (c : Column) : Prop :=
  (∃ t ∈ k.tables, c ∈ t.columns ∧ t.ref c = place) ∧ (c.elementCount? (found place)).isSome = true

/-- The keys that may stand for a key of an index. -/
inductive KeyReplacedBy (k : Catalog) (found : Cardinalities) (x : Index) (key : IndexColumn) :
    List IndexColumn → Prop
  /-- A key on a column that does not become several stands for itself. -/
  | itself (kept : ∀ c, ¬ k.BecomesSeveral found ⟨x.schema, x.table, key.name⟩ c) :
      KeyReplacedBy k found x key [key]
  /-- For any other key stands one key on each of the columns that stand for its column, in its
  direction. -/
  | elements (c : Column) (ds : List Column)
      (several : k.BecomesSeveral found ⟨x.schema, x.table, key.name⟩ c)
      (columns : c.ReplacedBy (found ⟨x.schema, x.table, key.name⟩) ds) :
      KeyReplacedBy k found x key (ds.map fun d => ⟨d.name, key.direction⟩)

/-- Whether an index is another one with its keys replaced in their places. -/
structure IndexFlattenedTo (k : Catalog) (found : Cardinalities) (x x' : Index) : Prop where
  schema : x'.schema = x.schema
  table : x'.table = x.table
  name : x'.name = x.name
  kind : x'.kind = x.kind
  keys : ∃ parts, List.Forall₂ (k.KeyReplacedBy found x) x.columns parts ∧
    x'.columns = parts.flatten

/-- Whether a catalog is another one without arrays: its tables and its indexes are flattened one by
one, and nothing else is touched. -/
structure FlattenedTo (k : Catalog) (found : Cardinalities) (k' : Catalog) : Prop where
  schemas : k'.schemas = k.schemas
  tables : List.Forall₂ (fun t t' => t.FlattenedTo found t') k.tables k'.tables
  userTypes : k'.userTypes = k.userTypes
  sequences : k'.sequences = k.sequences
  indexes : List.Forall₂ (k.IndexFlattenedTo found) k.indexes k'.indexes
  foreignKeys : k'.foreignKeys = k.foreignKeys

/-- How many columns stand for each column of the catalog that becomes several. -/
def elementCounts (k : Catalog) (found : Cardinalities) : List Nat :=
  k.tables.flatMap fun t => t.elementCounts found

/-! ## Keys -/

theorem becomesSeveral_iff {place : ColumnRef} {c : Column} :
    k.BecomesSeveral found place c ↔
      ∃ t ∈ k.tables, c ∈ t.expandedColumns found ∧ t.ref c = place := by
  simp only [BecomesSeveral, Table.mem_expandedColumns, Column.isExpanded_eq_isSome]
  constructor
  · rintro ⟨⟨t, ht, hc, rfl⟩, hcount⟩
    exact ⟨t, ht, ⟨hc, hcount⟩, rfl⟩
  · rintro ⟨t, ht, ⟨hc, hcount⟩, rfl⟩
    exact ⟨⟨t, ht, hc, rfl⟩, hcount⟩

/-- The columns that may stand for a column that becomes several have the names of its elements. -/
theorem names_of_becomesSeveral {place : ColumnRef} {c : Column} {ds : List Column}
    (hc : k.BecomesSeveral found place c) (hds : c.ReplacedBy (found place) ds) :
    ds.map (·.name) = Column.elementNames place.column ((found place).getD 0) := by
  obtain ⟨⟨t, _, _, rfl⟩, hcount⟩ := hc
  rw [← Column.isExpanded_eq_isSome] at hcount
  rw [Column.names_of_replacedBy hds, Column.replacements_of_isExpanded hcount]
  rfl

/-- In the place of a key on a column that becomes several there are keys on the columns that stand
for it. -/
theorem flattenedKeys_of_becomesSeveral {x : Index} {key : IndexColumn} {c : Column}
    {ds : List Column} (hc : k.BecomesSeveral found ⟨x.schema, x.table, key.name⟩ c)
    (hds : c.ReplacedBy (found ⟨x.schema, x.table, key.name⟩) ds) :
    k.flattenedKeys found x key = ds.map fun d => ⟨d.name, key.direction⟩ := by
  obtain ⟨t, ht, hmem, href⟩ := becomesSeveral_iff.mp hc
  have hsome : k.replacement? found ⟨x.schema, x.table, key.name⟩ = some (ds.map (·.name)) := by
    rw [names_of_becomesSeveral hc hds]
    exact replacement?_eq_some_iff.mpr ⟨⟨t, ht, c, hmem, href⟩, rfl⟩
  simp only [flattenedKeys, hsome, List.map_map, Function.comp_def]

/-- A key on a column that does not become several stays. -/
theorem flattenedKeys_of_not_becomesSeveral {x : Index} {key : IndexColumn}
    (h : ∀ c, ¬ k.BecomesSeveral found ⟨x.schema, x.table, key.name⟩ c) :
    k.flattenedKeys found x key = [key] := by
  have hnone : k.replacement? found ⟨x.schema, x.table, key.name⟩ = none := by
    rw [Option.eq_none_iff_forall_ne_some]
    intro names hnames
    obtain ⟨⟨t, ht, c, hmem, href⟩, _⟩ := replacement?_eq_some_iff.mp hnames
    exact h c (becomesSeveral_iff.mpr ⟨t, ht, hmem, href⟩)
  simp only [flattenedKeys, hnone]

/-- The keys that may stand for a key are those that flattening puts in its place. -/
theorem keyReplacedBy_iff {x : Index} {key : IndexColumn} {keys : List IndexColumn} :
    k.KeyReplacedBy found x key keys ↔ keys = k.flattenedKeys found x key := by
  constructor
  · rintro (hkept | ⟨c, ds, hc, hds⟩)
    · exact (flattenedKeys_of_not_becomesSeveral hkept).symm
    · exact (flattenedKeys_of_becomesSeveral hc hds).symm
  · rintro rfl
    by_cases hseveral : ∃ c, k.BecomesSeveral found ⟨x.schema, x.table, key.name⟩ c
    · obtain ⟨c, hc⟩ := hseveral
      have hds : c.ReplacedBy (found ⟨x.schema, x.table, key.name⟩) _ :=
        Column.replacedBy_iff.mpr rfl
      rw [flattenedKeys_of_becomesSeveral hc hds]
      exact .elements c _ hc hds
    · rw [not_exists] at hseveral
      rw [flattenedKeys_of_not_becomesSeveral hseveral]
      exact .itself hseveral

theorem indexFlattenedTo_iff {x x' : Index} :
    k.IndexFlattenedTo found x x' ↔
      x' = { x with columns := x.columns.flatMap (k.flattenedKeys found x) } := by
  have hkeys : (∃ parts, List.Forall₂ (k.KeyReplacedBy found x) x.columns parts ∧
      x'.columns = parts.flatten) ↔
        x'.columns = x.columns.flatMap (k.flattenedKeys found x) := by
    have hparts (parts : List (List IndexColumn)) :
        List.Forall₂ (k.KeyReplacedBy found x) x.columns parts ↔
          parts = x.columns.map (k.flattenedKeys found x) := by
      refine forall₂_iff_eq_map fun key _ keys => ?_
      exact keyReplacedBy_iff
    simp only [hparts, exists_eq_left, List.flatMap_def]
  constructor
  · intro h
    cases x'
    simp only [Index.mk.injEq]
    exact ⟨h.schema, h.table, h.name, h.kind, hkeys.mp h.keys⟩
  · rintro rfl
    exact ⟨rfl, rfl, rfl, rfl, hkeys.mpr rfl⟩

/-! ## Counts -/

/-- The summary counts the columns that become several and the columns that stand for them. -/
theorem flattenSummary_eq (k : Catalog) (found : Cardinalities) :
    k.flattenSummary found = ⟨(k.elementCounts found).length, (k.elementCounts found).sum⟩ := by
  have hcounts : (k.tables.flatMap fun t => (t.expandedColumns found).map fun c =>
      c.flattened (found (t.ref c))).map List.length = k.elementCounts found := by
    simp only [List.map_flatMap, List.map_map, Function.comp_def,
      Table.map_length_expandedColumns, elementCounts]
  have hlength := congrArg List.length hcounts
  rw [List.length_map] at hlength
  simp only [flattenSummary, List.length_flatten, hcounts, hlength]

theorem columnCount_flatten (k : Catalog) (found : Cardinalities) :
    (k.flatten found).columnCount + (k.elementCounts found).length =
      k.columnCount + (k.elementCounts found).sum := by
  simp only [columnCount, flatten, elementCounts]
  induction k.tables with
  | nil => rfl
  | cons t tables ih =>
    have ht := t.length_columns_flattened found
    simp only [List.map_cons, List.flatMap_cons, List.length_append, List.sum_append] at ih ⊢
    omega

/-- As long as no flattened table has more columns than can be numbered, flattening gives the only
catalog that fits the description. The summary counts the columns that become several and the
columns that stand for them, and the number of columns changes by the difference. -/
theorem flattenedTo_iff_eq_flatten
    (hsize : ∀ t ∈ (k.flatten found).tables, t.columns.length < 2 ^ 31) :
    (k.FlattenedTo found k' ↔ k' = k.flatten found) ∧
      k.flattenSummary found = ⟨(k.elementCounts found).length, (k.elementCounts found).sum⟩ ∧
      ((k.flatten found).columnCount : Int) = k.columnCount - (k.flattenSummary found).expanded +
        (k.flattenSummary found).generated := by
  have htables : List.Forall₂ (fun t t' => t.FlattenedTo found t') k.tables k'.tables ↔
      k'.tables = k.tables.map fun t => t.flattened found := by
    refine forall₂_iff_eq_map fun t ht t' => ?_
    exact Table.flattenedTo_iff (hsize _ (List.mem_map_of_mem ht))
  have hindexes : List.Forall₂ (k.IndexFlattenedTo found) k.indexes k'.indexes ↔
      k'.indexes = k.indexes.map fun x =>
        { x with columns := x.columns.flatMap (k.flattenedKeys found x) } := by
    refine forall₂_iff_eq_map fun x _ x' => ?_
    exact indexFlattenedTo_iff
  refine ⟨⟨fun h => ?_, ?_⟩, k.flattenSummary_eq found, ?_⟩
  · cases k'
    simp only [flatten, mk.injEq]
    exact ⟨h.schemas, htables.mp h.tables, h.userTypes, h.sequences, hindexes.mp h.indexes,
      h.foreignKeys⟩
  · rintro rfl
    exact ⟨rfl, htables.mpr rfl, rfl, rfl, hindexes.mpr rfl, rfl⟩
  · have hcount := k.columnCount_flatten found
    rw [k.flattenSummary_eq found]
    dsimp only
    omega

/-- In a catalog of two tables with an array each, the arrays make way for two columns each, and so
does the key of an index on one of them. -/
theorem flattenedTo_iff_eq_flatten_linked :
    let k := (build (linkedRows "owner" "id") "").catalog
    let k' := k.flatten linkedFound
    (∀ t ∈ k'.tables, t.columns.length < 2 ^ 31) ∧ k.FlattenedTo linkedFound k' ∧
      k'.tables.map (fun t => t.columns.map fun c => (c.name, c.ordinal)) =
        [[("tags1", 1), ("tags2", 2), ("owner", 3)], [("labels1", 1), ("labels2", 2), ("id", 3)]] ∧
      k'.indexes.map (·.columns) = [[⟨"tags1", .asc⟩, ⟨"tags2", .asc⟩]] ∧
      k.columnCount = 4 ∧ k.flattenSummary linkedFound = ⟨2, 4⟩ ∧ k'.columnCount = 6 := by
  intro k k'
  have hsize : ∀ t ∈ k'.tables, t.columns.length < 2 ^ 31 := by decide
  obtain ⟨hiff, _, hcount⟩ := @flattenedTo_iff_eq_flatten k k' linkedFound hsize
  have hbefore : k.columnCount = 4 := by decide
  have hsummary : k.flattenSummary linkedFound = ⟨2, 4⟩ := by decide
  refine ⟨hsize, hiff.mpr rfl, by decide, by decide, hbefore, hsummary, ?_⟩
  rw [hbefore, hsummary] at hcount
  exact Int.ofNat_inj.mp hcount

end Catalog

end SchemaTransfer
