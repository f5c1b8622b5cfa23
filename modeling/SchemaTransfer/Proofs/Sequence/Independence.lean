import Mathlib.Data.List.Forall2
import SchemaTransfer.BinaryWidth
import SchemaTransfer.Proofs.Flattening.Columns
import SchemaTransfer.Proofs.Sequence.Ranges
import SchemaTransfer.Proofs.TypeName.Bare

/-!
# Resolving among the other transformations

What a sequence takes its type from is the first column that it feeds. Flattening keeps that column
first: of the columns in the place of an array only the first has its default, and its type is the
element type of the array, which is its own element type. Sizing changes no default and no type.
Main statement: resolving is done once and for all, lowers maxima and nothing else, and can change
places with flattening and with sizing.
-/

namespace SchemaTransfer

namespace Sequence

variable (s : Sequence) (schema : String)

/-! ## The columns that a sequence feeds -/

/-- The element types of the columns of a list that the sequence feeds, in order. -/
def fedTypes (columns : List Column) : List String :=
  (columns.filter (s.feeds schema)).map (·.elementType)

theorem fedTypes_append (front back : List Column) :
    s.fedTypes schema (front ++ back) = s.fedTypes schema front ++ s.fedTypes schema back := by
  simp only [fedTypes, List.filter_append, List.map_append]

/-- A column feeds nothing without a default. -/
theorem feeds_of_defaultExpr_eq_none {c : Column} (h : c.defaultExpr = none) :
    s.feeds schema c = false := by
  simp only [feeds, h]

/-- Only defaults and element types count. -/
theorem fedTypes_map_congr {f : Column → Column}
    (hdefault : ∀ c, (f c).defaultExpr = c.defaultExpr)
    (htype : ∀ c, (f c).elementType = c.elementType) (columns : List Column) :
    s.fedTypes schema (columns.map f) = s.fedTypes schema columns := by
  have hfeeds : s.feeds schema ∘ f = s.feeds schema := by
    funext c
    simp only [Function.comp_apply, feeds, hdefault]
  simp only [fedTypes, List.filter_map, List.map_map, hfeeds]
  exact List.map_congr_left fun c _ => htype c

/-- The type that bounds a sequence is decided by the types of the columns that it feeds. -/
theorem feedingType_eq (tables : List Table) :
    s.feedingType tables = s.ownerType.getD
      ((tables.flatMap fun t => s.fedTypes t.schema t.columns).head?.getD s.dataType) := by
  have htypes : (tables.flatMap fun t => s.fedTypes t.schema t.columns) =
      (s.fedColumns tables).map (·.elementType) := by
    simp only [fedColumns, List.map_flatMap, fedTypes]
  rw [htypes, List.head?_map, feedingType]
  cases s.ownerType with
  | some owner => rfl
  | none => cases (s.fedColumns tables).head? <;> rfl

/-- Tables whose columns feed a sequence alike give it the same type. -/
theorem feedingType_map_congr {f : Table → Table} {tables : List Table}
    (h : ∀ t ∈ tables, s.fedTypes (f t).schema (f t).columns = s.fedTypes t.schema t.columns) :
    s.feedingType (tables.map f) = s.feedingType tables := by
  rw [feedingType_eq, feedingType_eq, List.flatMap_map, List.flatMap_congr h]

/-! ## Flattening -/

/-- Of the columns in the place of a column, the first feeds a sequence if the column does, with its
element type, and the others feed none. -/
theorem fedTypes_flattened (c : Column) (found : Option Int64) :
    s.fedTypes schema (c.flattened found) = s.fedTypes schema [c] := by
  have hscalar (name : String) (count : Int64) :
      s.fedTypes schema [c.scalar name count] = s.fedTypes schema [c] := by
    have hfeeds : s.feeds schema (c.scalar name count) = s.feeds schema c := rfl
    have htype : (c.scalar name count).elementType = c.elementType := TypeName.bare_bare _
    simp only [fedTypes, List.filter_singleton, hfeeds]
    cases s.feeds schema c with
    | true => exact congrArg (fun type => [type]) htype
    | false => rfl
  unfold Column.flattened
  split
  · dsimp only
    split
    · exact hscalar _ _
    · rename_i hmany
      obtain ⟨n, hn⟩ : ∃ n, (found.getD 0).toInt.toNat = n + 1 := by
        rw [Int64.le_iff_toInt_le, Int64.toInt_one] at hmany
        exact ⟨(found.getD 0).toInt.toNat - 1, by omega⟩
      have hfirst : s.fedTypes schema [c.element (found.getD 0) 1] = s.fedTypes schema [c] := by
        simp only [Column.element, if_true, hscalar]
      have hothers : s.fedTypes schema ((List.range' 2 n).map (c.element (found.getD 0))) = [] := by
        rw [fedTypes, List.filter_eq_nil_iff.mpr, List.map_nil]
        intro d hd
        obtain ⟨i, hi, rfl⟩ := List.mem_map.mp hd
        have hne : i ≠ 1 := by
          have := List.left_le_of_mem_range' hi
          omega
        rw [feeds_of_defaultExpr_eq_none]
        · exact Bool.false_ne_true
        · simp only [Column.element, if_neg hne]
      rw [hn, List.range'_succ, List.map_cons, ← List.singleton_append, fedTypes_append, hothers,
        List.append_nil, hfirst]
  · rfl

/-- Numbers do not count. -/
theorem fedTypes_renumbered (columns : List Column) :
    s.fedTypes schema (Table.renumbered columns) = s.fedTypes schema columns := by
  have hunnumbered (cs : List Column) :
      s.fedTypes schema (cs.map Column.unnumbered) = s.fedTypes schema cs :=
    s.fedTypes_map_congr schema (f := Column.unnumbered) (fun _ => rfl) (fun _ => rfl) cs
  rw [← hunnumbered, Table.map_unnumbered_renumbered, hunnumbered]

/-- A flattened table feeds a sequence as the table does. -/
theorem fedTypes_columns_flattened (t : Table) (found : Cardinalities) :
    s.fedTypes schema (t.flattened found).columns = s.fedTypes schema t.columns := by
  unfold Table.flattened
  split
  · rw [fedTypes_renumbered, Table.flattenedColumns]
    induction t.columns with
    | nil => rfl
    | cons c rest ih =>
      rw [List.flatMap_cons, fedTypes_append, fedTypes_flattened, ih, ← fedTypes_append,
        List.singleton_append]
  · rfl

/-- A sequence takes the same type from flattened tables. -/
theorem resolved_flattened (tables : List Table) (found : Cardinalities) :
    s.resolved (tables.map fun t => t.flattened found) = s.resolved tables := by
  simp only [resolved]
  rw [feedingType_map_congr]
  intro t _
  rw [Table.schema_flattened, fedTypes_columns_flattened]

/-! ## Sizing -/

/-- A sequence takes the same type from tables whose binary columns are sized. -/
theorem resolved_sizedBinary (tables : List Table) (found : Cardinalities) :
    s.resolved (tables.map fun t =>
      { t with columns := t.columns.map fun c => c.sizedBinary (found (t.ref c)) }) =
        s.resolved tables := by
  simp only [resolved]
  rw [feedingType_map_congr]
  intro t _
  refine s.fedTypes_map_congr t.schema (fun c => ?_) (fun c => ?_) t.columns
  all_goals
    unfold Column.sizedBinary
    split <;> rfl

/-! ## Resolving twice -/

/-- A bounded maximum is within the bound. -/
theorem boundedMax_boundedMax (target type : String) :
    boundedMax { s with targetType := type, maxValue := s.boundedMax target } target =
      s.boundedMax target := by
  unfold boundedMax
  cases TypeName.capacity? target with
  | none => rfl
  | some capacity =>
    by_cases h : capacity < s.maxValue
    · simp only [h, if_true, Int64.lt_irrefl, if_false]
    · simp only [h, if_false]

/-- What bounds a sequence does not depend on its type in the target and its maximum. -/
theorem feedingType_update (type : String) (maximum : Int64) (tables : List Table) :
    feedingType { s with targetType := type, maxValue := maximum } tables =
      s.feedingType tables := rfl

/-- Resolving changes the type in the target and the maximum alone. -/
theorem resolved_eq_update (tables : List Table) :
    s.resolved tables = { s with
      targetType := (s.resolved tables).targetType, maxValue := (s.resolved tables).maxValue } := by
  simp only [resolved]

/-- Resolving never raises a maximum. -/
theorem maxValue_resolved_le (tables : List Table) : (s.resolved tables).maxValue ≤ s.maxValue := by
  rw [maxValue_resolved]
  exact s.boundedMax_le _

/-- A sequence is resolved once and for all. -/
theorem resolved_resolved (tables : List Table) :
    (s.resolved tables).resolved tables = s.resolved tables := by
  simp only [resolved, feedingType_update, boundedMax_boundedMax]

end Sequence

namespace Catalog

/-- Whether two steps that each count what they do can change places at a catalog: both orders give
the same catalog and the same counts. -/
structure Interchange {α β : Type} (step : Catalog → Catalog) (count : Catalog → α)
    (other : Catalog → Catalog) (otherCount : Catalog → β) (k : Catalog) : Prop where
  catalog : other (step k) = step (other k)
  count : count (other k) = count k
  otherCount : otherCount (step k) = otherCount k

/-- Whether a catalog differs from another in the types of its sequences and in maxima that are
lower, and in nothing else. -/
structure LowersMaxima (k k' : Catalog) : Prop where
  rest : { k' with sequences := k.sequences } = k
  sequences : List.Forall₂ (fun s s' => s'.maxValue ≤ s.maxValue ∧
    s' = { s with targetType := s'.targetType, maxValue := s'.maxValue }) k.sequences k'.sequences

variable (k : Catalog)

theorem lowersMaxima_resolveSequences : k.LowersMaxima k.resolveSequences where
  rest := rfl
  sequences := by
    rw [resolveSequences, List.forall₂_map_right_iff, List.forall₂_same]
    exact fun s _ => ⟨s.maxValue_resolved_le k.tables, s.resolved_eq_update k.tables⟩

/-- The sequences that are counted are those whose maximum is another one afterwards. -/
theorem clampedCount_eq_countP :
    k.clampedCount = (k.sequences.zip k.resolveSequences.sequences).countP fun (s, s') =>
      s'.maxValue ≠ s.maxValue := by
  have hzip : k.sequences.zip k.resolveSequences.sequences =
      k.sequences.map fun s => (s, s.resolved k.tables) := by
    have h := List.zip_map' (f := id) (g := fun s => s.resolved k.tables) (l := k.sequences)
    rwa [List.map_id] at h
  rw [hzip, List.countP_map, clampedCount, ← List.countP_eq_length_filter]
  exact List.countP_congr fun s _ => by simp

theorem resolveSequences_resolveSequences :
    k.resolveSequences.resolveSequences = k.resolveSequences := by
  simp only [resolveSequences, List.map_map, Function.comp_def, Sequence.resolved_resolved]

/-- Resolved sequences are not counted again. -/
theorem clampedCount_resolveSequences : k.resolveSequences.clampedCount = 0 := by
  rw [clampedCount, List.length_eq_zero_iff, List.filter_eq_nil_iff]
  intro s hs
  obtain ⟨q, _, rfl⟩ := List.mem_map.mp hs
  have hagain : (q.resolved k.tables).resolved k.resolveSequences.tables = q.resolved k.tables :=
    q.resolved_resolved k.tables
  rw [hagain, bne_self_eq_false]
  exact Bool.false_ne_true

/-- Where sequences take the same types, as many maxima are lowered. -/
theorem clampedCount_congr {k k' : Catalog} (hs : k'.sequences = k.sequences)
    (h : ∀ s : Sequence, s.resolved k'.tables = s.resolved k.tables) :
    k'.clampedCount = k.clampedCount := by
  simp only [clampedCount, hs, h]

theorem interchange_resolveSequences_flatten (found : Cardinalities) :
    Interchange resolveSequences clampedCount (flatten · found) (flattenSummary · found) k where
  catalog := by
    simp only [resolveSequences, flatten, Sequence.resolved_flattened]
    rfl
  count := clampedCount_congr rfl fun s => s.resolved_flattened k.tables found
  otherCount := rfl

theorem interchange_resolveSequences_sizeBinaryColumns (found : Cardinalities) :
    Interchange resolveSequences clampedCount (sizeBinaryColumns · found) (sizedCount · found)
      k where
  catalog := by
    simp only [resolveSequences, sizeBinaryColumns, Sequence.resolved_sizedBinary]
  count := clampedCount_congr rfl fun s => s.resolved_sizedBinary k.tables found
  otherCount := rfl

/-- Resolving the sequences of a catalog again changes and counts nothing. Resolving changes types
in the target and lowers maxima, and nothing else; the sequences with another maximum are counted.
It can change places with flattening and with sizing. -/
theorem resolveSequences_interchange (found : Cardinalities) :
    (k.resolveSequences.resolveSequences = k.resolveSequences ∧
        k.resolveSequences.clampedCount = 0) ∧
      k.LowersMaxima k.resolveSequences ∧
      (k.clampedCount = (k.sequences.zip k.resolveSequences.sequences).countP fun (s, s') =>
        s'.maxValue ≠ s.maxValue) ∧
      Interchange resolveSequences clampedCount (flatten · found) (flattenSummary · found) k ∧
      Interchange resolveSequences clampedCount (sizeBinaryColumns · found) (sizedCount · found)
        k :=
  ⟨⟨k.resolveSequences_resolveSequences, k.clampedCount_resolveSequences⟩,
    k.lowersMaxima_resolveSequences, k.clampedCount_eq_countP,
    k.interchange_resolveSequences_flatten found,
    k.interchange_resolveSequences_sizeBinaryColumns found⟩

end Catalog

end SchemaTransfer
