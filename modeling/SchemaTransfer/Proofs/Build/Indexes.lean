import Mathlib.Data.List.Basic
import SchemaTransfer.Build.Catalog

/-!
# Indexes from the rows of each

The stream of index rows compares each row with the index being filled only. Rows of that index add
their keys to it, and those of another one complete it and start theirs; what is completed is either
an index or a report.
-/

namespace SchemaTransfer.Build

/-- The key that a row describes, if it is a column. -/
def keyColumn? (r : IndexRow) : Option IndexColumn := r.column.map fun c => ⟨c, .ofOption r.options⟩

/-- Whether every row has a column. -/
def hasColumns (rows : List IndexRow) : Bool := rows.all (·.column.isSome)

/-- An index by what its rows decide, its kind apart: its names and its keys. -/
def indexEntry (x : Index) : List String × List IndexColumn :=
  ([x.schema, x.table, x.name], x.columns)

/-- The key under which index rows are grouped. -/
def indexKey (r : IndexRow) : List String := [r.schema, r.table, r.indexName]

/-- The index that a row and the rows after it describe. -/
def PendingIndex.ofRun (r : IndexRow) (rows : List IndexRow) : PendingIndex where
  index := ⟨r.schema, r.table, r.indexName, indexKind r, (r :: rows).filterMap keyColumn?⟩
  hasExpression := !hasColumns (r :: rows)

namespace PendingIndex

theorem accepts_iff {p : PendingIndex} {r : IndexRow} :
    p.accepts r = true ↔ indexKey r = (indexEntry p.index).1 := by
  simp only [accepts, indexKey, indexEntry, Bool.and_eq_true, beq_iff_eq, List.cons.injEq, and_true,
    and_assoc, @eq_comm _ p.index.schema, @eq_comm _ p.index.table, @eq_comm _ p.index.name]

/-- Several rows add the keys of those that have a column. -/
theorem foldl_add (p : PendingIndex) (rows : List IndexRow) :
    rows.foldl add p =
      { index := { p.index with columns := p.index.columns ++ rows.filterMap keyColumn? }
        hasExpression := p.hasExpression || !hasColumns rows } := by
  induction rows generalizing p with
  | nil => simp [hasColumns]
  | cons r rows ih =>
    rw [List.foldl_cons, ih, add]
    cases hr : r.column with
    | none => simp [keyColumn?, hasColumns, hr]
    | some column => simp [keyColumn?, hasColumns, hr]

/-- An index started with a row is the one that its rows describe. -/
theorem foldl_add_start (r : IndexRow) (rows : List IndexRow) :
    rows.foldl add (start r) = ofRun r rows := by
  rw [start, ← List.foldl_cons, foldl_add]
  rfl

/-- Rows leave an index without keys out only if one of them has no column. -/
theorem isSkipped_ofRun (r : IndexRow) (rows : List IndexRow) :
    ((ofRun r rows).hasExpression || (ofRun r rows).index.columns.isEmpty) =
      !hasColumns (r :: rows) := by
  cases hr : r.column with
  | none => simp [ofRun, hasColumns, hr]
  | some column => simp [ofRun, keyColumn?, hr]

end PendingIndex

namespace IndexStream

/-- Rows of the index being filled are added to it. -/
theorem foldl_accept_pending {s : IndexStream} {p : PendingIndex} (hp : s.pending = some p)
    (rows : List IndexRow) (hrows : ∀ r ∈ rows, indexKey r = (indexEntry p.index).1) :
    rows.foldl accept s = { s with pending := some (rows.foldl PendingIndex.add p) } := by
  induction rows generalizing s p with
  | nil => simp [← hp]
  | cons r rows ih =>
    have haccepts := PendingIndex.accepts_iff.mpr (hrows r List.mem_cons_self)
    have hsame : (indexEntry (p.add r).index).1 = (indexEntry p.index).1 := by
      unfold PendingIndex.add
      split <;> rfl
    rw [List.foldl_cons, List.foldl_cons, accept, hp, Option.filter_some, if_pos haccepts]
    exact ih (s := { s with pending := some (p.add r) }) rfl fun q hq =>
      (hrows q (List.mem_cons_of_mem r hq)).trans hsame.symm

/-- The rows of another index complete the one being filled and start theirs. -/
theorem foldl_accept_ofRun {s : IndexStream} {r : IndexRow} {rows : List IndexRow}
    (hs : ∀ p ∈ s.pending, (indexEntry p.index).1 ≠ indexKey r)
    (hrows : ∀ q ∈ rows, indexKey q = indexKey r) :
    (r :: rows).foldl accept s = { s.finish with pending := some (.ofRun r rows) } := by
  have hnone : s.pending.filter (·.accepts r) = none :=
    Option.filter_eq_none_iff.mpr fun p hp ha => hs p hp (PendingIndex.accepts_iff.mp ha).symm
  have hstart : (indexEntry (PendingIndex.start r).index).1 = indexKey r := by
    unfold PendingIndex.start PendingIndex.add
    split <;> rfl
  rw [List.foldl_cons, accept, hnone, foldl_accept_pending rfl rows fun q hq =>
    (hrows q hq).trans hstart.symm, PendingIndex.foldl_add_start]

/-- The objects of the reports on indexes with a key that is no column. -/
def expressionObjects (ds : List Diagnostic) : List String :=
  (ds.filter (·.kind = .expressionIndex)).map (·.object)

@[simp] theorem expressionObjects_append (ds more : List Diagnostic) :
    expressionObjects (ds ++ more) = expressionObjects ds ++ expressionObjects more := by
  simp [expressionObjects]

/-- What holds before any row and is kept by completing an index, whatever is being filled, holds
of a whole stream. -/
theorem ofRows_induction {P : IndexStream → Prop} (empty : P {})
    (pending : ∀ s p, P s → P { s with pending := p }) (close : ∀ s p, P s → P (s.close p))
    (rows : List IndexRow) : P (ofRows rows) := by
  have hfinish (s : IndexStream) (hs : P s) : P s.finish := by
    unfold finish
    split
    · exact pending _ _ (close _ _ hs)
    · exact hs
  refine hfinish _ (List.foldlRecOn rows _ empty fun s hs r _ => ?_)
  unfold accept
  split
  · exact pending _ _ hs
  · exact pending _ _ (hfinish s hs)

end IndexStream

end SchemaTransfer.Build
