import SchemaTransfer.Diagnostic
import SchemaTransfer.Source

/-!
# Gathering rows

A run asks a source all of its questions first. A question that fails in a way that can be
recovered from counts as answered with nothing and is reported; the first other failure ends the
run.
-/

namespace SchemaTransfer

/-- The answer to a question, with what is reported about it. -/
def recovered {α : Type} (nothing : α) (object : String) :
    Except Failure α → Except Failure (α × List Diagnostic)
  | .ok a => .ok (a, [])
  | .error e =>
    if e.isRecoverable then .ok (nothing, [⟨.catalogQueryFailure, object, e.message⟩])
    else .error e

theorem recovered_ok {α : Type} (nothing : α) (object : String) (a : α) :
    recovered nothing object (.ok a) = .ok (a, []) := rfl

/-- The rows of a source, with what sampling found and what was reported. -/
structure Gathered where
  rows : CatalogRows
  found : Cardinalities
  reported : List Diagnostic

/-- Findings for columns; of several for the same column the last counts. -/
def Cardinalities.ofList (findings : List (ColumnRef × Int64)) : Cardinalities :=
  findings.foldl (fun found f => found.record f.1 f.2) .empty

namespace Source

/-- Asks what sampling finds for each column that needs it. -/
def sampled (s : Source) (limit : Int64) :
    List ColumnRow → Except Failure (List (ColumnRef × Int64) × List Diagnostic)
  | [] => .ok ([], [])
  | r :: rows =>
    if r.needsSampling then do
      let (n, reported) ← recovered none r.ref.fullName (s.cardinality r.ref r.isBinary limit)
      let (findings, later) ← s.sampled limit rows
      return ((n.map fun n => (r.ref, n)).toList ++ findings, reported ++ later)
    else s.sampled limit rows

/-- Asks for the rows, then for what sampling finds in their columns. -/
def gather (s : Source) (limit : Int64) : Except Failure Gathered := do
  let (columns, r1) ← recovered [] "columns" s.columns
  let (userTypes, r2) ← recovered [] "user types" s.userTypes
  let (tableComments, r3) ← recovered [] "table comments" s.tableComments
  let (sequences, r4) ← recovered [] "sequences" s.sequences
  let (indexes, r5) ← recovered [] "indexes" s.indexes
  let (foreignKeys, r6) ← recovered [] "foreign keys" s.foreignKeys
  let (findings, r7) ← s.sampled limit columns
  return {
    rows := { columns, userTypes, tableComments, sequences, indexes, foreignKeys }
    found := .ofList findings
    reported := r1 ++ r2 ++ r3 ++ r4 ++ r5 ++ r6 ++ r7 }

end Source

end SchemaTransfer
