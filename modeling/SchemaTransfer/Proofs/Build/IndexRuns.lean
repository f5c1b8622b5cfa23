import SchemaTransfer.Proofs.Build.Indexes
import SchemaTransfer.Proofs.Build.Runs

/-!
# Indexes from runs of index rows

The rows of an index need not come together: a stream in any order makes one index of every run of
rows that name the same index. What becomes of a run is said here by the run as a whole and the
indexes before it. Main statement: the stream of index rows, with an end anywhere in between, leaves
the indexes and the reports that its runs have in their order.
-/

namespace SchemaTransfer.Build

/-- Whether two rows name the same index. -/
def sameIndex (a b : IndexRow) : Bool := indexKey a == indexKey b

/-! ## What becomes of a run -/

/-- The keys of a run: its columns, descending where the lowest bit of the option is set. -/
def keysOf (run : List IndexRow) : List IndexColumn :=
  run.filterMap fun r => r.column.map fun c =>
    ⟨c, if r.options.toBitVec[0] then .desc else .asc⟩

/-- What becomes of a run that describes an index. -/
inductive RunOutcome where
  /-- The index, as it is described. -/
  | converted (x : Index)
  /-- A unique constraint in place of a second primary key. -/
  | demoted (x : Index)
  /-- No index, for want of a column. -/
  | leftOut (x : Index)

namespace RunOutcome

/-- The index of a run. -/
def index? : RunOutcome → Option Index
  | converted x => some x
  | demoted x => some { x with kind := .unique }
  | leftOut _ => none

/-- What is said about a run. -/
def report? : RunOutcome → Option Diagnostic
  | converted _ => none
  | demoted x => some (IndexStream.extraPrimaryKey x)
  | leftOut x => some (IndexStream.expressionIndex x)

end RunOutcome

/-- Whether the table of an index has its primary key among other indexes. -/
def hasPrimaryKey (before : List Index) (x : Index) : Bool :=
  before.any fun y => y.kind = .primaryKey ∧ y.schema = x.schema ∧ y.table = x.table

/-- What becomes of a run after the indexes before it. Its first row decides on the kind. -/
def outcome (before : List Index) (r : IndexRow) (rows : List IndexRow) : RunOutcome :=
  let x : Index := ⟨r.schema, r.table, r.indexName, indexKind r, keysOf (r :: rows)⟩
  if (r :: rows).any (·.column.isNone) then .leftOut x
  else if x.kind = .primaryKey ∧ hasPrimaryKey before x then .demoted x
  else .converted x

/-- What becomes of runs that follow each other. -/
def outcomes (before : List Index) : List (List IndexRow) → List RunOutcome
  | [] => []
  | [] :: runs => outcomes before runs
  | (r :: rows) :: runs =>
    let o := outcome before r rows
    o :: outcomes (before ++ o.index?.toList) runs

/-- What is kept of a first element comes first. -/
theorem filterMap_cons_eq_append {α β : Type} (f : α → Option β) (a : α) (as : List α) :
    (a :: as).filterMap f = (f a).toList ++ as.filterMap f := by
  cases h : f a with
  | none => rw [List.filterMap_cons_none h, Option.toList_none, List.nil_append]
  | some b => rw [List.filterMap_cons_some h, Option.toList_some, List.singleton_append]

/-- Every run has its outcome. -/
theorem length_outcomes (before : List Index) {runs : List (List IndexRow)} (hne : [] ∉ runs) :
    (outcomes before runs).length = runs.length := by
  induction runs generalizing before with
  | nil => rfl
  | cons run runs ih =>
    rw [List.mem_cons, not_or] at hne
    cases run with
    | nil => exact absurd rfl hne.1
    | cons r rows => rw [outcomes, List.length_cons, ih _ hne.2, List.length_cons]

/-- Every outcome is an index or a report on a key that is no column. -/
theorem length_outcomes_eq (os : List RunOutcome) :
    os.length = (os.filterMap RunOutcome.index?).length +
      Diagnostic.count .expressionIndex (os.filterMap RunOutcome.report?) := by
  induction os with
  | nil => rfl
  | cons o os ih =>
    rw [List.length_cons, ih, filterMap_cons_eq_append, filterMap_cons_eq_append]
    unfold Diagnostic.count
    cases o with
    | converted x => simp [RunOutcome.index?, RunOutcome.report?]; omega
    | demoted x =>
      simp [RunOutcome.index?, RunOutcome.report?, IndexStream.extraPrimaryKey]
      omega
    | leftOut x =>
      simp [RunOutcome.index?, RunOutcome.report?, IndexStream.expressionIndex]
      omega

/-- A key is descending exactly if the lowest bit of its option is set. -/
theorem ofOption_eq_ite (option : Int32) :
    SortDirection.ofOption option = if option.toBitVec[0] then .desc else .asc := by
  have hand : option.toBitVec &&& 1#32 = (BitVec.ofBool option.toBitVec[0]).setWidth 32 :=
    BitVec.and_one_eq_setWidth_ofBool_getLsbD
  have hone : option &&& 1 = 1 ↔ option.toBitVec[0] = true := by
    rw [← Int32.toBitVec_inj, Int32.toBitVec_and, Int32.toBitVec_one, hand]
    cases option.toBitVec[0] <;> decide
  exact if_congr hone rfl rfl

/-- The keys of a run are those that its rows add. -/
theorem keysOf_eq (run : List IndexRow) : keysOf run = run.filterMap keyColumn? := by
  simp only [keysOf, ← ofOption_eq_ite]
  rfl

/-- What becomes of a run is decided by the index that it describes. -/
theorem outcome_eq (before : List Index) (r : IndexRow) (rows : List IndexRow) :
    outcome before r rows =
      if !hasColumns (r :: rows) then .leftOut (PendingIndex.ofRun r rows).index
      else if (PendingIndex.ofRun r rows).index.kind = .primaryKey ∧
        hasPrimaryKey before (PendingIndex.ofRun r rows).index then
        .demoted (PendingIndex.ofRun r rows).index
      else .converted (PendingIndex.ofRun r rows).index := by
  have hcolumns : (r :: rows).any (·.column.isNone) = !hasColumns (r :: rows) := by
    simp [hasColumns, List.not_all_eq_any_not]
  rw [outcome, hcolumns, keysOf_eq]
  rfl

/-- One more index may be the primary key of its table. -/
theorem hasPrimaryKey_concat (before : List Index) (y x : Index) :
    hasPrimaryKey (before ++ [y]) x = (hasPrimaryKey before x ||
      decide (y.kind = .primaryKey ∧ y.schema = x.schema ∧ y.table = x.table)) := by
  simp [hasPrimaryKey]

/-- The index that a run describes. -/
def PendingIndex.ofRun? : List IndexRow → Option PendingIndex
  | [] => none
  | r :: rows => some (.ofRun r rows)

namespace IndexStream

/-! ## Reading runs -/

/-- The stream while it reads a run. -/
def collect (s : IndexStream) (run : List IndexRow) : IndexStream :=
  { s with pending := PendingIndex.ofRun? run }

/-- The stream of index rows collects one run at a time. -/
theorem collectsRuns : CollectsRuns accept finish sameIndex (·.pending = none) collect where
  finish_of_idle {s} hs := by rw [finish, hs]
  foldl_accept {s run} hs hrun hsame := by
    cases run with
    | nil => exact absurd rfl hrun
    | cons r rows =>
      rw [foldl_accept_ofRun (by simp [hs]) (List.forall_mem_cons.mp (key_eq_of_isChain hsame)).2,
        finish, hs]
      rfl
  accept_of_other {s run r} hs hrun hsame hother := by
    cases run with
    | nil => exact absurd rfl hrun
    | cons q rows =>
      have hkey : indexKey ((q :: rows).getLast hrun) = indexKey q :=
        key_eq_of_isChain hsame _ (List.getLast_mem hrun)
      have hnone : (s.collect (q :: rows)).pending.filter (·.accepts r) = none := by
        refine Option.filter_eq_none_iff.mpr fun p hp haccepts => ?_
        obtain rfl := Option.some.inj hp
        rw [PendingIndex.accepts_iff] at haccepts
        exact ne_of_beq_false hother (hkey.trans haccepts.symm)
      rw [accept, hnone]
      rfl
  idle_finish {s run} hs hrun := by
    cases run with
    | nil => exact absurd rfl hrun
    | cons r rows => rfl

/-- The tables with a primary key are those of the indexes read so far. -/
def KnowsPrimaryKeys (s : IndexStream) : Prop :=
  ∀ x : Index, (x.schema, x.table) ∈ s.primaryKeys ↔ hasPrimaryKey s.indexes x

/-- Completing a run adds what becomes of it. -/
theorem complete_cons {s : IndexStream} (hs : s.KnowsPrimaryKeys) (r : IndexRow)
    (rows : List IndexRow) :
    (complete finish collect s (r :: rows)).indexes =
        s.indexes ++ (outcome s.indexes r rows).index?.toList ∧
      (complete finish collect s (r :: rows)).diagnostics =
        s.diagnostics ++ (outcome s.indexes r rows).report?.toList ∧
      (complete finish collect s (r :: rows)).KnowsPrimaryKeys := by
  have hclose : complete finish collect s (r :: rows) =
      { (s.collect (r :: rows)).close (.ofRun r rows) with pending := none } := rfl
  rw [hclose, outcome_eq, close, PendingIndex.isSkipped_ofRun]
  generalize (PendingIndex.ofRun r rows).index = x
  cases hcolumns : hasColumns (r :: rows) with
  | false => exact ⟨(List.append_nil _).symm, rfl, hs⟩
  | true =>
    by_cases hprimary : x.kind = .primaryKey
    · by_cases hsecond : hasPrimaryKey s.indexes x = true
      · have hmem : (x.schema, x.table) ∈ (s.collect (r :: rows)).primaryKeys := (hs x).mpr hsecond
        simp only [hprimary, hsecond, hmem]
        exact ⟨rfl, rfl, fun y => (hs y).trans (by simp [collect, hasPrimaryKey_concat])⟩
      · have hmem : (x.schema, x.table) ∉ (s.collect (r :: rows)).primaryKeys :=
          mt (hs x).mp hsecond
        simp only [hprimary, hsecond, hmem]
        refine ⟨rfl, (List.append_nil _).symm, fun y => ?_⟩
        change (y.schema, y.table) ∈ (x.schema, x.table) :: s.primaryKeys ↔
          hasPrimaryKey (s.indexes ++ [x]) y = true
        rw [List.mem_cons, hs y, hasPrimaryKey_concat, Bool.or_eq_true, or_comm]
        simp [hprimary, @eq_comm _ y.schema, @eq_comm _ y.table]
    · simp only [hprimary]
      exact ⟨rfl, (List.append_nil _).symm, fun y =>
        (hs y).trans (by simp [collect, hasPrimaryKey_concat, hprimary])⟩

/-- Completing runs adds what becomes of them. -/
theorem foldl_complete {s : IndexStream} (hs : s.KnowsPrimaryKeys)
    {runs : List (List IndexRow)} (hne : [] ∉ runs) :
    (runs.foldl (complete finish collect) s).indexes =
        s.indexes ++ (outcomes s.indexes runs).filterMap RunOutcome.index? ∧
      (runs.foldl (complete finish collect) s).diagnostics =
        s.diagnostics ++ (outcomes s.indexes runs).filterMap RunOutcome.report? := by
  induction runs generalizing s with
  | nil => simp [outcomes]
  | cons run runs ih =>
    rw [List.mem_cons, not_or] at hne
    cases run with
    | nil => exact absurd rfl hne.1
    | cons r rows =>
      obtain ⟨hindexes, hdiagnostics, hknown⟩ := complete_cons hs r rows
      obtain ⟨hlaterIndexes, hlaterDiagnostics⟩ := ih hknown hne.2
      rw [List.foldl_cons, hlaterIndexes, hlaterDiagnostics, hindexes, hdiagnostics, outcomes]
      simp only [filterMap_cons_eq_append, List.append_assoc, and_self]

/-- The indexes and the reports of a stream are those of runs. -/
structure Groups (s : IndexStream) (runs : List (List IndexRow)) : Prop where
  indexes : s.indexes = (outcomes [] runs).filterMap RunOutcome.index?
  diagnostics : s.diagnostics = (outcomes [] runs).filterMap RunOutcome.report?
  balance : runs.length = s.indexes.length + Diagnostic.count .expressionIndex s.diagnostics

/-- Completing runs from the start leaves theirs. -/
theorem groups_foldl_complete {runs : List (List IndexRow)} (hne : [] ∉ runs) :
    (runs.foldl (complete finish collect) {}).Groups runs := by
  have hknown : KnowsPrimaryKeys {} := fun x => by simp [hasPrimaryKey]
  obtain ⟨hindexes, hdiagnostics⟩ := foldl_complete hknown hne
  rw [List.nil_append] at hindexes hdiagnostics
  refine ⟨hindexes, hdiagnostics, ?_⟩
  rw [hindexes, hdiagnostics, ← length_outcomes_eq, length_outcomes [] hne]

/-- What is done with rows in any order is what is done with their runs. -/
theorem groups_ofRows (rows : List IndexRow) : (ofRows rows).Groups (rows.splitBy sameIndex) := by
  rw [ofRows, collectsRuns.finish_foldl rfl]
  exact groups_foldl_complete (List.nil_notMem_splitBy sameIndex rows)

/-- Rows in any order leave the indexes and the reports of their runs, an end of the stream in
between cuts runs, and a run that may still go on leaves nothing yet. -/
theorem groups_runs :
    (∀ rows, (ofRows rows).Groups (rows.splitBy sameIndex)) ∧
      ∀ events : List (Option IndexRow), let s := events.foldl (handle accept finish) {}
        s.Groups (closedRuns sameIndex events) ∧
          s.pending = (openRun? sameIndex events).bind PendingIndex.ofRun? ∧
          s.finish.Groups (runsOf sameIndex events) ∧ s.finish.pending = none := by
  have hidle : ({} : IndexStream).pending = none := rfl
  refine ⟨groups_ofRows, fun events => ⟨?_, ?_, ?_, ?_⟩⟩
  · rw [collectsRuns.foldl_handle hidle]
    have hclosed := groups_foldl_complete (nil_notMem_closedRuns sameIndex events)
    cases openRun? sameIndex events with
    | none => exact hclosed
    | some run => exact ⟨hclosed.indexes, hclosed.diagnostics, hclosed.balance⟩
  · rw [collectsRuns.foldl_handle hidle]
    cases openRun? sameIndex events with
    | none => exact collectsRuns.idle_foldl hidle (nil_notMem_closedRuns _ events)
    | some run => rfl
  · rw [collectsRuns.finish_foldl_handle hidle]
    exact groups_foldl_complete (nil_notMem_runsOf _ events)
  · rw [collectsRuns.finish_foldl_handle hidle]
    exact collectsRuns.idle_foldl hidle (nil_notMem_runsOf _ events)

/-- The reports of the stream are on keys that are no columns and on second primary keys. -/
theorem kind_of_mem_diagnostics {rows : List IndexRow} {d : Diagnostic}
    (hd : d ∈ (ofRows rows).diagnostics) :
    d.kind = .expressionIndex ∨ d.kind = .extraPrimaryKey := by
  rw [(groups_ofRows rows).diagnostics] at hd
  obtain ⟨o, _, ho⟩ := List.mem_filterMap.mp hd
  cases o with
  | converted x => cases ho
  | demoted x =>
    cases ho
    exact Or.inr rfl
  | leftOut x =>
    cases ho
    exact Or.inl rfl

/-! ## Groups of rows -/

/-- A run whose rows have columns becomes an index with these as keys; any other leaves a report. -/
theorem entries_outcome (before : List Index) (r : IndexRow) (rows : List IndexRow) :
    (outcome before r rows).index?.toList.map indexEntry =
        (if hasColumns (r :: rows) then [(indexKey r, (r :: rows).filterMap keyColumn?)] else []) ∧
      expressionObjects (outcome before r rows).report?.toList =
        (if hasColumns (r :: rows) then [] else [".".intercalate (indexKey r)]) := by
  rw [outcome_eq]
  cases hasColumns (r :: rows) with
  | false => exact ⟨rfl, rfl⟩
  | true =>
    simp only [Bool.not_true, Bool.false_eq_true, if_false, if_true]
    split
    · exact ⟨rfl, rfl⟩
    · exact ⟨rfl, rfl⟩

/-- Runs become one index each or leave one report. -/
theorem entries_outcomes (before : List Index) {groups : List (List String × List IndexRow)}
    (hkey : ∀ g ∈ groups, ∀ r ∈ g.2, indexKey r = g.1) (hfull : ∀ g ∈ groups, g.2 ≠ []) :
    ((outcomes before (groups.map Prod.snd)).filterMap RunOutcome.index?).map indexEntry =
        (groups.filter fun g => hasColumns g.2).map (fun g => (g.1, g.2.filterMap keyColumn?)) ∧
      expressionObjects
          ((outcomes before (groups.map Prod.snd)).filterMap RunOutcome.report?) =
        (groups.filter fun g => !hasColumns g.2).map fun g => ".".intercalate g.1 := by
  induction groups generalizing before with
  | nil => exact ⟨rfl, rfl⟩
  | cons g groups ih =>
    rw [List.forall_mem_cons] at hkey hfull
    obtain ⟨r, rows, hrun⟩ := List.exists_cons_of_ne_nil hfull.1
    have hnames : indexKey r = g.1 := hkey.1 r (hrun ▸ List.mem_cons_self)
    obtain ⟨hentry, hobject⟩ := entries_outcome before r rows
    rw [← hrun, hnames] at hentry hobject
    obtain ⟨hlater, hlaterReported⟩ :=
      ih (before ++ (outcome before r rows).index?.toList) hkey.2 hfull.2
    rw [List.map_cons, hrun, outcomes]
    simp only [filterMap_cons_eq_append, List.map_append, expressionObjects_append]
    rw [hentry, hobject, hlater, hlaterReported]
    cases hcolumns : hasColumns g.2 with
    | true => simp [hcolumns]
    | false => simp [hcolumns]

/-- Groups of rows, each of an index of its own, become one index each or leave one report. -/
theorem ofRows_flatMap {groups : List (List String × List IndexRow)}
    (hkey : ∀ g ∈ groups, ∀ r ∈ g.2, indexKey r = g.1) (hfull : ∀ g ∈ groups, g.2 ≠ [])
    (hne : groups.Pairwise fun g h => g.1 ≠ h.1) :
    (ofRows (groups.flatMap Prod.snd)).indexes.map indexEntry =
        (groups.filter fun g => hasColumns g.2).map (fun g => (g.1, g.2.filterMap keyColumn?)) ∧
      expressionObjects (ofRows (groups.flatMap Prod.snd)).diagnostics =
        (groups.filter fun g => !hasColumns g.2).map fun g => ".".intercalate g.1 := by
  obtain ⟨hindexes, hdiagnostics, _⟩ := groups_ofRows (groups.flatMap Prod.snd)
  have hruns : (groups.flatMap Prod.snd).splitBy sameIndex = groups.map Prod.snd :=
    splitBy_flatMap hkey hfull hne
  rw [hindexes, hdiagnostics, hruns]
  exact entries_outcomes [] hkey hfull

end IndexStream

end SchemaTransfer.Build
