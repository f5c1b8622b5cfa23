import SchemaTransfer.Proofs.Build.Runs
import SchemaTransfer.Proofs.Build.Tables

/-!
# Tables from runs of column rows

Column rows may come in any order, repeat a name and be cut off in between: every run of rows of one
table becomes a table of its own, and a table that comes up again becomes another one. Main statement:
the closed tables and the open one are those of the runs, in their order, each with the first row of
every column name; and the columns and the reports on repeated names are together as many as the
rows.
-/

namespace SchemaTransfer.Build

/-- Whether two rows describe columns of the same table. -/
def sameTable (a b : ColumnRow) : Bool := tableKey a == tableKey b

/-- Whether two rows describe columns of the same name. -/
def sameColumn (a b : ColumnRow) : Bool := a.column == b.column

/-- A table is made of a run of rows: they name it, and it has the first row of every column name, in
their order. -/
structure IsTableOf (run : List ColumnRow) (t : Table) : Prop where
  names : ∀ r ∈ run, t.schema = r.schema ∧ t.name = r.table
  columns : t.columns = (run.eraseDupsBy sameColumn).map .ofRow
  comment : t.comment = none

/-! ## Rows by their names -/

/-- The rows whose names are not taken are the first ones of their names among those whose names are
not taken before. -/
theorem firstOfName_eq (taken : List String) (rows : List ColumnRow) :
    firstOfName taken rows = (rows.filter (·.column ∉ taken)).eraseDupsBy sameColumn := by
  induction rows generalizing taken with
  | nil => rfl
  | cons r rows ih =>
    by_cases hr : r.column ∈ taken
    · rw [firstOfName, if_pos hr, ih, List.filter_cons_of_neg (by simpa using hr)]
    · rw [firstOfName, if_neg hr, ih, List.filter_cons_of_pos (by simpa using hr),
        List.eraseDupsBy_cons, List.filter_filter]
      refine congrArg (fun rest => r :: List.eraseDupsBy sameColumn rest)
        (List.filter_congr fun q _ => ?_)
      rw [Bool.eq_iff_iff]
      simp [sameColumn, and_comm]

/-- Without names taken before these are the first rows of their names. -/
theorem firstOfName_nil (rows : List ColumnRow) :
    firstOfName [] rows = rows.eraseDupsBy sameColumn := by
  rw [firstOfName_eq, List.filter_eq_self.mpr (by simp)]

/-- The table that a run of rows describes. -/
def tableOfRun? : List ColumnRow → Option Table
  | [] => none
  | r :: rows => some ⟨r.schema, r.table, (firstOfName [] (r :: rows)).map .ofRow, none⟩

/-- Rows of one table are described by the table that is made of them. -/
theorem exists_isTableOf {run : List ColumnRow} (hrun : run ≠ [])
    (hsame : run.IsChain (sameTable · ·)) : ∃ t, tableOfRun? run = some t ∧ IsTableOf run t := by
  cases run with
  | nil => exact absurd rfl hrun
  | cons r rows =>
    refine ⟨_, rfl, ?_, by rw [firstOfName_nil], rfl⟩
    intro q hq
    have hkey := key_eq_of_isChain hsame q hq
    simpa [tableKey, eq_comm] using hkey

/-- Runs describe one table each, in their order. -/
theorem forall₂_isTableOf {runs : List (List ColumnRow)} (hne : [] ∉ runs)
    (hsame : ∀ run ∈ runs, run.IsChain (sameTable · ·)) :
    List.Forall₂ IsTableOf runs (runs.filterMap tableOfRun?) := by
  induction runs with
  | nil => exact .nil
  | cons run runs ih =>
    rw [List.mem_cons, not_or] at hne
    rw [List.forall_mem_cons] at hsame
    obtain ⟨t, ht, hdescribed⟩ := exists_isTableOf (Ne.symm hne.1) hsame.1
    rw [List.filterMap_cons_some ht]
    exact .cons hdescribed (ih hne.2 hsame.2)

/-- The columns of the tables of runs are the first rows of their names. -/
theorem flatMap_columns_filterMap (runs : List (List ColumnRow)) :
    (runs.filterMap tableOfRun?).flatMap (·.columns) =
      (runs.flatMap (firstOfName [])).map .ofRow := by
  induction runs with
  | nil => rfl
  | cons run runs ih =>
    cases run with
    | nil => exact ih
    | cons r rows =>
      have ht : tableOfRun? (r :: rows) =
          some ⟨r.schema, r.table, (firstOfName [] (r :: rows)).map .ofRow, none⟩ := rfl
      rw [List.filterMap_cons_some ht, List.flatMap_cons, List.flatMap_cons, ih, List.map_append]

/-- Where the rows of a run have one key, the table has it, with the first rows of their names. -/
theorem map_tableEntry_filterMap {groups : List (List String × List ColumnRow)}
    (hkey : ∀ g ∈ groups, ∀ r ∈ g.2, tableKey r = g.1) (hfull : ∀ g ∈ groups, g.2 ≠ []) :
    ((groups.map Prod.snd).filterMap tableOfRun?).map tableEntry =
      groups.map fun g => (g.1, (firstOfName [] g.2).map .ofRow) := by
  induction groups with
  | nil => rfl
  | cons g groups ih =>
    rw [List.forall_mem_cons] at hkey hfull
    obtain ⟨r, rows, hrun⟩ := List.exists_cons_of_ne_nil hfull.1
    have hnames : tableKey r = g.1 := hkey.1 r (hrun ▸ List.mem_cons_self)
    have htable : tableOfRun? g.2 =
        some ⟨r.schema, r.table, (firstOfName [] g.2).map .ofRow, none⟩ := by
      rw [hrun]
      rfl
    rw [List.map_cons, List.filterMap_cons_some htable, List.map_cons, ih hkey.2 hfull.2,
      List.map_cons, ← hnames]
    rfl

/-- Every row of runs is the first of its name in its run or repeats one. -/
theorem length_flatten_runs (runs : List (List ColumnRow)) :
    runs.flatten.length =
      (runs.flatMap (firstOfName [])).length + (runs.flatMap (laterOfName [])).length := by
  induction runs with
  | nil => rfl
  | cons run runs ih =>
    have hrun := (perm_firstOfName_laterOfName [] run).length_eq
    rw [List.length_append] at hrun
    simp only [List.flatten_cons, List.flatMap_cons, List.length_append, ih, ← hrun]
    omega

namespace TableStream

/-! ## Reading runs -/

/-- The stream while it reads a run. -/
def collect (s : TableStream) : List ColumnRow → TableStream
  | [] => s
  | r :: rows =>
    { s with
      schemas := noteSchema s.schemas r.schema
      current := tableOfRun? (r :: rows)
      diagnostics := s.diagnostics ++ (laterOfName [] (r :: rows)).map duplicate }

/-- The stream of column rows collects one run at a time. -/
theorem collectsRuns : CollectsRuns accept flush sameTable (·.current = none) collect where
  finish_of_idle {s} hs := by
    rw [flush, hs, Option.toList_none, List.append_nil, ← hs]
  foldl_accept {s run} hs hrun hsame := by
    cases run with
    | nil => exact absurd rfl hrun
    | cons r rows =>
      have hrows := (List.forall_mem_cons.mp (key_eq_of_isChain hsame)).2
      have hopen : s.openFor? r = none := openFor?_eq_none (by simp [hs])
      rw [List.foldl_cons, accept, hopen]
      dsimp only
      rw [foldl_accept_open (t := ⟨r.schema, r.table, [Column.ofRow r], none⟩) rfl rows hrows]
      have hnames : Table.columnNames ⟨r.schema, r.table, [Column.ofRow r], none⟩ = [r.column] :=
        rfl
      simp [collect, tableOfRun?, flush, hs, firstOfName, laterOfName, hnames]
  accept_of_other {s run r} hs hrun hsame hother := by
    cases run with
    | nil => exact absurd rfl hrun
    | cons q rows =>
      have hkey : tableKey ((q :: rows).getLast hrun) = tableKey q :=
        key_eq_of_isChain hsame _ (List.getLast_mem hrun)
      have hopen : (s.collect (q :: rows)).openFor? r = none := by
        refine openFor?_eq_none fun t ht => ?_
        obtain rfl := Option.some.inj ht
        exact fun he => ne_of_beq_false hother (hkey.trans he)
      have hclosed : (s.collect (q :: rows)).flush.openFor? r = none :=
        openFor?_eq_none (by simp [flush])
      rw [accept, accept, hopen, hclosed]
      simp [flush]
  idle_finish {s run} hs hrun := rfl

/-- Runs add their tables and the reports on the names that they repeat. -/
theorem foldl_complete (s : TableStream) {runs : List (List ColumnRow)} (hne : [] ∉ runs)
    (hs : s.current = none) :
    (runs.foldl (complete flush collect) s).closed = s.closed ++ runs.filterMap tableOfRun? ∧
      (runs.foldl (complete flush collect) s).diagnostics =
        s.diagnostics ++ (runs.flatMap (laterOfName [])).map duplicate := by
  induction runs generalizing s with
  | nil => simp
  | cons run runs ih =>
    rw [List.mem_cons, not_or] at hne
    cases run with
    | nil => exact absurd rfl hne.1
    | cons r rows =>
      obtain ⟨hclosed, hdiagnostics⟩ := ih (complete flush collect s (r :: rows)) hne.2 rfl
      rw [List.foldl_cons, hclosed, hdiagnostics]
      simp [complete, collect, flush, tableOfRun?]

/-- What a stream leaves, by its runs. -/
theorem foldl_handle_eq (events : List (Option ColumnRow)) :
    (events.foldl (handle accept flush) {}).closed =
        (closedRuns sameTable events).filterMap tableOfRun? ∧
      (events.foldl (handle accept flush) {}).current =
        (openRun? sameTable events).bind tableOfRun? ∧
      (events.foldl (handle accept flush) {}).diagnostics =
        ((runsOf sameTable events).flatMap (laterOfName [])).map duplicate := by
  have hidle : ({} : TableStream).current = none := rfl
  have hne := nil_notMem_closedRuns sameTable events
  obtain ⟨hclosed, hdiagnostics⟩ := foldl_complete {} hne hidle
  rw [List.nil_append] at hclosed hdiagnostics
  rw [collectsRuns.foldl_handle hidle, ← closedRuns_append_openRun? sameTable events]
  cases hopen : openRun? sameTable events with
  | none =>
    refine ⟨hclosed, collectsRuns.idle_foldl hidle hne, ?_⟩
    rw [Option.toList_none, List.append_nil]
    exact hdiagnostics
  | some run =>
    cases run with
    | nil =>
      refine absurd ?_ (nil_notMem_runsOf sameTable events)
      rw [← closedRuns_append_openRun? sameTable events, hopen]
      exact List.mem_append_right _ (List.mem_singleton_self _)
    | cons r rows =>
      refine ⟨hclosed, rfl, ?_⟩
      rw [Option.toList_some, List.flatMap_append, List.flatMap_singleton, List.map_append,
        ← hdiagnostics]
      rfl

/-- The columns of the tables of a stream, closed or open, are the first rows of their names in its
runs. -/
theorem flatMap_columns_tables (events : List (Option ColumnRow)) :
    (events.foldl (handle accept flush) {}).tables.flatMap (·.columns) =
      ((runsOf sameTable events).flatMap (firstOfName [])).map .ofRow := by
  obtain ⟨hclosed, hcurrent, _⟩ := foldl_handle_eq events
  rw [tables, hclosed, hcurrent, ← flatMap_columns_filterMap,
    ← closedRuns_append_openRun? sameTable events, List.filterMap_append]
  cases openRun? sameTable events with
  | none => rfl
  | some run => cases h : tableOfRun? run <;> simp [h]

/-- Reports on repeated names are counted one by one. -/
theorem count_map_duplicate (rows : List ColumnRow) :
    Diagnostic.count .duplicateColumn (rows.map duplicate) = rows.length := by
  rw [Diagnostic.count, List.filter_eq_self.mpr, List.length_map]
  rw [List.forall_mem_map]
  exact fun _ _ => rfl

/-- The tables and the reports of a stream are those of the runs that it handed over, and none of its
rows is lost or counted twice. -/
structure AccountsFor (s : TableStream) (events : List (Option ColumnRow)) : Prop where
  /-- One table is closed for each complete run. -/
  closed : List.Forall₂ IsTableOf (closedRuns sameTable events) s.closed
  /-- A table is open for the run that may still go on. -/
  current : Option.Rel IsTableOf (openRun? sameTable events) s.current
  /-- The rows that repeat a name of their run are reported. -/
  diagnostics :
    s.diagnostics = ((runsOf sameTable events).flatMap (laterOfName [])).map duplicate
  /-- Every row is a column of a closed table, a column of the open one, or a report. -/
  balance : events.reduceOption.length =
    (s.closed.flatMap (·.columns)).length + (s.current.toList.flatMap (·.columns)).length +
      Diagnostic.count .duplicateColumn s.diagnostics

/-- A stream with an end anywhere in between accounts for what it handed over, and an end with no
open table changes nothing. -/
theorem accountsFor_foldl_handle :
    (∀ events : List (Option ColumnRow),
        (events.foldl (handle accept flush) {}).AccountsFor events) ∧
      ∀ s : TableStream, { s with current := none }.flush = { s with current := none } := by
  refine ⟨fun events => ?_, fun s => collectsRuns.finish_of_idle rfl⟩
  obtain ⟨hclosed, hcurrent, hdiagnostics⟩ := foldl_handle_eq events
  have hruns := closedRuns_append_openRun? sameTable events
  have hsame (run : List ColumnRow) (hrun : run ∈ runsOf sameTable events) :
      run.IsChain (sameTable · ·) := isChain_of_mem_runsOf sameTable hrun
  refine ⟨?_, ?_, hdiagnostics, ?_⟩
  · rw [hclosed]
    exact forall₂_isTableOf (nil_notMem_closedRuns sameTable events) fun run hrun =>
      hsame run (hruns ▸ List.mem_append_left _ hrun)
  · rw [hcurrent]
    cases hopen : openRun? sameTable events with
    | none => exact .none
    | some run =>
      have hrun : run ∈ runsOf sameTable events := by
        rw [← hruns, hopen]
        exact List.mem_append_right _ (List.mem_singleton_self _)
      obtain ⟨t, ht, hdescribed⟩ := exists_isTableOf
        (fun hnil => nil_notMem_runsOf sameTable events (hnil ▸ hrun)) (hsame run hrun)
      rw [Option.bind_some, ht]
      exact .some hdescribed
  · rw [← List.length_append, ← List.flatMap_append]
    change _ = ((events.foldl (handle accept flush) {}).tables.flatMap (·.columns)).length + _
    rw [flatMap_columns_tables, hdiagnostics, count_map_duplicate, List.length_map,
      ← length_flatten_runs, flatten_runsOf]

/-! ## Groups of rows -/

/-- Groups of rows, each of a table of its own, become one table each. -/
theorem ofRows_flatMap {groups : List (List String × List ColumnRow)}
    (hkey : ∀ g ∈ groups, ∀ r ∈ g.2, tableKey r = g.1) (hfull : ∀ g ∈ groups, g.2 ≠ [])
    (hne : groups.Pairwise fun g h => g.1 ≠ h.1) :
    (ofRows (groups.flatMap Prod.snd)).closed.map tableEntry =
        groups.map (fun g => (g.1, (firstOfName [] g.2).map .ofRow)) ∧
      (ofRows (groups.flatMap Prod.snd)).diagnostics =
        groups.flatMap fun g => (laterOfName [] g.2).map duplicate := by
  have hruns : (groups.flatMap Prod.snd).splitBy sameTable = groups.map Prod.snd :=
    splitBy_flatMap hkey hfull hne
  have hnil : [] ∉ groups.map Prod.snd := hruns ▸ List.nil_notMem_splitBy sameTable _
  obtain ⟨hclosed, hdiagnostics⟩ := foldl_complete {} hnil rfl
  rw [ofRows, collectsRuns.finish_foldl rfl, hruns, hclosed, hdiagnostics, List.nil_append,
    List.nil_append, List.flatMap_map, List.map_flatMap]
  exact ⟨map_tableEntry_filterMap hkey hfull, rfl⟩

end TableStream

end SchemaTransfer.Build
