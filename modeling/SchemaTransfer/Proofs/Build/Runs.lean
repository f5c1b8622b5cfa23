import Mathlib.Data.List.Basic
import Mathlib.Data.List.ReduceOption
import Mathlib.Data.List.SplitBy

/-!
# Runs of rows in a stream

A stream hands over rows one by one and can be brought to an end in between, after which it goes on.
Its runs are the longest stretches of rows without an end in which neighbours belong together. A
reader that collects the rows of one run at a time sees them one after the other: main statement,
what is done with a stream is what is done with its runs.
-/

namespace SchemaTransfer.Build

variable {α σ : Type}

/-- The runs of a stream of rows; an end of the stream in between is marked by `none`. -/
def runsOf (same : α → α → Bool) (events : List (Option α)) : List (List α) :=
  (events.splitOnP Option.isNone).flatMap fun stretch => stretch.reduceOption.splitBy same

/-- Whether the last thing that a stream handed over is a row. -/
def endsInRow (events : List (Option α)) : Bool := events.getLast?.join.isSome

/-- The runs that are known to be complete: after a row the last run may still go on. -/
def closedRuns (same : α → α → Bool) (events : List (Option α)) : List (List α) :=
  if endsInRow events then (runsOf same events).dropLast else runsOf same events

/-- The run that may still go on. -/
def openRun? (same : α → α → Bool) (events : List (Option α)) : Option (List α) :=
  if endsInRow events then (runsOf same events).getLast? else none

/-- What a reader does with the next thing that a stream hands over. -/
def handle (accept : σ → α → σ) (finish : σ → σ) (s : σ) : Option α → σ
  | some r => accept s r
  | none => finish s

/-- Collects the rows of a run and finishes it. -/
def complete (finish : σ → σ) (collect : σ → List α → σ) (s : σ) (run : List α) : σ :=
  finish (collect s run)

/-- Whole runs, and then the one that is still open. -/
def readRuns (finish : σ → σ) (collect : σ → List α → σ) (s : σ) (runs : List (List α))
    (last? : Option (List α)) : σ :=
  let s := runs.foldl (complete finish collect) s
  last?.elim s (collect s)

/-! ## Runs -/

section Runs

variable (same : α → α → Bool) (front : List (Option α)) (rows : List α)

/-- The complete runs and the open one are all. -/
theorem closedRuns_append_openRun? (events : List (Option α)) :
    closedRuns same events ++ (openRun? same events).toList = runsOf same events := by
  unfold closedRuns openRun?
  split
  · cases h : (runsOf same events).getLast? with
    | none => simp [List.getLast?_eq_none_iff.mp h]
    | some run => exact List.dropLast_append_getLast? run h
  · exact List.append_nil _

/-- No run is empty. -/
theorem nil_notMem_runsOf (events : List (Option α)) : [] ∉ runsOf same events := by
  rw [runsOf, List.mem_flatMap]
  exact fun ⟨_, _, h⟩ => List.nil_notMem_splitBy same _ h

theorem nil_notMem_closedRuns (events : List (Option α)) : [] ∉ closedRuns same events :=
  fun h => nil_notMem_runsOf same events
    (closedRuns_append_openRun? same events ▸ List.mem_append_left _ h)

/-- Within a run neighbours belong together. -/
theorem isChain_of_mem_runsOf {events : List (Option α)} {run : List α}
    (h : run ∈ runsOf same events) : run.IsChain (same · ·) := by
  rw [runsOf, List.mem_flatMap] at h
  obtain ⟨_, _, hrun⟩ := h
  exact List.isChain_of_mem_splitBy hrun

/-- Without an end in between the runs are those of the rows. -/
@[simp] theorem runsOf_map_some : runsOf same (rows.map some) = rows.splitBy same := by
  have hrows : (rows.map some).reduceOption = rows := by
    simp [List.reduceOption]
  rw [runsOf, List.splitOnP_eq_singleton (by simp), List.flatMap_singleton, hrows]

/-- An end separates runs. -/
@[simp] theorem runsOf_append_none_cons (back : List (Option α)) :
    runsOf same (front ++ none :: back) = runsOf same front ++ runsOf same back := by
  rw [runsOf, List.splitOnP_append_cons _ _ (by rfl), List.flatMap_append, runsOf, runsOf]

/-- The runs hold all rows of a stream, in their order. -/
theorem flatten_runsOf (events : List (Option α)) :
    (runsOf same events).flatten = events.reduceOption := by
  -- The rows after the last end are looked at together.
  have hrows (rows : List α) :
      (runsOf same (events ++ rows.map some)).flatten = events.reduceOption ++ rows := by
    induction events using List.reverseRecOn generalizing rows with
    | nil => simp
    | append_singleton events e ih =>
      cases e with
      | some r => simpa [List.reduceOption_append] using ih (r :: rows)
      | none =>
        have hfront := ih []
        rw [List.map_nil, List.append_nil, List.append_nil] at hfront
        rw [← List.append_cons, runsOf_append_none_cons, List.flatten_append, hfront]
        simp [List.reduceOption_append]
  simpa using hrows []

example : runsOf (· == ·) [some 1, some 1, none, some 1, some 2, some 1] =
    [[1, 1], [1], [2], [1]] := by decide

@[simp] theorem endsInRow_append_map_some {rows : List α} (h : rows ≠ []) :
    endsInRow (front ++ rows.map some) = true := by
  obtain ⟨rows, r, rfl⟩ := (List.eq_nil_or_concat rows).resolve_left h
  simp [endsInRow]

/-- Rows at the end leave their last run open. -/
@[simp] theorem closedRuns_map_some :
    closedRuns same (rows.map some) = (rows.splitBy same).dropLast := by
  rcases eq_or_ne rows [] with rfl | h
  · rfl
  · rw [closedRuns, if_pos (by simpa using endsInRow_append_map_some [] h), runsOf_map_some]

@[simp] theorem openRun?_map_some :
    openRun? same (rows.map some) = (rows.splitBy same).getLast? := by
  rcases eq_or_ne rows [] with rfl | h
  · rfl
  · rw [openRun?, if_pos (by simpa using endsInRow_append_map_some [] h), runsOf_map_some]

/-- All runs before an end are complete. -/
@[simp] theorem closedRuns_append_none_cons :
    closedRuns same (front ++ none :: rows.map some) =
      runsOf same front ++ (rows.splitBy same).dropLast := by
  rw [closedRuns, runsOf_append_none_cons, runsOf_map_some]
  rcases eq_or_ne rows [] with rfl | h
  · simp [endsInRow]
  · rw [if_pos (List.append_cons front none _ ▸ endsInRow_append_map_some _ h),
      List.dropLast_append_of_ne_nil (List.splitBy_ne_nil.mpr h)]

@[simp] theorem openRun?_append_none_cons :
    openRun? same (front ++ none :: rows.map some) = (rows.splitBy same).getLast? := by
  rw [openRun?, runsOf_append_none_cons, runsOf_map_some]
  rcases eq_or_ne rows [] with rfl | h
  · simp [endsInRow]
  · rw [if_pos (List.append_cons front none _ ▸ endsInRow_append_map_some _ h),
      List.getLast?_append_of_ne_nil _ (List.splitBy_ne_nil.mpr h)]

end Runs

/-! ## Runs of equal keys -/

section Keys

variable {κ : Type} [BEq κ] [LawfulBEq κ] {key : α → κ}

/-- Where neighbours have the same key, all rows have the key of the first. -/
theorem key_eq_of_isChain {r : α} {rows : List α}
    (h : (r :: rows).IsChain fun a b => (key a == key b) = true) :
    ∀ q ∈ r :: rows, key q = key r := by
  induction rows generalizing r with
  | nil => simp
  | cons q rows ih =>
    rw [List.isChain_cons_cons, beq_iff_eq] at h
    rw [List.forall_mem_cons]
    exact ⟨rfl, fun p hp => (ih h.2 p hp).trans h.1.symm⟩

/-- Groups of rows, each with a key of its own, are the runs of their rows. -/
theorem splitBy_flatMap {groups : List (κ × List α)}
    (hkey : ∀ g ∈ groups, ∀ r ∈ g.2, key r = g.1) (hfull : ∀ g ∈ groups, g.2 ≠ [])
    (hne : groups.Pairwise fun g h => g.1 ≠ h.1) :
    ((groups.flatMap Prod.snd).splitBy fun a b => key a == key b) = groups.map Prod.snd := by
  rw [List.flatMap_def]
  apply List.splitBy_flatten
  · rw [List.mem_map]
    exact fun ⟨g, hg, hnil⟩ => hfull g hg hnil
  · rw [List.forall_mem_map]
    refine fun g hg => (List.pairwise_iff_forall_sublist.mpr fun {a b} hab => ?_).isChain
    have hmem := hab.subset
    rw [beq_iff_eq, hkey g hg a (hmem (by simp)), hkey g hg b (hmem (by simp))]
  · refine (List.pairwise_map.mpr (hne.imp_of_mem fun {g h} hg hh hgh => ?_)).isChain
    refine ⟨hfull g hg, hfull h hh, ?_⟩
    rw [beq_eq_false_iff_ne, hkey g hg _ (List.getLast_mem _), hkey h hh _ (List.head_mem _)]
    exact hgh

end Keys

/-! ## Readers -/

/-- A reader that collects the rows of one run at a time: `collect` is its state while it does. It
is idle before the first row and after an end. -/
structure CollectsRuns (accept : σ → α → σ) (finish : σ → σ) (same : α → α → Bool)
    (Idle : σ → Prop) (collect : σ → List α → σ) : Prop where
  /-- An idle reader has nothing to finish. -/
  finish_of_idle : ∀ {s}, Idle s → finish s = s
  /-- The rows of a run are collected. -/
  foldl_accept : ∀ {s run}, Idle s → run ≠ [] → run.IsChain (same · ·) →
    run.foldl accept s = collect s run
  /-- A row of another run is accepted after the run is finished. -/
  accept_of_other : ∀ {s run r}, Idle s → (h : run ≠ []) → run.IsChain (same · ·) →
    same (run.getLast h) r = false → accept (collect s run) r = accept (finish (collect s run)) r
  /-- After that the reader is idle. -/
  idle_finish : ∀ {s run}, Idle s → run ≠ [] → Idle (finish (collect s run))

namespace CollectsRuns

variable {accept : σ → α → σ} {finish : σ → σ} {same : α → α → Bool} {Idle : σ → Prop}
  {collect : σ → List α → σ} (reader : CollectsRuns accept finish same Idle collect)

include reader

/-- Whole runs leave the reader idle. -/
theorem idle_foldl {s : σ} (hs : Idle s) {runs : List (List α)} (hne : [] ∉ runs) :
    Idle (runs.foldl (complete finish collect) s) := by
  induction runs generalizing s with
  | nil => exact hs
  | cons run runs ih =>
    rw [List.mem_cons, not_or] at hne
    exact ih (reader.idle_finish hs (Ne.symm hne.1)) hne.2

/-- An end finishes the open run. -/
theorem finish_readRuns {s : σ} (hs : Idle s) (events : List (Option α)) :
    finish (readRuns finish collect s (closedRuns same events) (openRun? same events)) =
      (runsOf same events).foldl (complete finish collect) s := by
  have hruns := closedRuns_append_openRun? same events
  cases hopen : openRun? same events with
  | some last =>
    rw [hopen, Option.toList_some] at hruns
    rw [← hruns, List.foldl_concat]
    rfl
  | none =>
    rw [hopen, Option.toList_none, List.append_nil] at hruns
    rw [hruns]
    exact reader.finish_of_idle (reader.idle_foldl hs (nil_notMem_runsOf same events))

/-- The first row of the next run finds the reader with the whole of this one. -/
theorem foldl_accept_collect {s : σ} (hs : Idle s) {run : List α} (hrun : run ≠ [])
    (hsame : run.IsChain (same · ·)) {rows : List α}
    (hother : ∃ h, same (run.getLast hrun) (rows.head h) = false) :
    rows.foldl accept (collect s run) = rows.foldl accept (finish (collect s run)) := by
  obtain ⟨h, hother⟩ := hother
  cases rows with
  | nil => exact absurd rfl h
  | cons r rows => exact congrArg (rows.foldl accept) (reader.accept_of_other hs hrun hsame hother)

/-- Rows in runs: all runs but the last one are finished, and the last one is being collected. -/
theorem foldl_accept_flatten {s : σ} (hs : Idle s) {runs : List (List α)} {last : List α}
    (hne : [] ∉ runs ++ [last]) (hsame : ∀ run ∈ runs ++ [last], run.IsChain (same · ·))
    (hother : (runs ++ [last]).IsChain fun a b =>
      ∃ ha hb, same (a.getLast ha) (b.head hb) = false) :
    (runs ++ [last]).flatten.foldl accept s = readRuns finish collect s runs (some last) := by
  induction runs generalizing s with
  | nil =>
    rw [List.nil_append, List.mem_singleton] at hne
    simpa [readRuns] using
      reader.foldl_accept hs (Ne.symm hne) (hsame last (List.mem_singleton_self last))
  | cons run runs ih =>
    rw [List.cons_append, List.mem_cons, not_or] at hne
    rw [List.cons_append, List.forall_mem_cons] at hsame
    have hrun := Ne.symm hne.1
    have hnext : ∃ h, same (run.getLast hrun) ((runs ++ [last]).flatten.head h) = false := by
      obtain ⟨next, later, hlater⟩ : ∃ next later, runs ++ [last] = next :: later :=
        List.exists_cons_of_ne_nil (by simp)
      rw [List.cons_append, hlater, List.isChain_cons_cons] at hother
      obtain ⟨_, hnext, h⟩ := hother.1
      simp [hlater, hnext, h]
    rw [List.cons_append, List.flatten_cons, List.foldl_append,
      reader.foldl_accept hs hrun hsame.1, reader.foldl_accept_collect hs hrun hsame.1 hnext]
    exact ih (reader.idle_finish hs hrun) hne.2 hsame.2 hother.tail

/-- Rows without an end in between. -/
theorem foldl_accept_eq {s : σ} (hs : Idle s) (rows : List α) :
    rows.foldl accept s = readRuns finish collect s (rows.splitBy same).dropLast
      (rows.splitBy same).getLast? := by
  cases hlast : (rows.splitBy same).getLast? with
  | none => simp_all [readRuns]
  | some last =>
    obtain ⟨runs, hruns⟩ := List.getLast?_eq_some_iff.mp hlast
    obtain ⟨rfl, hne, hsame, hother⟩ := List.splitBy_eq_iff.mp hruns
    rw [hruns, List.dropLast_concat]
    exact reader.foldl_accept_flatten hs hne hsame hother

/-- A stream: the complete runs are finished one after the other, and the open one, if there is
one, is being collected. -/
theorem foldl_handle {s : σ} (hs : Idle s) (events : List (Option α)) :
    events.foldl (handle accept finish) s =
      readRuns finish collect s (closedRuns same events) (openRun? same events) := by
  -- The rows after the last end are looked at together.
  have hrows (rows : List α) : (events ++ rows.map some).foldl (handle accept finish) s =
      readRuns finish collect s (closedRuns same (events ++ rows.map some))
        (openRun? same (events ++ rows.map some)) := by
    induction events using List.reverseRecOn generalizing rows with
    | nil => simpa [List.foldl_map, handle] using reader.foldl_accept_eq hs rows
    | append_singleton events e ih =>
      cases e with
      | some r => simpa using ih (r :: rows)
      | none =>
        have hidle := reader.idle_foldl hs (nil_notMem_runsOf same events)
        have hfront := ih []
        rw [List.map_nil, List.append_nil] at hfront
        rw [← List.append_cons, List.foldl_append, hfront, List.foldl_cons, handle,
          reader.finish_readRuns hs, closedRuns_append_none_cons, openRun?_append_none_cons]
        simpa [List.foldl_map, handle, readRuns] using reader.foldl_accept_eq hidle rows
  simpa using hrows []

/-- A stream that has come to an end: all runs are finished. -/
theorem finish_foldl_handle {s : σ} (hs : Idle s) (events : List (Option α)) :
    finish (events.foldl (handle accept finish) s) =
      (runsOf same events).foldl (complete finish collect) s := by
  rw [reader.foldl_handle hs, reader.finish_readRuns hs]

/-- Rows that have come to an end: all their runs are finished. -/
theorem finish_foldl {s : σ} (hs : Idle s) (rows : List α) :
    finish (rows.foldl accept s) = (rows.splitBy same).foldl (complete finish collect) s := by
  rw [← runsOf_map_some, ← reader.finish_foldl_handle hs, List.foldl_map]
  rfl

end CollectsRuns

end SchemaTransfer.Build
