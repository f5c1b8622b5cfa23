import SchemaTransfer.Files.System
import SchemaTransfer.Proofs.Conversion.Likeness

/-!
# Queries that fail

A run asks a source for rows of six kinds, then for a sample of each column that needs one. Failed
catalog queries are recovered from, any other failure is fatal. Main statement: a source whose failed
queries can all be recovered from is converted as the source that answers them with nothing, after
one report for each of them in the order in which they were asked; otherwise the run is the first
fatal failure, and no file is touched.
-/

namespace SchemaTransfer

/-- A query that failed. -/
structure FailedQuery where
  /-- What was asked for. -/
  object : String
  failure : Failure
  deriving DecidableEq

namespace FailedQuery

/-- Whether the failure ends the run. -/
def isFatal (q : FailedQuery) : Bool := !q.failure.isRecoverable

/-- What is reported on a query that is recovered from. -/
def report (q : FailedQuery) : Diagnostic := ⟨.catalogQueryFailure, q.object, q.failure.message⟩

/-- The failed query behind an answer, if it is a failure. -/
def ofAnswer {α : Type} (object : String) : Except Failure α → List FailedQuery
  | .ok _ => []
  | .error e => [⟨object, e⟩]

/-- The first failure that ends a run. -/
def fatal? (qs : List FailedQuery) : Option FailedQuery := qs.find? isFatal

theorem fatal?_eq_none_iff (qs : List FailedQuery) :
    fatal? qs = none ↔ ∀ q ∈ qs, ∃ entity text, q.failure = .catalogQuery entity text := by
  simp [fatal?, isFatal, Failure.isRecoverable_iff]

theorem fatal?_eq_some {before after : List FailedQuery} {q : FailedQuery}
    (hbefore : ∀ p ∈ before, ∃ entity text, p.failure = .catalogQuery entity text)
    (hq : ∀ entity text, q.failure ≠ .catalogQuery entity text) :
    fatal? (before ++ q :: after) = some q := by
  rw [fatal?, List.find?_eq_some_iff_append]
  refine ⟨?_, before, after, rfl, fun p hp => ?_⟩
  · cases hrecoverable : q.failure.isRecoverable with
    | false => simp [isFatal, hrecoverable]
    | true =>
      obtain ⟨entity, text, h⟩ := (Failure.isRecoverable_iff _).mp hrecoverable
      exact absurd h (hq entity text)
  · simp [isFatal, (Failure.isRecoverable_iff _).mpr (hbefore p hp)]

/-- A result that counts unless one of the failures ends the run. -/
def unlessFatal {α : Type} (qs : List FailedQuery) (result : Except Failure α) :
    Except Failure α :=
  match fatal? qs with
  | some q => .error q.failure
  | none => result

/-- Failures end a run one after the other. -/
theorem unlessFatal_append {α : Type} (ps qs : List FailedQuery) (result : Except Failure α) :
    unlessFatal (ps ++ qs) result = unlessFatal ps (unlessFatal qs result) := by
  simp only [unlessFatal, fatal?, List.find?_append]
  cases ps.find? isFatal <;> rfl

/-- A run goes on with what is left of an answer, unless that is a fatal failure. -/
theorem recovered_bind {α β : Type} (nothing : α) (object : String) (answer : Except Failure α)
    (next : α × List Diagnostic → Except Failure β) :
    (recovered nothing object answer >>= next) =
      unlessFatal (ofAnswer object answer)
        (next (answer.toOption.getD nothing, (ofAnswer object answer).map report)) := by
  cases answer with
  | ok a => rfl
  | error e =>
    simp only [recovered, ofAnswer, unlessFatal, fatal?, List.find?_cons, isFatal]
    cases e.isRecoverable <;> rfl

end FailedQuery

namespace Source

open FailedQuery

variable (s : Source) (limit : Int64)

/-- The rows that the answers give; a failure gives none. -/
def givenRows : CatalogRows where
  columns := s.columns.toOption.getD []
  userTypes := s.userTypes.toOption.getD []
  tableComments := s.tableComments.toOption.getD []
  sequences := s.sequences.toOption.getD []
  indexes := s.indexes.toOption.getD []
  foreignKeys := s.foreignKeys.toOption.getD []

/-- The samples that failed, in the order of the columns. -/
def failedSamples (rows : List ColumnRow) : List FailedQuery :=
  rows.flatMap fun r =>
    if r.needsSampling then ofAnswer r.ref.fullName (s.cardinality r.ref r.isBinary limit) else []

/-- The queries that fail, in the order in which they are asked. -/
def failedQueries : List FailedQuery :=
  ofAnswer "columns" s.columns ++ ofAnswer "user types" s.userTypes ++
    ofAnswer "table comments" s.tableComments ++ ofAnswer "sequences" s.sequences ++
    ofAnswer "indexes" s.indexes ++ ofAnswer "foreign keys" s.foreignKeys ++
    s.failedSamples limit s.givenRows.columns

/-- The source that answers with nothing where the query fails. -/
def silenced : Source where
  name := s.name
  columns := .ok s.givenRows.columns
  userTypes := .ok s.givenRows.userTypes
  tableComments := .ok s.givenRows.tableComments
  sequences := .ok s.givenRows.sequences
  indexes := .ok s.givenRows.indexes
  foreignKeys := .ok s.givenRows.foreignKeys
  cardinality place isBinary limit :=
    .ok ((s.cardinality place isBinary limit).toOption.getD none)

/-- Sampling gives what the answers that are no failures give, unless one is fatal. -/
theorem sampled_bind {β : Type} (rows : List ColumnRow)
    (next : List (ColumnRef × Int64) × List Diagnostic → Except Failure β) :
    (s.sampled limit rows >>= next) =
      unlessFatal (s.failedSamples limit rows)
        (s.silenced.sampled limit rows >>= fun found =>
          next (found.1, (s.failedSamples limit rows).map report ++ found.2)) := by
  -- What follows the samples of the other columns differs from column to column.
  induction rows generalizing next with
  | nil => rfl
  | cons r rows ih =>
    rw [failedSamples, List.flatMap_cons, ← failedSamples]
    unfold sampled
    split
    · have hsilenced : s.silenced.cardinality r.ref r.isBinary limit =
          .ok ((s.cardinality r.ref r.isBinary limit).toOption.getD none) := rfl
      rw [unlessFatal_append, bind_assoc, bind_assoc, recovered_bind, hsilenced, recovered_ok]
      simp only [bind_assoc, ih, List.map_append, List.append_assoc]
      rfl
    · exact ih next

/-- Without failures gathering is sampling, next to the rows that are given. -/
theorem gather_silenced :
    s.silenced.gather limit = (s.silenced.sampled limit s.givenRows.columns).map fun found =>
      { rows := s.givenRows, found := .ofList found.1, reported := found.2 } := by
  rw [gather]
  change (s.silenced.sampled limit s.givenRows.columns >>= _) = _
  cases s.silenced.sampled limit s.givenRows.columns <;> rfl

/-- Gathering gives what the answers that are no failures give, after the reports on the others,
unless one is fatal. -/
theorem gather_eq :
    s.gather limit = unlessFatal (s.failedQueries limit)
      ((s.silenced.gather limit).map (.after ((s.failedQueries limit).map report))) := by
  rw [gather, gather_silenced]
  -- Both sides end at the same failures, kind by kind, and go on to the same result otherwise.
  simp only [recovered_bind]
  rw [sampled_bind]
  simp only [failedQueries, unlessFatal_append]
  congr 7
  change (s.silenced.sampled limit s.givenRows.columns >>= _) = _
  cases s.silenced.sampled limit s.givenRows.columns with
  | error e => rfl
  | ok found =>
    simp [Except.map, bind, Except.bind, pure, Except.pure, Gathered.after, givenRows]

/-- A source whose failed queries can all be recovered from is converted as the source that answers
them with nothing, after one report for each of them in the order in which they are asked. The first
failure that cannot be recovered from is the whole run: no step on files is taken, and a file system
stays as it is. -/
theorem runsAs_silenced (s : Source) (settings : Settings) :
    ((∀ q ∈ s.failedQueries settings.conversion.arraySampleLimit,
        ∃ entity text, q.failure = .catalogQuery entity text) →
      s.RunsAs s.silenced settings
        ((s.failedQueries settings.conversion.arraySampleLimit).map report)) ∧
    ∀ before q after,
      s.failedQueries settings.conversion.arraySampleLimit = before ++ q :: after →
      (∀ p ∈ before, ∃ entity text, p.failure = .catalogQuery entity text) →
      (∀ entity text, q.failure ≠ .catalogQuery entity text) →
      (∀ {m : Type → Type} [Monad m] [LawfulMonad m] (files : FileAccess m) (dryRun : Bool),
        s.convert files settings dryRun = throw q.failure) ∧
      ∀ (fs : FileSystem) (dryRun : Bool),
        (s.convert FileSystem.access settings dryRun).run fs = (.error q.failure, fs) := by
  refine ⟨fun h => runsAs_of_gather ?_, fun before q after hfailed hbefore hq => ?_⟩
  · rw [gather_eq, unlessFatal, (fatal?_eq_none_iff _).mpr h]
  · have hplan : s.plan settings = .error q.failure := by
      rw [plan, gather_eq, unlessFatal, hfailed, fatal?_eq_some hbefore hq]
      rfl
    refine ⟨fun files dryRun => convert_of_plan_eq_error files dryRun hplan, fun fs dryRun => ?_⟩
    rw [convert_of_plan_eq_error FileSystem.access dryRun hplan]
    rfl

end Source

/-- A source of one array column whose indexes cannot be read and whose samples fail. -/
def faultySource (sampling : Failure) : Source where
  name := "faulty"
  columns := .ok [
    { schema := "s", table := "t", column := "tags", ordinal := 1, regtype := "text[]"
      isNullable := true, arrayDims := 1 }]
  userTypes := .ok []
  tableComments := .ok []
  sequences := .ok []
  indexes := .error (.catalogQuery "indexes" "permission denied")
  foreignKeys := .ok []
  cardinality _ _ _ := .error sampling

/-- Samples that fail as queries do are recovered from; a lost connection is not. -/
theorem runsAs_silenced_faultySource :
    (faultySource (.catalogQuery "s.t.tags" "timeout")).failedQueries 10000 =
        [⟨"indexes", .catalogQuery "indexes" "permission denied"⟩,
          ⟨"s.t.tags", .catalogQuery "s.t.tags" "timeout"⟩] ∧
      (faultySource (.catalogQuery "s.t.tags" "timeout")).RunsAs
        (faultySource (.catalogQuery "s.t.tags" "timeout")).silenced plainSettings
        [⟨.catalogQueryFailure, "indexes", "Catalog query for indexes failed: permission denied"⟩,
          ⟨.catalogQueryFailure, "s.t.tags", "Catalog query for s.t.tags failed: timeout"⟩] ∧
      (faultySource (.connection "lost")).failedQueries 10000 =
        [⟨"indexes", .catalogQuery "indexes" "permission denied"⟩] ++
          ⟨"s.t.tags", .connection "lost"⟩ :: [] ∧
      ∀ fs : FileSystem,
        ((faultySource (.connection "lost")).convert FileSystem.access plainSettings false).run fs =
          (.error (.connection "lost"), fs) := by
  have hlost : (faultySource (.connection "lost")).failedQueries 10000 =
      [⟨"indexes", .catalogQuery "indexes" "permission denied"⟩] ++
        ⟨"s.t.tags", .connection "lost"⟩ :: [] := by decide
  refine ⟨by decide, ?_, hlost, fun fs => ?_⟩
  · exact (Source.runsAs_silenced (faultySource (.catalogQuery "s.t.tags" "timeout"))
      plainSettings).1 ((FailedQuery.fatal?_eq_none_iff _).mp (by decide))
  · exact ((Source.runsAs_silenced (faultySource (.connection "lost")) plainSettings).2
      _ _ _ hlost (by simp) (by simp)).2 fs false

end SchemaTransfer
