import SchemaTransfer.Conversion.Run

/-!
# Runs that are alike

All that a run does to files follows from the scripts of its plan. Two sources with the same plans
are converted in the same way, and where the plans differ in the name of the source and in what is
reported first, the runs take the same steps and their reports differ in the same way. Main
statements: what a source gathers decides its runs up to these differences, and a failure to gather
is the whole run.
-/

namespace SchemaTransfer

/-- What was gathered, with reports that come first. -/
def Gathered.after (earlier : List Diagnostic) (g : Gathered) : Gathered :=
  { g with reported := earlier ++ g.reported }

/-- The plan under another name of the source, with reports that come first. -/
def Plan.restated (name : String) (earlier : List Diagnostic) (p : Plan) : Plan :=
  { p with source := name, diagnostics := earlier ++ p.diagnostics }

/-- The report under another name of the source, with reports that come first. -/
def Report.restated (name : String) (earlier : List Diagnostic) (r : Report) : Report :=
  { r with source := name, diagnostics := earlier ++ r.diagnostics }

/-- Reports on what was gathered come first in the plan, and decide nothing else. -/
theorem Plan.ofGathered_after (settings : Settings) (name other : String)
    (earlier : List Diagnostic) (g : Gathered) :
    ofGathered settings name (g.after earlier) =
      (ofGathered settings other g).restated name earlier := by
  simp only [ofGathered, Gathered.after]
  by_cases h :
      (Catalog.build g.rows settings.conversion.foreignKeySuffix).catalog.isEmpty = true
  · simp only [h, if_true, restated, List.append_assoc]
  · simp only [h, if_false, restated, List.append_assoc, Bool.false_eq_true]

section

variable {m : Type → Type} [Monad m]

/-- Carries out a plan: writes its scripts, or says what would be written. -/
def Plan.carryOut (p : Plan) (files : FileAccess m) (settings : Settings) (dryRun : Bool) :
    ExceptT Failure m Report := do
  let directory := settings.conversion.outputDir
  let artifacts ←
    if dryRun then pure (p.artifacts directory)
    else Script.writeAll files directory p.scripts
  return p.report settings dryRun artifacts

variable [LawfulMonad m] (files : FileAccess m) {settings : Settings} (dryRun : Bool)

/-- A plan under another name and with reports that come first is carried out by the same steps. -/
theorem Plan.carryOut_restated (name : String) (earlier : List Diagnostic) (p : Plan) :
    (p.restated name earlier).carryOut files settings dryRun =
      Report.restated name earlier <$> p.carryOut files settings dryRun := by
  cases dryRun with
  | true =>
    simp only [carryOut, if_true, map_bind, map_pure]
    rfl
  | false =>
    simp only [carryOut, Bool.false_eq_true, if_false, map_bind, map_pure]
    rfl

/-- A run with a plan carries it out. -/
theorem Source.convert_of_plan_eq_ok {s : Source} {p : Plan} (h : s.plan settings = .ok p) :
    s.convert files settings dryRun = p.carryOut files settings dryRun := by
  rw [convert, h]
  exact pure_bind _ _

/-- A run without a plan fails at once, before any step on files. -/
theorem Source.convert_of_plan_eq_error {s : Source} {e : Failure}
    (h : s.plan settings = .error e) : s.convert files settings dryRun = throw e := by
  rw [convert, h]
  exact pure_bind _ _

end

namespace Source

/-- Two sources are converted in the same way: with the same plan, scripts and reports included, and
with the same steps on files, under all settings. -/
def RunsAlike (s t : Source) : Prop :=
  ∀ settings, s.plan settings = t.plan settings ∧
    ∀ {m : Type → Type} [Monad m] (files : FileAccess m) (dryRun : Bool),
      s.convert files settings dryRun = t.convert files settings dryRun

/-- A source is converted as another one is, with the same steps on files, but under its own name
and with reports that come first. -/
def RunsAs (s t : Source) (settings : Settings) (earlier : List Diagnostic) : Prop :=
  s.plan settings = (t.plan settings).map (.restated s.name earlier) ∧
    ∀ {m : Type → Type} [Monad m] [LawfulMonad m] (files : FileAccess m) (dryRun : Bool),
      s.convert files settings dryRun =
        Report.restated s.name earlier <$> t.convert files settings dryRun

/-- Sources of one name that gather the same are converted in the same way. -/
theorem runsAlike_of_gather {s t : Source} (hname : s.name = t.name)
    (h : ∀ limit, s.gather limit = t.gather limit) : s.RunsAlike t := by
  intro settings
  have hplan : s.plan settings = t.plan settings := by rw [plan, plan, h, hname]
  exact ⟨hplan, fun files dryRun => by rw [convert, convert, hplan]⟩

/-- Sources that gather the same but for reports that come first are converted as each other. -/
theorem runsAs_of_gather {s t : Source} {settings : Settings} {earlier : List Diagnostic}
    (h : s.gather settings.conversion.arraySampleLimit =
      (t.gather settings.conversion.arraySampleLimit).map (.after earlier)) :
    s.RunsAs t settings earlier := by
  have hplan : s.plan settings = (t.plan settings).map (.restated s.name earlier) := by
    rw [plan, plan, h]
    cases t.gather settings.conversion.arraySampleLimit with
    | error e => rfl
    | ok g => exact congrArg Except.ok (Plan.ofGathered_after settings s.name t.name earlier g)
  refine ⟨hplan, fun files dryRun => ?_⟩
  cases ht : t.plan settings with
  | error e =>
    rw [ht] at hplan
    rw [convert_of_plan_eq_error files dryRun hplan, convert_of_plan_eq_error files dryRun ht]
    exact (ExceptT.ext (by simp)).symm
  | ok p =>
    rw [ht] at hplan
    rw [convert_of_plan_eq_ok files dryRun hplan, convert_of_plan_eq_ok files dryRun ht,
      Plan.carryOut_restated]

end Source

end SchemaTransfer
