import SchemaTransfer.Proofs.Conversion.Likeness
import SchemaTransfer.Proofs.Emission.Contents
import SchemaTransfer.Proofs.Files.Writing
import SchemaTransfer.Proofs.Snapshot.Plans

/-!
# Dry runs

A dry run takes no step on files and says what would be written. A real run measures what it wrote.
Main statement: where the file system takes the files, a real run reports what the dry run said and
leaves, beside the files that were there, one file for each script, with the text of the script.
-/

namespace SchemaTransfer

namespace ArtifactKind

theorem fileName_injective : Function.Injective fileName := by
  intro kind other h
  cases kind <;> cases other <;> first | rfl | exact absurd h (by decide)

theorem isPlain_fileName (kind : ArtifactKind) : Path.IsPlain kind.fileName := by
  cases kind <;> exact ⟨by decide, by decide, by decide⟩

theorem slash_not_mem_fileName (kind : ArtifactKind) : '/' ∉ kind.fileName.toList := by
  cases kind <;> decide

theorem fileName_ne_empty (kind : ArtifactKind) : kind.fileName ≠ "" := by
  cases kind <;> decide

end ArtifactKind

namespace FileSystem

variable {fs made : FileSystem} {directory : String} {d : Path} {above : List String}

/-- Whether a file system lets a run make a directory and write the file of every purpose into it.
Making the directory leaves it as `made`. -/
structure Accepts (fs : FileSystem) (directory : String) (made : FileSystem) : Prop where
  /-- The directory where the run takes place is there. -/
  home : fs.HasHome
  ready : (access.makeDirectories directory).run fs = (.ok (), made)
  /-- Every file can be made. -/
  room : ∀ kind : ArtifactKind,
    ((access.createFile (pathInside directory kind.fileName)).run made).1 = .ok ()

/-- Whether the files of one file system are those of another and one for each script, under its
path in a directory. -/
structure GainsScripts (fs : FileSystem) (directory : String) (scripts : List Script)
    (after : FileSystem) : Prop where
  /-- A script is read as it is rendered. -/
  read : ∀ s ∈ scripts, (access.readText (s.pathIn directory)).run after = (.ok s.render, after)
  /-- Its file is as long as the artifact says. -/
  size : ∀ s ∈ scripts,
    (access.size (s.pathIn directory)).run after = (.ok (s.artifact directory).bytes, after)
  /-- Every script has a file of its own, and no other file is made, changed or lost. -/
  files : ∃ place : ArtifactKind → List String, Function.Injective place ∧
    (∀ s ∈ scripts, ∃ p, Path.ofText (s.pathIn directory) = .ok p ∧ after.Leads p (place s.kind)) ∧
    ∀ other text, after.root.kindAt? other = some (.file text) ↔
      (∃ s ∈ scripts, other = place s.kind ∧ text = s.render) ∨
        ((∀ s ∈ scripts, other ≠ place s.kind) ∧ fs.root.kindAt? other = some (.file text))

/-- Whether the paths of the files of all purposes are those of files below a path. -/
def IsDirectoryOf (directory : String) (d : Path) : Prop :=
  ∀ kind : ArtifactKind, IsPathOf (pathInside directory kind.fileName) d kind.fileName

theorem exists_isDirectoryOf (directory : String) :
    ∃ d : Path, d.endsInSlash = false ∧ IsDirectoryOf directory d := by
  obtain ⟨d, hd, hpaths⟩ := Path.exists_ofText_pathInside directory
  exact ⟨d, hd, fun kind p => hpaths _ p kind.fileName_ne_empty kind.slash_not_mem_fileName⟩

/-- Once the directory is made, there is room in it for the file of every purpose. -/
theorem Accepts.exists_room (h : fs.Accepts directory made) :
    ∃ d above, d.endsInSlash = false ∧ ∀ kind : ArtifactKind,
      Path.ofText (pathInside directory kind.fileName) = .ok (d.below kind.fileName) ∧
        made.HasRoom d above kind.fileName := by
  obtain ⟨d, hd, hpaths⟩ := exists_isDirectoryOf directory
  have hroom : ∀ kind : ArtifactKind,
      Path.ofText (pathInside directory kind.fileName) = .ok (d.below kind.fileName) ∧
        ∃ above, made.HasRoom d above kind.fileName := by
    intro kind
    rcases run_createFile_cases hd kind.isPlain_fileName (hpaths kind) made with
      ⟨above, hpath, habove, -⟩ | ⟨fault, herror⟩
    · exact ⟨hpath, above, habove⟩
    · have hmade := h.room kind
      rw [herror] at hmade
      cases hmade
  obtain ⟨-, above, hfirst⟩ := hroom .createSchemas
  refine ⟨d, above, hd, fun kind => ?_⟩
  obtain ⟨hpath, other, hother⟩ := hroom kind
  exact ⟨hpath, hfirst.leads.unique hother.leads ▸ hother⟩

/-! ## Scripts written one after the other -/

/-- A script that was written is read, and is as long, as it is rendered. -/
theorem run_of_leads {s : Script} {place : List String}
    (hpath : Path.ofText (s.pathIn directory) = .ok (d.below s.kind.fileName))
    (hleads : fs.Leads (d.below s.kind.fileName) place)
    (hkind : fs.root.kindAt? place = some (.file s.render)) :
    (access.readText (s.pathIn directory)).run fs = (.ok s.render, fs) ∧
      (access.size (s.pathIn directory)).run fs = (.ok (s.artifact directory).bytes, fs) := by
  have hread : fs.readText (d.below s.kind.fileName) = .ok s.render :=
    readText_of_leads hleads hkind rfl
  exact ⟨run_looking hpath hread, run_looking hpath (by rw [hread]; rfl)⟩

/-- A script for which there is room is written, and measured as it is rendered. -/
theorem HasRoom.exists_writeTo {s : Script} (h : fs.HasRoom d above s.kind.fileName)
    (hfs : fs.HasHome) (hd : d.endsInSlash = false)
    (hpath : Path.ofText (s.pathIn directory) = .ok (d.below s.kind.fileName)) :
    ∃ after, (s.writeTo access directory).run.run fs = (.ok (s.artifact directory), after) ∧
      fs.Gains (above ++ [s.kind.fileName]) s.render after := by
  obtain ⟨after, hwrite, hgains, hleads⟩ :=
    h.exists_writeText hfs hd s.kind.isPlain_fileName hpath s.render
  have hflush : (access.flush (s.pathIn directory)).run after = (.ok (), after) := rfl
  obtain ⟨-, hsize⟩ := run_of_leads hpath hleads hgains.kindAt?_self
  refine ⟨after, ?_, hgains⟩
  rw [Script.writeTo, run_bind hwrite, run_bind (run_attempt hflush),
    run_bind (run_attempt hsize)]
  rfl

/-- What writing scripts into a directory at a place leaves. -/
structure Holds (fs : FileSystem) (above : List String) (scripts : List Script)
    (after : FileSystem) : Prop where
  home : after.home = fs.home
  grows : fs.root.Grows after.root
  written : ∀ s ∈ scripts,
    after.root.kindAt? (above ++ [s.kind.fileName]) = some (.file s.render)
  kept : ∀ place, (∀ s ∈ scripts, place ≠ above ++ [s.kind.fileName]) →
    after.root.kindAt? place = fs.root.kindAt? place

/-- Files of different purposes are at different places. -/
theorem place_ne {kind other : ArtifactKind} (h : kind ≠ other) :
    above ++ [kind.fileName] ≠ above ++ [other.fileName] := by
  intro he
  exact h (ArtifactKind.fileName_injective (List.singleton_inj.mp (List.append_cancel_left he)))

/-- A script of another purpose written first is still there in the end. -/
theorem Gains.holds_cons {s : Script} {scripts : List Script} {mid after : FileSystem}
    (hgains : fs.Gains (above ++ [s.kind.fileName]) s.render mid)
    (hfree : fs.root.kindAt? (above ++ [s.kind.fileName]) ≠ some .directory)
    (hkind : s.kind ∉ scripts.map (·.kind)) (h : mid.Holds above scripts after) :
    fs.Holds above (s :: scripts) after where
  home := h.home.trans hgains.home
  grows := (hgains.grows hfree).trans h.grows
  written := by
    intro t ht
    rcases List.mem_cons.mp ht with rfl | ht
    · rw [h.kept _ fun u hu => place_ne fun he => hkind (List.mem_map.mpr ⟨u, hu, he.symm⟩),
        hgains.kindAt?, if_pos rfl]
    · exact h.written t ht
  kept := by
    intro place hplace
    rw [h.kept place fun t ht => hplace t (List.mem_cons_of_mem _ ht), hgains.kindAt?,
      if_neg (hplace s List.mem_cons_self)]

/-- The files are those that were there before the directory was made, and those of the scripts. -/
theorem Holds.kindAt?_eq_file_iff {scripts : List Script} {after : FileSystem}
    (h : made.Holds above scripts after) (hadds : fs.AddsDirectories made) (place : List String)
    (text : String) : after.root.kindAt? place = some (.file text) ↔
      (∃ s ∈ scripts, place = above ++ [s.kind.fileName] ∧ text = s.render) ∨
        ((∀ s ∈ scripts, place ≠ above ++ [s.kind.fileName]) ∧
          fs.root.kindAt? place = some (.file text)) := by
  constructor
  · intro hfile
    by_cases hscript : ∃ s ∈ scripts, place = above ++ [s.kind.fileName]
    · obtain ⟨s, hs, rfl⟩ := hscript
      rw [h.written s hs, Option.some.injEq, FileTree.Kind.file.injEq] at hfile
      exact Or.inl ⟨s, hs, rfl, hfile.symm⟩
    · have hne : ∀ s ∈ scripts, place ≠ above ++ [s.kind.fileName] :=
        fun s hs he => hscript ⟨s, hs, he⟩
      rw [h.kept place hne] at hfile
      exact Or.inr ⟨hne, hadds.noFile hfile⟩
  · rintro (⟨s, hs, rfl, rfl⟩ | ⟨hne, hfile⟩)
    · exact h.written s hs
    · rw [h.kept place hne]
      exact hadds.kept hfile

/-- Scripts of different purposes for which there is room are all written, each as the dry run says. -/
theorem exists_writeEach {scripts : List Script} (hkinds : (scripts.map (·.kind)).Nodup)
    (hfs : fs.HasHome) (hd : d.endsInSlash = false)
    (hroom : ∀ kind : ArtifactKind,
      Path.ofText (pathInside directory kind.fileName) = .ok (d.below kind.fileName) ∧
        fs.HasRoom d above kind.fileName) :
    ∃ after, (Script.writeEach access directory scripts).run.run fs =
        (.ok (scripts.map (·.artifact directory)), after) ∧ fs.Holds above scripts after := by
  induction scripts generalizing fs with
  | nil => exact ⟨fs, rfl, rfl, .refl fs.root, by simp, fun _ _ => rfl⟩
  | cons s scripts ih =>
    obtain ⟨hpath, hfirst⟩ := hroom s.kind
    obtain ⟨hkind, hkinds⟩ := List.nodup_cons.mp hkinds
    obtain ⟨mid, hwrite, hgains⟩ := hfirst.exists_writeTo hfs hd hpath
    obtain ⟨hhome, -⟩ := hfirst.of_gains hfirst hfs hgains
    obtain ⟨after, hrest, hholds⟩ := ih hkinds hhome fun kind =>
      ⟨(hroom kind).1, (hfirst.of_gains (hroom kind).2 hfs hgains).2⟩
    refine ⟨after, ?_, hgains.holds_cons hfirst.free hkind hholds⟩
    rw [Script.writeEach, run_bind hwrite, run_bind hrest]
    rfl

/-- Scripts that were written into a directory are gained, with it and nothing else. -/
theorem Holds.gainsScripts {scripts : List Script} {after : FileSystem}
    (h : made.Holds above scripts after) (hadds : fs.AddsDirectories made)
    (hreached : ∀ s ∈ scripts, Path.ofText (s.pathIn directory) = .ok (d.below s.kind.fileName) ∧
      after.Leads (d.below s.kind.fileName) (above ++ [s.kind.fileName])) :
    fs.GainsScripts directory scripts after := by
  have hruns (s : Script) (hs : s ∈ scripts) :=
    run_of_leads (hreached s hs).1 (hreached s hs).2 (h.written s hs)
  refine ⟨fun s hs => (hruns s hs).1, fun s hs => (hruns s hs).2,
    fun kind => above ++ [kind.fileName], ?_, fun s hs => ⟨_, hreached s hs⟩, ?_⟩
  · exact fun kind other he => by_contra fun hne => place_ne hne he
  · exact h.kindAt?_eq_file_iff hadds

/-- Where the directory is accepted, scripts of different purposes are written into it and nothing
else changes. -/
theorem Accepts.exists_writeAll {scripts : List Script} (h : fs.Accepts directory made)
    (hscripts : scripts ≠ []) (hkinds : (scripts.map (·.kind)).Nodup) :
    ∃ after, (Script.writeAll access directory scripts).run.run fs =
        (.ok (scripts.map (·.artifact directory)), after) ∧
      fs.GainsScripts directory scripts after := by
  obtain ⟨d, above, hd, hroom⟩ := h.exists_room
  have hadds := addsDirectories_makeAll fs directory
  rw [show (makeAll directory).run fs = (.ok (), made) from h.ready] at hadds
  have hhome : made.HasHome := h.home.of_grows hadds.grows hadds.home
  obtain ⟨after, hwrite, hholds⟩ := exists_writeEach hkinds hhome hd hroom
  have hreached : ∀ s ∈ scripts,
      Path.ofText (s.pathIn directory) = .ok (d.below s.kind.fileName) ∧
        after.Leads (d.below s.kind.fileName) (above ++ [s.kind.fileName]) := by
    intro s hs
    obtain ⟨hpath, hfree⟩ := hroom s.kind
    exact ⟨hpath, (hfree.leads.of_grows hholds.grows hholds.home hhome).below
      (hholds.grows.directory hfree.directory) s.kind.isPlain_fileName (hholds.written s hs)⟩
  refine ⟨after, ?_, hholds.gainsScripts hadds hreached⟩
  rw [Script.writeAll, if_neg (by simpa using hscripts), run_bind (run_attempt h.ready)]
  exact hwrite

end FileSystem

section

variable {m : Type → Type} [Monad m] [LawfulMonad m]

/-- A dry run takes no step: it is its report. -/
theorem Plan.carryOut_true (p : Plan) (files : FileAccess m) (settings : Settings) :
    p.carryOut files settings true =
      pure (p.report settings true (p.artifacts settings.conversion.outputDir)) := by
  simp only [carryOut, if_true, pure_bind]

/-- Without scripts a real run takes no step either. -/
theorem Plan.carryOut_of_scripts_eq_nil {p : Plan} (h : p.scripts = []) (files : FileAccess m)
    (settings : Settings) (dryRun : Bool) :
    p.carryOut files settings dryRun = pure (p.report settings dryRun []) := by
  cases dryRun with
  | true => rw [carryOut_true, artifacts, h, List.map_nil]
  | false =>
    simp only [carryOut, Bool.false_eq_true, if_false, h, Script.writeAll, List.isEmpty_nil, if_true,
      pure_bind]

end

/-- Where the directory is accepted, carrying out a plan reports what the dry run says. -/
theorem Plan.exists_carryOut {p : Plan} {settings : Settings} {fs made : FileSystem}
    (hscripts : p.scripts ≠ []) (hkinds : (p.scripts.map (·.kind)).Nodup)
    (h : fs.Accepts settings.conversion.outputDir made) :
    ∃ after, (p.carryOut FileSystem.access settings false).run.run fs =
        (.ok (p.report settings false (p.artifacts settings.conversion.outputDir)), after) ∧
      fs.GainsScripts settings.conversion.outputDir p.scripts after := by
  obtain ⟨after, hwrite, hgains⟩ := h.exists_writeAll hscripts hkinds
  refine ⟨after, ?_, hgains⟩
  simp only [carryOut, Bool.false_eq_true, if_false]
  rw [FileSystem.run_bind hwrite]
  rfl

namespace Snapshot

/-- A catalog with tables yields scripts of different purposes. -/
theorem nodup_kinds_ofGathered {s : Snapshot} {excluded : List String} {settings : Settings}
    (h : (s.converted excluded settings).isEmpty = false) :
    (Plan.ofGathered settings s.title (s.gathered excluded)).scripts ≠ [] ∧
      ((Plan.ofGathered settings s.title (s.gathered excluded)).scripts.map (·.kind)).Nodup := by
  obtain ⟨-, hscripts, -⟩ := ofGathered_of_not_isEmpty s excluded settings h
  have hkinds : ((fun script : Script => script.kind) ∘ fun kind =>
      (Emission.scriptFor settings.emitOptions (s.converted excluded settings) kind).script) = id :=
    funext (Emission.kind_scriptFor _ _)
  rw [hscripts, Emission.scripts_emit _ h, List.map_map, hkinds, List.map_id]
  exact ⟨by simp [ArtifactKind.all], by decide⟩

/-- A run on a snapshot has a plan, and the dry run reports it without any step on files, whatever
these are. When no included row describes a column, there is nothing to process: no artifact, and
the real run takes no step either. Otherwise the real run differs from the dry run in nothing that it
reports, wherever the file system accepts the directory, and writes exactly the artifacts. -/
theorem convert_dryRun (s : Snapshot) (excluded : List String) (settings : Settings) :
    ∃ (p : Plan) (dry : Report), (s.reader excluded).plan settings = .ok p ∧
      dry.dryRun = true ∧ dry.artifacts = p.scripts.map (·.artifact settings.conversion.outputDir) ∧
      (∀ {m : Type → Type} [Monad m] [LawfulMonad m] (files : FileAccess m),
        (s.reader excluded).convert files settings true = pure dry) ∧
      ((∀ r ∈ s.columns, isIncluded excluded r.schema = false) →
        dry.outcome = .nothingToProcess ∧ dry.artifacts = [] ∧
          ∀ {m : Type → Type} [Monad m] [LawfulMonad m] (files : FileAccess m),
            (s.reader excluded).convert files settings false =
              pure { dry with dryRun := false }) ∧
      ((∃ r ∈ s.columns, isIncluded excluded r.schema = true) → dry.outcome = .generated ∧
        ∀ {fs made : FileSystem}, fs.Accepts settings.conversion.outputDir made →
          ∃ after, ((s.reader excluded).convert FileSystem.access settings false).run.run fs =
              (.ok { dry with dryRun := false }, after) ∧
            fs.GainsScripts settings.conversion.outputDir p.scripts after) := by
  let p := Plan.ofGathered settings s.title (s.gathered excluded)
  have hplan := s.plan_reader_eq excluded settings
  refine ⟨p, p.report settings true (p.artifacts settings.conversion.outputDir), hplan, rfl, rfl,
    fun files => ?_, fun hnone => ?_, fun ⟨r, hr, hincluded⟩ => ?_⟩
  · rw [Source.convert_of_plan_eq_ok files true hplan, Plan.carryOut_true]
  · obtain ⟨houtcome, hscripts⟩ := ofGathered_of_isEmpty s excluded settings
      ((s.isEmpty_converted_iff excluded settings).mpr hnone)
    have hartifacts : p.artifacts settings.conversion.outputDir = [] := by
      rw [Plan.artifacts, hscripts, List.map_nil]
    refine ⟨houtcome, hartifacts, fun files => ?_⟩
    rw [Source.convert_of_plan_eq_ok files false hplan,
      Plan.carryOut_of_scripts_eq_nil hscripts, hartifacts]
    rfl
  · have hempty : (s.converted excluded settings).isEmpty = false := by
      refine Bool.eq_false_iff.mpr fun h => ?_
      rw [(s.isEmpty_converted_iff excluded settings).mp h r hr] at hincluded
      cases hincluded
    refine ⟨(ofGathered_of_not_isEmpty s excluded settings hempty).1, fun haccepts => ?_⟩
    obtain ⟨hscripts, hkinds⟩ := nodup_kinds_ofGathered hempty
    rw [Source.convert_of_plan_eq_ok _ false hplan]
    exact Plan.exists_carryOut hscripts hkinds haccepts

/-- Settings for scripts in a directory two levels below the home. -/
def nestedSettings : Settings := { plainSettings with conversion := { outputDir := "out/sql" } }

/-- A file system with nothing in its home accepts the directory. -/
theorem accepts_bare :
    FileSystem.bare.Accepts "out/sql" ((FileSystem.makeAll "out/sql").run .bare).2 where
  home := ⟨_, rfl⟩
  ready := rfl
  room kind := by cases kind <;> rfl

/-- A snapshot of a table with one column. -/
def singleColumn : Snapshot where
  columns := [{ schema := "s", table := "t", column := "a", ordinal := 1, regtype := "integer"
                isNullable := true }]

theorem convert_dryRun_singleColumn :
    ∃ (p : Plan) (dry : Report), (singleColumn.reader []).plan nestedSettings = .ok p ∧
      dry.outcome = .generated ∧ dry.artifacts = p.scripts.map (·.artifact "out/sql") ∧
      ∃ after, ((singleColumn.reader []).convert FileSystem.access nestedSettings false).run.run
          FileSystem.bare = (.ok { dry with dryRun := false }, after) ∧
        FileSystem.bare.GainsScripts "out/sql" p.scripts after := by
  obtain ⟨p, dry, hplan, -, hartifacts, -, -, hincluded⟩ :=
    convert_dryRun singleColumn [] nestedSettings
  obtain ⟨houtcome, hreal⟩ := hincluded ⟨_, List.mem_singleton_self _, by decide⟩
  exact ⟨p, dry, hplan, houtcome, hartifacts, hreal accepts_bare⟩

end Snapshot

end SchemaTransfer
