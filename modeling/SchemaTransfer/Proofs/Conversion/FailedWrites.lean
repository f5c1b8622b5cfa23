import SchemaTransfer.Proofs.Conversion.DryRun
import SchemaTransfer.Proofs.Files.Mishaps

/-!
# Writes that fail

Writing scripts takes four steps for each, after one that makes the directory, and any of them can
fail. Main statement: a run that fails stops at the first step that does and names its path; the
files of the scripts before are complete, and no file of a script after it is made or changed.
-/

namespace SchemaTransfer

namespace Script

/-! ## The steps of a run -/

/-- The steps by which a script is written and measured. -/
def steps (directory : String) (s : Script) : List FileStep :=
  [.createFile (s.pathIn directory), .append (s.pathIn directory) s.render,
    .flush (s.pathIn directory), .size (s.pathIn directory)]

/-- The steps by which scripts are written to a directory. -/
def writingSteps (directory : String) (scripts : List Script) : List FileStep :=
  if scripts.isEmpty then [] else .makeDirectories directory :: scripts.flatMap (steps directory)

section

open FileStep

variable {m : Type → Type} [Monad m] [LawfulMonad m]

theorem runs_writeTo (files : FileAccess m) (directory : String) (s : Script) :
    Runs files (s.steps directory) (s.writeTo files directory) := by
  have hwrite : Runs files [.createFile (s.pathIn directory), .append (s.pathIn directory) s.render]
      (files.writeText (s.pathIn directory) s.render) :=
    (Runs.attempt_take files (.createFile _)).bind fun _ => .attempt_take files (.append _ _)
  have hsize : Runs files [.size (s.pathIn directory)]
      (FileAccess.attempt (.output (s.pathIn directory)) (files.size (s.pathIn directory))) :=
    .attempt (.size _) rfl
  exact hwrite.bind fun _ => (Runs.attempt_take files (.flush _)).bind fun _ =>
    hsize.bind fun _ => .pure files _

theorem runs_writeEach (files : FileAccess m) (directory : String) (scripts : List Script) :
    Runs files (scripts.flatMap (steps directory)) (writeEach files directory scripts) := by
  induction scripts with
  | nil => exact .pure files _
  | cons s scripts ih =>
    rw [List.flatMap_cons, writeEach, ← List.append_nil (scripts.flatMap _)]
    exact (runs_writeTo files directory s).bind fun _ => ih.bind fun _ => .pure files _

/-- Writing scripts takes their steps in turn, and fails exactly with the first one that does. -/
theorem runs_writeAll (files : FileAccess m) (directory : String) (scripts : List Script) :
    Runs files (writingSteps directory scripts) (writeAll files directory scripts) := by
  unfold writingSteps writeAll
  split
  · exact .pure files _
  · exact (Runs.attempt_take files (.makeDirectories directory)).bind fun _ =>
      runs_writeEach files directory scripts

end

end Script

namespace FileSystem

variable {fs mid after : FileSystem} {directory : String} {d : Path} {above : List String}
  {scripts : List Script}

/-! ## One script, whatever fails -/

/-- A script either is written and measured or fails, and then at most its file is touched. -/
theorem run_writeTo_failing {s : Script} (hfs : fs.HasHome) (hd : d.endsInSlash = false)
    (hpath : IsPathOf (s.pathIn directory) d s.kind.fileName)
    (mishap? : FileStep → Option Mishap) :
    (∃ above after, Path.ofText (s.pathIn directory) = .ok (d.below s.kind.fileName) ∧
        fs.HasRoom d above s.kind.fileName ∧
        fs.Gains (above ++ [s.kind.fileName]) s.render after ∧
        (s.writeTo (failing mishap?) directory).run.run fs = (.ok (s.artifact directory), after)) ∨
      ∃ fault after, (s.writeTo (failing mishap?) directory).run.run fs =
          (.error (.output (s.pathIn directory) fault), after) ∧
        fs.Touches (s.pathIn directory) after := by
  have hfile := s.kind.isPlain_fileName
  rcases run_writeText_failing hfs hd hfile hpath mishap? s.render with
    ⟨above, mid, htext, hroom, hgains, hwrite⟩ | ⟨fault, after, hrun, htouches⟩
  swap
  · exact Or.inr ⟨fault, after, run_bind_error hrun, htouches⟩
  obtain ⟨hhome, -⟩ := hroom.of_gains hroom hfs hgains
  -- what fails from here on leaves the file as it was written, or touches it again
  rcases run_attempt_hampered hhome hd hfile mishap? (.flush (s.pathIn directory)) hpath rfl
    (access.flush (s.pathIn directory)) with hflush | ⟨fault, after, hrun, htouches⟩
  swap
  · refine Or.inr ⟨fault, after, ?_, hroom.touches_of_gains hfs hfile htext hgains htouches⟩
    rw [Script.writeTo, run_bind hwrite]
    exact run_bind_error hrun
  have hflushed : ((failing mishap?).flush (s.pathIn directory)).run mid = (.ok (), mid) := hflush
  rcases run_attempt_hampered hhome hd hfile mishap? (.size (s.pathIn directory)) hpath rfl
    (access.size (s.pathIn directory)) with hsize | ⟨fault, after, hrun, htouches⟩
  swap
  · refine Or.inr ⟨fault, after, ?_, hroom.touches_of_gains hfs hfile htext hgains htouches⟩
    rw [Script.writeTo, run_bind hwrite, run_bind (run_attempt hflushed)]
    exact run_bind_error hrun
  obtain ⟨-, hlength⟩ := run_of_leads htext (hroom.leads_below hfs hfile hgains) hgains.kindAt?_self
  have hsized : ((failing mishap?).size (s.pathIn directory)).run mid = _ := hsize.trans hlength
  refine Or.inl ⟨above, mid, htext, hroom, hgains, ?_⟩
  rw [Script.writeTo, run_bind hwrite, run_bind (run_attempt hflushed),
    run_bind (run_attempt hsized)]
  rfl

/-! ## Scripts one after the other, whatever fails -/

/-- What writing scripts under their paths leaves. -/
structure Writes (fs : FileSystem) (directory : String) (d : Path) (above : List String)
    (scripts : List Script) (after : FileSystem) : Prop extends fs.Holds above scripts after where
  reached : ∀ s ∈ scripts, Path.ofText (s.pathIn directory) = .ok (d.below s.kind.fileName) ∧
    after.Leads (d.below s.kind.fileName) (above ++ [s.kind.fileName])

theorem Writes.nil (fs : FileSystem) (directory : String) (d : Path) (above : List String) :
    fs.Writes directory d above [] fs :=
  ⟨⟨rfl, .refl fs.root, nofun, fun _ _ => rfl⟩, nofun⟩

/-- A script written first is still there, and its path still leads to it, after the others. -/
theorem HasRoom.writes_cons {s : Script} (h : fs.HasRoom d above s.kind.fileName)
    (hfs : fs.HasHome) (hpath : Path.ofText (s.pathIn directory) = .ok (d.below s.kind.fileName))
    (hgains : fs.Gains (above ++ [s.kind.fileName]) s.render mid)
    (hkind : s.kind ∉ scripts.map (·.kind)) (hw : mid.Writes directory d above scripts after) :
    fs.Writes directory d above (s :: scripts) after where
  toHolds := hgains.holds_cons h.free hkind hw.toHolds
  reached := by
    obtain ⟨hhome, -⟩ := h.of_gains h hfs hgains
    intro t ht
    rcases List.mem_cons.mp ht with rfl | ht
    · exact ⟨hpath, (h.leads_below hfs t.kind.isPlain_fileName hgains).of_grows hw.grows hw.home
        hhome⟩
    · exact hw.reached t ht

/-- Scripts either are all written, or up to one that fails, whose file alone is touched then. The
directory is at one place, if it is there. -/
theorem run_writeEach_failing (hkinds : (scripts.map (·.kind)).Nodup) (hfs : fs.HasHome)
    (hd : d.endsInSlash = false) (hpaths : IsDirectoryOf directory d)
    (habove : ∀ place, fs.Leads d place → place = above) (mishap? : FileStep → Option Mishap) :
    (∃ after, (Script.writeEach (failing mishap?) directory scripts).run.run fs =
        (.ok (scripts.map (·.artifact directory)), after) ∧
          fs.Writes directory d above scripts after) ∨
      ∃ written s later fault mid after, scripts = written ++ s :: later ∧
        (Script.writeEach (failing mishap?) directory scripts).run.run fs =
          (.error (.output (s.pathIn directory) fault), after) ∧
        fs.Writes directory d above written mid ∧ mid.Touches (s.pathIn directory) after := by
  induction scripts generalizing fs with
  | nil => exact Or.inl ⟨fs, rfl, .nil fs directory d above⟩
  | cons s scripts ih =>
    obtain ⟨hkind, hkinds⟩ := List.nodup_cons.mp hkinds
    rcases run_writeTo_failing hfs hd (hpaths s.kind) mishap? with
      ⟨place, mid, htext, hroom, hgains, hwrite⟩ | ⟨fault, after, hrun, htouches⟩
    swap
    · exact Or.inr ⟨[], s, scripts, fault, fs, after, rfl, run_bind_error hrun,
        .nil fs directory d above, htouches⟩
    obtain rfl := habove place hroom.leads
    obtain ⟨hhome, hmid⟩ := hroom.of_gains hroom hfs hgains
    rcases ih hkinds hhome fun other hother => hother.unique hmid.leads with
      ⟨after, hrest, hw⟩ | ⟨written, t, later, fault, end', after, rfl, hrest, hw, htouches⟩
    · refine Or.inl ⟨after, ?_, hroom.writes_cons hfs htext hgains hkind hw⟩
      rw [Script.writeEach, run_bind hwrite, run_bind hrest]
      rfl
    · have hkind' : s.kind ∉ written.map (·.kind) := fun hmem =>
        hkind (by rw [List.map_append]; exact List.mem_append_left _ hmem)
      refine Or.inr ⟨s :: written, t, later, fault, end', after, rfl, ?_,
        hroom.writes_cons hfs htext hgains hkind' hw, htouches⟩
      rw [Script.writeEach, run_bind hwrite]
      exact run_bind_error hrest

/-! ## What a run that stops leaves -/

/-- Whether the path of a script in a directory leads to a place. -/
def HasAt (fs : FileSystem) (directory : String) (s : Script) (place : List String) : Prop :=
  ∃ p, Path.ofText (s.pathIn directory) = .ok p ∧ fs.Leads p place

/-- Whether the same file is at a place of two file systems, or none in either. -/
def SameFile (fs after : FileSystem) (place : List String) : Prop :=
  ∀ text, after.root.kindAt? place = some (.file text) ↔ fs.root.kindAt? place = some (.file text)

/-- What a run leaves that stops at a script, or at none if the directory cannot be made. -/
structure StopsCleanly (fs : FileSystem) (directory : String) (written : List Script)
    (current? : Option Script) (later : List Script) (after : FileSystem) : Prop where
  /-- A script before it is read as it is rendered. -/
  complete : ∀ s ∈ written, (access.readText (s.pathIn directory)).run after = (.ok s.render, after)
  /-- The file of a script after it is neither made nor changed nor lost. -/
  untouched : ∀ s ∈ later, ∀ place, fs.HasAt directory s place ∨ after.HasAt directory s place →
    fs.SameFile after place
  /-- Nor is any file to which no path of a script before it, or of itself, leads. -/
  others : ∀ place, (∀ s ∈ written ++ current?.toList, ¬ after.HasAt directory s place) →
    fs.SameFile after place

theorem AddsDirectories.sameFile (h : fs.AddsDirectories after) (place : List String) :
    fs.SameFile after place := fun _ => ⟨h.noFile, h.kept⟩

theorem Touches.grows {path : String} (h : fs.Touches path after) :
    after.home = fs.home ∧ fs.root.Grows after.root := by
  rcases h with rfl | ⟨p, place, text, -, -, hfree, hgains⟩
  · exact ⟨rfl, .refl _⟩
  · exact ⟨hgains.home, hgains.grows hfree⟩

/-- What stands where the path of a script does not lead is not touched with the script. -/
theorem Touches.kindAt?_eq {s : Script} (h : fs.Touches (s.pathIn directory) after)
    {place : List String} (hplace : ¬ after.HasAt directory s place) :
    after.root.kindAt? place = fs.root.kindAt? place := by
  rcases h with rfl | ⟨p, other, text, hp, hleads, -, hgains⟩
  · rfl
  · rw [hgains.kindAt?, if_neg]
    rintro rfl
    exact hplace ⟨p, hp, hleads⟩

/-- The path of a file below a directory leads to a place with the name of the file. -/
theorem Leads.exists_above {file : String} (hfile : Path.IsPlain file) {place : List String}
    (h : fs.Leads (d.below file) place) : ∃ above, place = above ++ [file] := by
  obtain ⟨u, hu, rfl⟩ := h
  rw [find_below] at hu
  cases hs : fs.find d with
  | error fault => rw [hs] at hu; cases hu
  | ok s =>
    rw [hs] at hu
    obtain ⟨-, ⟨rfl, -⟩ | ⟨rfl, -⟩ | ⟨-, t, -, rfl⟩⟩ := Spot.enter_ok_cases hu
    · exact absurd rfl hfile.dot
    · exact absurd rfl hfile.dots
    · exact ⟨s.place, Spot.place_below ..⟩

/-- The paths of scripts that lead to one place are those of one purpose. -/
theorem HasAt.kind_eq (hpaths : IsDirectoryOf directory d) {s t : Script} {place : List String}
    (hs : fs.HasAt directory s place) (ht : after.HasAt directory t place) : s.kind = t.kind := by
  obtain ⟨p, hp, hs⟩ := hs
  obtain ⟨q, hq, ht⟩ := ht
  rw [hpaths s.kind p hp] at hs
  rw [hpaths t.kind q hq] at ht
  obtain ⟨above, rfl⟩ := hs.exists_above s.kind.isPlain_fileName
  obtain ⟨other, he⟩ := ht.exists_above t.kind.isPlain_fileName
  exact ArtifactKind.fileName_injective (List.append_singleton_inj.mp he).2

theorem HasAt.of_grows {s : Script} {place : List String} (h : fs.HasAt directory s place)
    (hfs : fs.HasHome) (hhome : after.home = fs.home) (hgrows : fs.root.Grows after.root) :
    after.HasAt directory s place := by
  obtain ⟨p, hp, hleads⟩ := h
  exact ⟨p, hp, hleads.of_grows hgrows hhome hfs⟩

section

variable {made : FileSystem} {written later : List Script} {s : Script}

/-- The files of the scripts that were written are where their paths lead in the end. -/
theorem Writes.leads (hw : made.Writes directory d above written mid) (hmid : mid.HasHome)
    (htouches : mid.Touches (s.pathIn directory) after) {t : Script} (ht : t ∈ written) :
    after.Leads (d.below t.kind.fileName) (above ++ [t.kind.fileName]) := by
  obtain ⟨hhome, hgrows⟩ := htouches.grows
  exact (hw.reached t ht).2.of_grows hgrows hhome hmid

/-- A script that was written stays as it is when the file of one of another purpose is touched. -/
theorem Writes.run_readText (hw : made.Writes directory d above written mid) (hmid : mid.HasHome)
    (htouches : mid.Touches (s.pathIn directory) after)
    (hpaths : IsDirectoryOf directory d) {t : Script} (ht : t ∈ written) (hne : t.kind ≠ s.kind) :
    (access.readText (t.pathIn directory)).run after = (.ok t.render, after) := by
  have hpath := (hw.reached t ht).1
  have hleads := hw.leads hmid htouches ht
  have hkind := htouches.kindAt?_eq fun hs =>
    hne (HasAt.kind_eq hpaths ⟨_, hpath, hleads⟩ hs)
  rw [hw.written t ht] at hkind
  exact (run_of_leads hpath hleads hkind).1

/-- Where no path of a script that was written or touched leads, the files are as they were. -/
theorem Writes.sameFile (hw : made.Writes directory d above written mid) (hmid : mid.HasHome)
    (hadds : fs.AddsDirectories made) (htouches : mid.Touches (s.pathIn directory) after)
    {place : List String} (hplace : ∀ t ∈ written ++ [s], ¬ after.HasAt directory t place) :
    fs.SameFile after place := by
  have hkept : ∀ t ∈ written, place ≠ above ++ [t.kind.fileName] := by
    rintro t ht rfl
    exact hplace t (List.mem_append_left _ ht)
      ⟨_, (hw.reached t ht).1, hw.leads hmid htouches ht⟩
  intro text
  rw [htouches.kindAt?_eq (hplace s (by simp)), hw.kept place hkept]
  exact hadds.sameFile place text

/-- A run stops cleanly at a script if only its file was touched after others were written. -/
theorem Writes.stopsCleanly (hw : made.Writes directory d above written mid) (hfs : fs.HasHome)
    (hadds : fs.AddsDirectories made) (htouches : mid.Touches (s.pathIn directory) after)
    (hpaths : IsDirectoryOf directory d)
    (hkinds : ((written ++ s :: later).map (·.kind)).Nodup) :
    fs.StopsCleanly directory written (some s) later after := by
  obtain ⟨hhome, hgrows⟩ := htouches.grows
  have hmid : mid.HasHome := (hfs.of_grows hadds.grows hadds.home).of_grows hw.grows hw.home
  rw [List.append_cons, List.map_append, List.nodup_append] at hkinds
  obtain ⟨hfirst, -, hlater⟩ := hkinds
  rw [List.map_append, List.nodup_append] at hfirst
  refine ⟨fun t ht => ?_, fun t ht place hplace => ?_, fun place => hw.sameFile hmid hadds htouches⟩
  · exact hw.run_readText hmid htouches hpaths ht
      (hfirst.2.2 t.kind (List.mem_map_of_mem ht) s.kind (by simp))
  · have hat : after.HasAt directory t place := hplace.elim
      (fun h => h.of_grows hfs (hhome.trans (hw.home.trans hadds.home))
        ((hadds.grows.trans hw.grows).trans hgrows)) id
    refine hw.sameFile hmid hadds htouches fun u hu hu' => ?_
    exact hlater u.kind (List.mem_map_of_mem hu) t.kind (List.mem_map_of_mem ht)
      (HasAt.kind_eq hpaths hu' hat)

/-- A run that cannot make its directory stops cleanly before all scripts. -/
theorem AddsDirectories.stopsCleanly (h : fs.AddsDirectories after) (directory : String)
    (scripts : List Script) : fs.StopsCleanly directory [] none scripts after :=
  ⟨nofun, fun _ _ place _ => h.sameFile place, fun place _ => h.sameFile place⟩

end

/-- A path leads to one place at most. -/
theorem exists_place (fs : FileSystem) (d : Path) :
    ∃ above, ∀ place, fs.Leads d place → place = above := by
  by_cases h : ∃ above, fs.Leads d above
  · obtain ⟨above, habove⟩ := h
    exact ⟨above, fun place hplace => hplace.unique habove⟩
  · exact ⟨[], fun place hplace => absurd ⟨place, hplace⟩ h⟩

/-- Without scripts no file is gained. -/
theorem gainsScripts_nil (fs : FileSystem) (directory : String) :
    fs.GainsScripts directory [] fs := by
  obtain ⟨d, -⟩ := Path.exists_ofText_pathInside directory
  have hw := Writes.nil fs directory d []
  exact hw.gainsScripts (.refl fs) hw.reached

/-- Scripts are all written to a directory, or the run stops cleanly: before all of them, when the
directory cannot be made, or at the script whose path it names. -/
theorem run_writeAll_failing (mishap? : FileStep → Option Mishap) (directory : String)
    (hfs : fs.HasHome) (hkinds : (scripts.map (·.kind)).Nodup) :
    (∃ after, (Script.writeAll (failing mishap?) directory scripts).run.run fs =
        (.ok (scripts.map (·.artifact directory)), after) ∧
      fs.GainsScripts directory scripts after) ∨
    ∃ written current? later fault after, scripts = written ++ current?.toList ++ later ∧
      (Script.writeAll (failing mishap?) directory scripts).run.run fs =
        (.error (.output (current?.elim directory fun s => s.pathIn directory) fault), after) ∧
      (current? = none → written = []) ∧
      fs.StopsCleanly directory written current? later after := by
  by_cases hscripts : scripts = []
  · subst hscripts
    exact Or.inl ⟨fs, rfl, gainsScripts_nil fs directory⟩
  rw [Script.writeAll, if_neg (by simpa using hscripts)]
  have hadds := addsDirectories_failing mishap? directory fs
  obtain ⟨⟨result, made⟩, hmade⟩ : ∃ r, ((failing mishap?).makeDirectories directory).run fs = r :=
    ⟨_, rfl⟩
  rw [hmade] at hadds
  cases result with
  | error fault =>
    exact Or.inr ⟨[], none, scripts, fault, made, rfl, run_bind_error (run_attempt_error hmade),
      fun _ => rfl, hadds.stopsCleanly directory scripts⟩
  | ok =>
    rw [run_bind (run_attempt hmade)]
    obtain ⟨d, hd, hpaths⟩ := exists_isDirectoryOf directory
    obtain ⟨above, habove⟩ := exists_place made d
    have hhome := hfs.of_grows hadds.grows hadds.home
    rcases run_writeEach_failing hkinds hhome hd hpaths habove mishap? with
      ⟨after, hwrite, hw⟩ | ⟨written, s, later, fault, mid, after, rfl, hwrite, hw, htouches⟩
    · exact Or.inl ⟨after, hwrite, hw.gainsScripts hadds hw.reached⟩
    · exact Or.inr ⟨written, some s, later, fault, after, by simp, hwrite,
        fun h => absurd h (Option.some_ne_none s),
        hw.stopsCleanly hfs hadds htouches hpaths hkinds⟩

/-- Without scripts nothing is done, whatever the files are. Where any step can fail in any way,
scripts of different purposes are all written, if no step does. Otherwise the run fails as an output
with the path of the first step that does, that of the directory or that of one script, and leaves
the scripts before it complete and the files of those after it untouched. -/
theorem writeAll_failing (mishap? : FileStep → Option Mishap) (directory : String)
    (hfs : fs.HasHome) (hkinds : (scripts.map (·.kind)).Nodup) :
    (∀ {m : Type → Type} [Monad m] (files : FileAccess m),
      Script.writeAll files directory [] = pure []) ∧
    ((∃ after, (Script.writeAll (failing mishap?) directory scripts).run.run fs =
          (.ok (scripts.map (·.artifact directory)), after) ∧
        (FileStep.takeUntilFault (failing mishap?) (Script.writingSteps directory scripts)).run fs =
          (none, after) ∧
        fs.GainsScripts directory scripts after) ∨
      ∃ written current? later step fault after, scripts = written ++ current?.toList ++ later ∧
        (Script.writeAll (failing mishap?) directory scripts).run.run fs =
          (.error (.output step.path fault), after) ∧
        (Failure.output step.path fault).exitCode = 4 ∧
        (FileStep.takeUntilFault (failing mishap?) (Script.writingSteps directory scripts)).run fs =
          (some (step, fault), after) ∧
        step.path = current?.elim directory (fun s => s.pathIn directory) ∧
        (current? = none → written = []) ∧
        fs.StopsCleanly directory written current? later after) := by
  have hruns := Script.runs_writeAll (failing mishap?) directory scripts
  refine ⟨fun files => rfl, ?_⟩
  rcases run_writeAll_failing mishap? directory hfs hkinds with
    ⟨after, hrun, hgains⟩ | ⟨written, current?, later, fault, after, hsplit, hrun, hnone, hstops⟩
  · exact Or.inl ⟨after, hrun, run_takeUntilFault_of_ok hruns hrun, hgains⟩
  · obtain ⟨step, hpath, hsteps⟩ := run_takeUntilFault_of_error hruns hrun
    rw [← hpath] at hrun
    exact Or.inr ⟨written, current?, later, step, fault, after, hsplit, hrun, rfl, hsteps, hpath,
      hnone, hstops⟩

/-- Three scripts without content. -/
def threeScripts : List Script :=
  [⟨.createSchemas, none, []⟩, ⟨.createTables, none, []⟩, ⟨.createIndexes, none, []⟩]

/-- The disk is full before the second file is complete. -/
def fullDisk : FileStep → Option Mishap := fun step =>
  if step = .flush "out/sql/create_tables.sql" then
    some { fault := .other "No space left on device (os error 28)", left := some "BEGIN TRAN" }
  else none

theorem writeAll_failing_fullDisk :
    bare.HasHome ∧ (threeScripts.map (·.kind)).Nodup ∧
      ∃ after, (Script.writeAll (failing fullDisk) "out/sql" threeScripts).run.run bare =
          (.error (.output "out/sql/create_tables.sql"
            (.other "No space left on device (os error 28)")), after) ∧
        bare.StopsCleanly "out/sql" [⟨.createSchemas, none, []⟩] (some ⟨.createTables, none, []⟩)
          [⟨.createIndexes, none, []⟩] after := by
  have hhome : bare.HasHome := ⟨_, rfl⟩
  have hkinds : (threeScripts.map (·.kind)).Nodup := by decide
  refine ⟨hhome, hkinds, ?_⟩
  have hstop : ((FileStep.takeUntilFault (failing fullDisk)
      (Script.writingSteps "out/sql" threeScripts)).run bare).1 =
        some (.flush "out/sql/create_tables.sql",
          .other "No space left on device (os error 28)") := by decide +kernel
  obtain ⟨-, ⟨after, -, hsteps, -⟩ | ⟨written, current?, later, step, fault, after, hsplit, hrun, -,
    hsteps, hpath, -, hstops⟩⟩ := writeAll_failing fullDisk "out/sql" hhome hkinds
  · rw [hsteps] at hstop
    cases hstop
  · rw [hsteps] at hstop
    obtain ⟨rfl, rfl⟩ := Prod.mk.inj (Option.some.inj hstop)
    refine ⟨after, hrun, ?_⟩
    cases current? with
    | none => exact absurd hpath (by decide)
    | some s =>
      rw [Option.toList_some, List.append_assoc, List.singleton_append] at hsplit
      -- only the second script has the path that the failure names
      match written, hsplit with
      | [], h =>
        cases h
        exact absurd hpath (by decide)
      | [_], h =>
        cases h
        exact hstops
      | [_, _], h =>
        cases h
        exact absurd hpath (by decide)
      | _ :: _ :: _ :: _, h => simp [threeScripts] at h

end FileSystem

end SchemaTransfer
