import SchemaTransfer.Proofs.Files.Writing

/-!
# Steps on files that fail

Any step on files can fail, and a failed step may have done part of its work: a directory above the
wanted one was made, a file was made empty, or some other text than the wanted one is in it. Main
statements: a run takes its steps in turn and fails with the first one that does; whatever fails,
making directories changes no file, and a step on the file of a path changes at most this file.
-/

namespace SchemaTransfer

/-- A step by which a run writes. -/
inductive FileStep where
  | makeDirectories (path : String)
  | createFile (path : String)
  | append (path text : String)
  | flush (path : String)
  | size (path : String)
  deriving DecidableEq

namespace FileStep

/-- The path that a step is about. -/
def path : FileStep → String
  | makeDirectories path => path
  | createFile path => path
  | append path _ => path
  | flush path => path
  | size path => path

/-- Whether a step is about a file. -/
def isOnFile : FileStep → Bool
  | makeDirectories _ => false
  | _ => true

variable {m : Type → Type} [Monad m]

/-- Takes a step. -/
def take (files : FileAccess m) : FileStep → m (Except FileFault Unit)
  | makeDirectories path => files.makeDirectories path
  | createFile path => files.createFile path
  | append path text => files.append path text
  | flush path => files.flush path
  | size path => Except.map (fun _ => ()) <$> files.size path

/-- Takes steps up to the first one that fails, and says which one it is and why it fails. -/
def takeUntilFault (files : FileAccess m) : List FileStep → m (Option (FileStep × FileFault))
  | [] => return none
  | step :: steps => do
    match ← step.take files with
    | .ok () => takeUntilFault files steps
    | .error fault => return some (step, fault)

/-- The failure of a run that a step ends. -/
def failure (stop : FileStep × FileFault) : Failure := .output stop.1.path stop.2

/-- The failure of a run, if it fails. -/
def failure? {α : Type} : Except Failure α → Option Failure
  | .ok _ => none
  | .error e => some e

/-- Whether a run takes steps in turn and fails exactly with the first one that does. -/
def Runs {α : Type} (files : FileAccess m) (steps : List FileStep) (x : ExceptT Failure m α) :
    Prop :=
  failure? <$> x.run = Option.map failure <$> takeUntilFault files steps

section

variable [LawfulMonad m] {files : FileAccess m} {steps more : List FileStep} {α β : Type}

/-- Steps are taken up to the first one that fails among all of them, whether this is among the
first ones or the others. -/
theorem takeUntilFault_append (files : FileAccess m) (steps more : List FileStep) :
    takeUntilFault files (steps ++ more) = do
      match ← takeUntilFault files steps with
      | none => takeUntilFault files more
      | some stop => return some stop := by
  induction steps with
  | nil => simp [takeUntilFault]
  | cons step steps ih =>
    simp only [List.cons_append, takeUntilFault, bind_assoc]
    refine bind_congr fun result => ?_
    cases result with
    | ok => exact ih
    | error => simp

theorem Runs.pure (files : FileAccess m) (a : α) : Runs files [] (Pure.pure a) := by
  simp [Runs, takeUntilFault, failure?]

/-- One step, which may have a value that a run goes on with. -/
theorem Runs.attempt (step : FileStep) {wanted : m (Except FileFault α)}
    (h : step.take files = Except.map (fun _ => ()) <$> wanted) :
    Runs files [step] (FileAccess.attempt (.output step.path) wanted) := by
  simp only [Runs, FileAccess.attempt, takeUntilFault, ExceptT.run_mk, h, map_bind, bind_map_left]
  refine bind_congr fun result => ?_
  cases result <;> simp [Except.map, failure?, failure]

theorem Runs.attempt_take (files : FileAccess m) (step : FileStep) :
    Runs files [step] (FileAccess.attempt (.output step.path) (step.take files)) := by
  have hid : (Except.map fun _ => ()) = (id : Except FileFault Unit → Except FileFault Unit) := by
    funext result
    cases result <;> rfl
  exact .attempt step (by rw [hid, id_map])

theorem Runs.bind {x : ExceptT Failure m α} {next : α → ExceptT Failure m β}
    (h : Runs files steps x) (hnext : ∀ a, Runs files more (next a)) :
    Runs files (steps ++ more) (x >>= next) := by
  have hx : failure? <$> (x >>= next).run = failure? <$> x.run >>= fun
      | none => Option.map failure <$> takeUntilFault files more
      | some e => Pure.pure (some e) := by
    rw [ExceptT.run_bind, map_bind, bind_map_left]
    refine bind_congr fun result => ?_
    cases result with
    | ok a => exact hnext a
    | error e => simp [failure?]
  rw [Runs, hx, h, takeUntilFault_append, map_bind, bind_map_left]
  refine bind_congr fun stop? => ?_
  cases stop? <;> simp

end

end FileStep

/-- How a step fails. -/
structure Mishap where
  fault : FileFault
  /-- The directory that was made nevertheless, with every directory above it. -/
  made : String := ""
  /-- The text that the file has now, if it was touched. -/
  left : Option String := none

namespace FileSystem

/-- What a failed step leaves. -/
def spoiled (fs : FileSystem) (mishap : Mishap) : FileStep → FileSystem
  | .makeDirectories _ => ((makeAll mishap.made).run fs).2
  | .size _ => fs
  | step =>
    match mishap.left with
    | none => fs
    | some text => ((access.writeText step.path text).run.run fs).2

/-- A step of the file system that fails if it meets with a mishap. -/
def hampered {α : Type} (mishap? : FileStep → Option Mishap) (step : FileStep)
    (wanted : StateM FileSystem (Except FileFault α)) : StateM FileSystem (Except FileFault α) :=
  match mishap? step with
  | none => wanted
  | some mishap => fun fs => (.error mishap.fault, fs.spoiled mishap step)

/-- The steps on a file system where the given ones fail. Writing the files of different paths takes
no step twice, so that these are all the ways to fail. -/
def failing (mishap? : FileStep → Option Mishap) : FileAccess (StateM FileSystem) where
  readText := access.readText
  makeDirectories path := hampered mishap? (.makeDirectories path) (access.makeDirectories path)
  createFile path := hampered mishap? (.createFile path) (access.createFile path)
  append path text := hampered mishap? (.append path text) (access.append path text)
  flush path := hampered mishap? (.flush path) (access.flush path)
  size path := hampered mishap? (.size path) (access.size path)

variable {fs mid after : FileSystem} {d : Path} {above : List String} {file path : String}

/-! ## Runs that stop -/

section

variable {α β : Type} {fault : FileFault} {e : Failure}

/-- A step that fails ends a run. -/
theorem run_attempt_error {step : StateM FileSystem (Except FileFault α)}
    {failure : FileFault → Failure} (h : step.run fs = (.error fault, after)) :
    (FileAccess.attempt failure step).run.run fs = (.error (failure fault), after) := by
  simp only [FileAccess.attempt, ExceptT.run_mk, StateT.run_bind, h]
  rfl

/-- A run that ends in its first part leaves what that part left. -/
theorem run_bind_error {x : ExceptT Failure (StateM FileSystem) α}
    {next : α → ExceptT Failure (StateM FileSystem) β} (h : x.run.run fs = (.error e, after)) :
    (x >>= next).run.run fs = (.error e, after) := by
  rw [ExceptT.run_bind, StateT.run_bind, h]
  rfl

end

/-! ## Runs of steps -/

section

open FileStep

variable {α : Type} {files : FileAccess (StateM FileSystem)} {steps : List FileStep}
  {x : ExceptT Failure (StateM FileSystem) α}

/-- A run leaves what its steps leave, and fails as they do. -/
theorem run_of_runs (h : Runs files steps x) {result : Except Failure α}
    (hrun : x.run.run fs = (result, after)) : ∃ stop?, failure? result = Option.map failure stop? ∧
      (takeUntilFault files steps).run fs = (stop?, after) := by
  have hfailure : (failure? (x.run.run fs).1, (x.run.run fs).2) =
      (Option.map failure ((takeUntilFault files steps).run fs).1,
        ((takeUntilFault files steps).run fs).2) := congrArg (StateT.run · fs) h
  rw [hrun, Prod.mk.injEq] at hfailure
  exact ⟨_, hfailure.1, Prod.ext rfl hfailure.2.symm⟩

/-- A run that succeeds has taken all its steps. -/
theorem run_takeUntilFault_of_ok (h : Runs files steps x) {a : α}
    (hrun : x.run.run fs = (.ok a, after)) :
    (takeUntilFault files steps).run fs = (none, after) := by
  obtain ⟨stop?, hstop, hsteps⟩ := run_of_runs h hrun
  rwa [Option.map_eq_none_iff.mp hstop.symm] at hsteps

/-- A run that fails has stopped at the first step that fails, and names its path. -/
theorem run_takeUntilFault_of_error (h : Runs files steps x) {fault : FileFault}
    (hrun : x.run.run fs = (.error (.output path fault), after)) : ∃ step : FileStep,
      step.path = path ∧ (takeUntilFault files steps).run fs = (some (step, fault), after) := by
  obtain ⟨stop?, hstop, hsteps⟩ := run_of_runs h hrun
  obtain ⟨⟨step, reason⟩, rfl, hfailure⟩ := Option.map_eq_some_iff.mp hstop.symm
  obtain ⟨rfl, rfl⟩ := Failure.output.inj hfailure
  exact ⟨step, rfl, hsteps⟩

end

/-! ## What failed steps leave -/

/-- Whether one file system is another but for the file of a path, which may have been made and may
have any text now. -/
def Touches (fs : FileSystem) (path : String) (after : FileSystem) : Prop :=
  after = fs ∨ ∃ p place text, Path.ofText path = .ok p ∧ after.Leads p place ∧
    fs.root.kindAt? place ≠ some .directory ∧ fs.Gains place text after

/-- What is done to a file after it was written is done to no other file either. -/
theorem HasRoom.touches_of_gains {text : String} (h : fs.HasRoom d above file) (hfs : fs.HasHome)
    (hfile : Path.IsPlain file) (hpath : Path.ofText path = .ok (d.below file))
    (hgains : fs.Gains (above ++ [file]) text mid) (ht : mid.Touches path after) :
    fs.Touches path after := by
  obtain ⟨hhome, -⟩ := h.of_gains h hfs hgains
  have hmid := h.leads_below hfs hfile hgains
  rcases ht with rfl | ⟨p, place, other, hp, hleads, hfree, hgains'⟩
  · exact Or.inr ⟨_, _, text, hpath, hmid, h.free, hgains⟩
  · obtain rfl := Except.ok.inj (hp.symm.trans hpath)
    obtain rfl := hleads.unique (hmid.of_grows (hgains'.grows hfree) hgains'.home hhome)
    exact Or.inr ⟨_, _, other, hp, hleads, h.free, hgains.trans hgains'⟩

/-- Writing a text, all of it or in part, touches at most the file. -/
theorem touches_writeText (hfs : fs.HasHome) (hd : d.endsInSlash = false)
    (hfile : Path.IsPlain file) (hpath : IsPathOf path d file) (text : String) :
    fs.Touches path ((access.writeText path text).run.run fs).2 := by
  rcases run_createFile_cases hd hfile hpath fs with ⟨above, htext, hroom, -⟩ | ⟨fault, hcreate⟩
  · obtain ⟨after, hwrite, hgains, hleads⟩ := hroom.exists_writeText hfs hd hfile htext text
    rw [hwrite]
    exact Or.inr ⟨_, _, text, htext, hleads, hroom.free, hgains⟩
  · rw [FileAccess.writeText, run_bind_error (run_attempt_error hcreate)]
    exact Or.inl rfl

/-- A step on a file that fails touches at most the file. -/
theorem touches_spoiled (hfs : fs.HasHome) (hd : d.endsInSlash = false)
    (hfile : Path.IsPlain file) (mishap : Mishap) {step : FileStep}
    (hpath : IsPathOf step.path d file) (hstep : step.isOnFile = true) :
    fs.Touches step.path (fs.spoiled mishap step) := by
  have hleft : fs.Touches step.path (match mishap.left with
      | none => fs
      | some text => ((access.writeText step.path text).run.run fs).2) := by
    split
    · exact Or.inl rfl
    · exact touches_writeText hfs hd hfile hpath _
  cases step with
  | makeDirectories path => cases hstep
  | createFile path => exact hleft
  | append path text => exact hleft
  | flush path => exact hleft
  | size path => exact Or.inl rfl

/-- A step on a file either is taken or fails, and then touches at most the file. -/
theorem run_attempt_hampered {α : Type} (hfs : fs.HasHome) (hd : d.endsInSlash = false)
    (hfile : Path.IsPlain file) (mishap? : FileStep → Option Mishap) (step : FileStep)
    (hpath : IsPathOf step.path d file) (hstep : step.isOnFile = true)
    (wanted : StateM FileSystem (Except FileFault α)) :
    (hampered mishap? step wanted).run fs = wanted.run fs ∨
      ∃ fault after, (FileAccess.attempt (.output step.path) (hampered mishap? step wanted)).run.run
          fs = (.error (.output step.path fault), after) ∧ fs.Touches step.path after := by
  unfold hampered
  cases mishap? step with
  | none => exact Or.inl rfl
  | some mishap =>
    exact Or.inr ⟨mishap.fault, _, run_attempt_error rfl,
      touches_spoiled hfs hd hfile mishap hpath hstep⟩

/-- Writing a text where steps can fail either succeeds and changes nothing else, or touches at
most the file. -/
theorem run_writeText_failing (hfs : fs.HasHome) (hd : d.endsInSlash = false)
    (hfile : Path.IsPlain file) (hpath : IsPathOf path d file) (mishap? : FileStep → Option Mishap)
    (text : String) :
    (∃ above after, Path.ofText path = .ok (d.below file) ∧ fs.HasRoom d above file ∧
        fs.Gains (above ++ [file]) text after ∧
        ((failing mishap?).writeText path text).run.run fs = (.ok (), after)) ∨
      ∃ fault after, ((failing mishap?).writeText path text).run.run fs =
          (.error (.output path fault), after) ∧ fs.Touches path after := by
  rcases run_attempt_hampered hfs hd hfile mishap? (.createFile path) hpath rfl
    (access.createFile path) with hsame | ⟨fault, after, hrun, htouches⟩
  · rcases run_createFile_cases hd hfile hpath fs with
      ⟨above, htext, hroom, hcreate⟩ | ⟨fault, hcreate⟩
    · -- the file is empty from here on, and what fails can touch it again
      have hcreated : ((failing mishap?).createFile path).run fs = (.ok (), _) :=
        hsame.trans hcreate
      have hempty := hroom.gains_put ""
      obtain ⟨hhome, -⟩ := hroom.of_gains hroom hfs hempty
      rcases run_attempt_hampered hhome hd hfile mishap? (.append path text) hpath rfl
        (access.append path text) with hsame | ⟨fault, after, hrun, htouches⟩
      · have happended : ((failing mishap?).append path text).run _ = (.ok (), _) :=
          hsame.trans (hroom.run_append hfs hfile htext text)
        refine Or.inl ⟨above, _, htext, hroom, hroom.gains_put_put hfs text, ?_⟩
        rw [FileAccess.writeText, run_bind (run_attempt hcreated)]
        exact run_attempt happended
      · refine Or.inr ⟨fault, after, ?_, hroom.touches_of_gains hfs hfile htext hempty htouches⟩
        rw [FileAccess.writeText, run_bind (run_attempt hcreated)]
        exact hrun
    · exact Or.inr ⟨fault, fs, run_bind_error (run_attempt_error (hsame.trans hcreate)), Or.inl rfl⟩
  · exact Or.inr ⟨fault, after, run_bind_error hrun, htouches⟩

/-- Making directories adds only directories, also when it fails. -/
theorem addsDirectories_failing (mishap? : FileStep → Option Mishap) (path : String)
    (fs : FileSystem) :
    fs.AddsDirectories (((failing mishap?).makeDirectories path).run fs).2 := by
  change fs.AddsDirectories ((hampered mishap? (.makeDirectories path) (makeAll path)).run fs).2
  unfold hampered
  cases mishap? (.makeDirectories path) with
  | none => exact addsDirectories_makeAll fs path
  | some mishap => exact addsDirectories_makeAll fs mishap.made

end FileSystem

end SchemaTransfer
