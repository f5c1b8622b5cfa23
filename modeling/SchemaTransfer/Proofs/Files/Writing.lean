import SchemaTransfer.Proofs.Files.Paths
import SchemaTransfer.Proofs.Files.Walks

/-!
# Writing files into a directory

A file can be written where its directory is there and no directory has its name. Main statements:
writing such a file changes nothing but its text, leaves room for every other file, and the file is
read back as it was written; making directories changes no file.
-/

namespace SchemaTransfer

theorem Path.fileName?_below (d : Path) {file : String} (h : Path.IsPlain file) :
    (d.below file).fileName? = some file := by
  simp [fileName?, below, h.dot, h.dots]

/-- The path of a file without its last name is that of the directory. -/
theorem Path.parent_below_eq {d : Path} (h : d.endsInSlash = false) (file : String) :
    (d.below file).parent = d := by
  rw [parent_below, ← h]

namespace FileSystem

variable {fs mid after : FileSystem} {d p : Path} {above place : List String} {file : String}

/-- A path leads to one place. -/
theorem Leads.unique {p : Path} {place other : List String} (h : fs.Leads p place)
    (h' : fs.Leads p other) : place = other := by
  obtain ⟨s, hs, rfl⟩ := h
  obtain ⟨s', hs', rfl⟩ := h'
  obtain rfl := Except.ok.inj (hs.symm.trans hs')
  rfl

/-! ## Room for a file -/

/-- Whether a file can be made, or emptied, in the directory to which a path leads. -/
structure HasRoom (fs : FileSystem) (d : Path) (above : List String) (file : String) : Prop where
  leads : fs.Leads d above
  directory : fs.root.kindAt? above = some .directory
  free : fs.root.kindAt? (above ++ [file]) ≠ some .directory

/-- The walk to a file is the walk to its directory and one step. -/
theorem find_below (fs : FileSystem) (d : Path) (file : String) :
    fs.find (d.below file) = (fs.find d).bind fun s => s.enter file := by
  have hstart : fs.start (d.below file) = fs.start d := rfl
  rw [find, hstart, Path.below, Spot.walk_append]
  refine congrArg _ (funext fun s => ?_)
  rw [Spot.walk]
  cases s.enter file <;> rfl

/-- What is found at the end of a path that leads to a place. -/
theorem Leads.exists_find (h : fs.Leads p place) {kind : FileTree.Kind}
    (hkind : fs.root.kindAt? place = some kind) :
    ∃ s, fs.find p = .ok s ∧ s.IsIn fs.root ∧ s.place = place ∧ s.here.kind = kind := by
  obtain ⟨s, hs, rfl⟩ := h
  have hin := isIn_of_find hs
  rw [hin.kindAt?_place] at hkind
  exact ⟨s, hs, hin, rfl, Option.some.inj hkind⟩

theorem Leads.below (h : fs.Leads d above) (hdirectory : fs.root.kindAt? above = some .directory)
    (hfile : Path.IsPlain file) {kind : FileTree.Kind}
    (hkind : fs.root.kindAt? (above ++ [file]) = some kind) :
    fs.Leads (d.below file) (above ++ [file]) := by
  obtain ⟨s, hs, hin, rfl, hhere⟩ := h.exists_find hdirectory
  rw [hin.kindAt?_below] at hkind
  obtain ⟨t, ht, -⟩ := Option.map_eq_some_iff.mp hkind
  refine ⟨⟨(file, s.here) :: s.trail, t⟩, ?_, Spot.place_below ..⟩
  rw [find_below, hs, Except.bind, Spot.enter_plain hhere hfile, ht]

/-- A file cannot be made in what is no directory. -/
theorem createFile_below_ne_ok {s : Spot} {text : String} (hd : d.endsInSlash = false)
    (hs : fs.find d = .ok s) (hhere : s.here = .file text) :
    fs.createFile (d.below file) ≠ .ok after := by
  simp [createFile, Path.parent_below_eq hd, hs, hhere]

/-- In a directory a file is made where no directory is. -/
theorem createFile_below_of_find {s : Spot} (hd : d.endsInSlash = false)
    (hfile : Path.IsPlain file) (hs : fs.find d = .ok s) (hkind : s.here.kind = .directory) :
    fs.createFile (d.below file) = .ok after ↔
      fs.root.kindAt? (s.place ++ [file]) ≠ some .directory ∧
        fs.put (s.place ++ [file]) (.file "") = after := by
  obtain ⟨entries, hhere⟩ := FileTree.exists_of_kind_eq_directory hkind
  rw [createFile, Path.parent_below_eq hd, Path.fileName?_below d hfile, (isIn_of_find hs).kindAt?_below]
  simp only [hs, hhere, Spot.enter_plain hkind hfile]
  cases hlookup : entries.lookup file with
  | none => simp [hlookup]
  | some t => cases t <;> simp [hlookup, FileTree.kind]

/-- A file is made exactly where there is room for it. -/
theorem createFile_below_eq_ok_iff (hd : d.endsInSlash = false) (hfile : Path.IsPlain file) :
    fs.createFile (d.below file) = .ok after ↔
      ∃ above, fs.HasRoom d above file ∧ after = fs.put (above ++ [file]) (.file "") := by
  constructor
  · intro h
    cases hs : fs.find d with
    | error fault =>
      rw [createFile, Path.parent_below_eq hd, hs] at h
      cases h
    | ok s =>
      cases hhere : s.here with
      | file text => exact absurd h (createFile_below_ne_ok hd hs hhere)
      | directory entries =>
        have hkind : s.here.kind = .directory := by rw [hhere]; rfl
        obtain ⟨hfree, rfl⟩ := (createFile_below_of_find hd hfile hs hkind).mp h
        exact ⟨s.place, ⟨⟨s, hs, rfl⟩, hkind ▸ (isIn_of_find hs).kindAt?_place, hfree⟩, rfl⟩
  · rintro ⟨above, hroom, rfl⟩
    obtain ⟨s, hs, -, rfl, hkind⟩ := hroom.leads.exists_find hroom.directory
    exact (createFile_below_of_find hd hfile hs hkind).mpr ⟨hroom.free, rfl⟩

/-! ## One file written -/

/-- Whether the only difference of one file system to another is a file with a text. -/
structure Gains (fs : FileSystem) (place : List String) (text : String) (after : FileSystem) :
    Prop where
  home : after.home = fs.home
  kindAt? : ∀ other, after.root.kindAt? other =
    if other = place then some (.file text) else fs.root.kindAt? other

theorem Gains.kindAt?_self {text : String} (h : fs.Gains place text after) :
    after.root.kindAt? place = some (.file text) := by
  rw [h.kindAt?, if_pos rfl]

/-- Where there is room for a file, only the file is put. -/
theorem HasRoom.gains_put (h : fs.HasRoom d above file) (text : String) :
    fs.Gains (above ++ [file]) text (fs.put (above ++ [file]) (.file text)) where
  home := rfl
  kindAt? := FileTree.kindAt?_put h.directory h.free rfl

/-- A file that is written twice has the later text. -/
theorem Gains.trans {text text' : String} (h : fs.Gains place text mid)
    (h' : mid.Gains place text' after) : fs.Gains place text' after where
  home := h'.home.trans h.home
  kindAt? other := by
    rw [h'.kindAt?, h.kindAt?]
    split <;> rfl

/-- A file in the place of no directory leaves every directory and every file. -/
theorem Gains.grows {text : String} (h : fs.Gains place text after)
    (hfree : fs.root.kindAt? place ≠ some .directory) : fs.root.Grows after.root where
  directory {other} hother := by
    have hne : other ≠ place := by
      rintro rfl
      exact hfree hother
    rw [h.kindAt?, if_neg hne, hother]
  file {other before} hother := by
    by_cases he : other = place
    · exact ⟨text, by rw [h.kindAt?, if_pos he]⟩
    · exact ⟨before, by rw [h.kindAt?, if_neg he, hother]⟩

/-- A written file leaves the home and the room for every file of the directory. -/
theorem HasRoom.of_gains {other text : String} (hroom : fs.HasRoom d above file)
    (h : fs.HasRoom d above other) (hfs : fs.HasHome)
    (hgains : fs.Gains (above ++ [file]) text after) :
    after.HasHome ∧ after.HasRoom d above other := by
  have hgrows := hgains.grows hroom.free
  refine ⟨hfs.of_grows hgrows hgains.home, h.leads.of_grows hgrows hgains.home hfs,
    hgrows.directory h.directory, ?_⟩
  rw [hgains.kindAt?]
  split
  · exact fun he => FileTree.Kind.noConfusion (Option.some.inj he)
  · exact h.free

/-- The path of a written file leads to it. -/
theorem HasRoom.leads_below {text : String} (h : fs.HasRoom d above file) (hfs : fs.HasHome)
    (hfile : Path.IsPlain file) (hgains : fs.Gains (above ++ [file]) text after) :
    after.Leads (d.below file) (above ++ [file]) := by
  obtain ⟨-, hroom⟩ := h.of_gains h hfs hgains
  exact hroom.leads.below hroom.directory hfile hgains.kindAt?_self

/-- A file is read as it stands at its place. -/
theorem readText_of_leads {text : String} (h : fs.Leads p place)
    (hkind : fs.root.kindAt? place = some (.file text)) (hp : p.endsInSlash = false) :
    fs.readText p = .ok text := by
  obtain ⟨s, hs, -, -, hhere⟩ := h.exists_find hkind
  cases h' : s.here with
  | directory => rw [h'] at hhere; cases hhere
  | file before =>
    rw [h'] at hhere
    obtain rfl := FileTree.Kind.file.inj hhere
    simp [readText, hs, h', hp]

/-- A text is added to a file as it stands at its place. -/
theorem append_of_leads {before : String} (h : fs.Leads p place)
    (hkind : fs.root.kindAt? place = some (.file before)) (hp : p.endsInSlash = false)
    (text : String) : fs.append p text = .ok (fs.put place (.file (before ++ text))) := by
  obtain ⟨s, hs, -, rfl, -⟩ := h.exists_find hkind
  rw [append, hs, readText_of_leads h hkind hp]

section

variable {α β : Type} {a : α}

/-- A step that succeeds is one that a run goes on from. -/
theorem run_attempt {step : StateM FileSystem (Except FileFault α)} {failure : FileFault → Failure}
    (h : step.run fs = (.ok a, after)) :
    (FileAccess.attempt failure step).run.run fs = (.ok a, after) := by
  simp only [FileAccess.attempt, ExceptT.run_mk, StateT.run_bind, h]
  rfl

theorem run_changing {path : String} {step : FileSystem → Path → Except FileFault FileSystem}
    (hpath : Path.ofText path = .ok p) (h : step fs p = .ok after) :
    (changing path step).run fs = (.ok (), after) := by
  simp only [changing, StateT.run, hpath, Except.bind, h]

theorem run_looking {path : String} {step : FileSystem → Path → Except FileFault α}
    (hpath : Path.ofText path = .ok p) (h : step fs p = .ok a) :
    (looking path step).run fs = (.ok a, fs) := by
  simp only [looking, StateT.run, hpath, Except.bind, h]

/-- A run goes on in the file system that its first part left. -/
theorem run_bind {x : ExceptT Failure (StateM FileSystem) α}
    {next : α → ExceptT Failure (StateM FileSystem) β} (h : x.run.run fs = (.ok a, after)) :
    (x >>= next).run.run fs = (next a).run.run after := by
  rw [ExceptT.run_bind, StateT.run_bind, h]
  rfl

end

/-- The path of a file in a directory, if it is one, is that of the file below the directory. -/
def IsPathOf (path : String) (d : Path) (file : String) : Prop :=
  ∀ p, Path.ofText path = .ok p → p = d.below file

/-- A file is made where there is room for it, and otherwise nothing happens. -/
theorem run_createFile_cases {path : String} (hd : d.endsInSlash = false)
    (hfile : Path.IsPlain file) (hpath : IsPathOf path d file) (fs : FileSystem) :
    (∃ above, Path.ofText path = .ok (d.below file) ∧ fs.HasRoom d above file ∧
        (access.createFile path).run fs = (.ok (), fs.put (above ++ [file]) (.file ""))) ∨
      ∃ fault, (access.createFile path).run fs = (.error fault, fs) := by
  cases htext : Path.ofText path with
  | error fault =>
    refine Or.inr ⟨fault, ?_⟩
    simp only [access, changing, StateT.run, htext, Except.bind]
  | ok p =>
    obtain rfl := hpath p htext
    cases hcreate : fs.createFile (d.below file) with
    | error fault =>
      refine Or.inr ⟨fault, ?_⟩
      simp only [access, changing, StateT.run, htext, Except.bind, hcreate]
    | ok made =>
      obtain ⟨above, hroom, rfl⟩ := (createFile_below_eq_ok_iff hd hfile).mp hcreate
      exact Or.inl ⟨above, rfl, hroom, run_changing htext hcreate⟩

/-- In a file that was just made a text stands alone. -/
theorem HasRoom.run_append (h : fs.HasRoom d above file) (hfs : fs.HasHome)
    (hfile : Path.IsPlain file) {path : String} (hpath : Path.ofText path = .ok (d.below file))
    (text : String) : (access.append path text).run (fs.put (above ++ [file]) (.file "")) =
      (.ok (), (fs.put (above ++ [file]) (.file "")).put (above ++ [file]) (.file text)) := by
  have hempty := h.gains_put ""
  have happend := append_of_leads (h.leads_below hfs hfile hempty) hempty.kindAt?_self rfl text
  rw [String.empty_append] at happend
  exact run_changing hpath happend

/-- A file that was made and then filled has the text, and nothing else changed. -/
theorem HasRoom.gains_put_put (h : fs.HasRoom d above file) (hfs : fs.HasHome) (text : String) :
    fs.Gains (above ++ [file]) text
      ((fs.put (above ++ [file]) (.file "")).put (above ++ [file]) (.file text)) := by
  obtain ⟨-, hroom⟩ := h.of_gains h hfs (h.gains_put "")
  exact (h.gains_put "").trans (hroom.gains_put text)

/-- Writing a file for which there is room succeeds and changes nothing else. -/
theorem HasRoom.exists_writeText (h : fs.HasRoom d above file) (hfs : fs.HasHome)
    (hd : d.endsInSlash = false) (hfile : Path.IsPlain file) {path : String}
    (hpath : Path.ofText path = .ok (d.below file)) (text : String) :
    ∃ after, (access.writeText path text).run.run fs = (.ok (), after) ∧
      fs.Gains (above ++ [file]) text after ∧ after.Leads (d.below file) (above ++ [file]) := by
  have hcreate := (createFile_below_eq_ok_iff hd hfile).mpr ⟨above, h, rfl⟩
  have hcreated : (access.createFile path).run fs = (.ok (), _) := run_changing hpath hcreate
  have hgains := h.gains_put_put hfs text
  refine ⟨_, ?_, hgains, h.leads_below hfs hfile hgains⟩
  rw [FileAccess.writeText, run_bind (run_attempt hcreated)]
  exact run_attempt (h.run_append hfs hfile hpath text)

/-! ## Directories made -/

/-- Whether all that one file system has is in another, which has no other file. -/
structure AddsDirectories (fs after : FileSystem) : Prop where
  home : after.home = fs.home
  kept : ∀ {place kind}, fs.root.kindAt? place = some kind → after.root.kindAt? place = some kind
  noFile : ∀ {place text}, after.root.kindAt? place = some (.file text) →
    fs.root.kindAt? place = some (.file text)

theorem AddsDirectories.refl (fs : FileSystem) : fs.AddsDirectories fs := ⟨rfl, id, id⟩

theorem AddsDirectories.trans (h : fs.AddsDirectories mid) (h' : mid.AddsDirectories after) :
    fs.AddsDirectories after :=
  ⟨h'.home.trans h.home, h'.kept ∘ h.kept, h.noFile ∘ h'.noFile⟩

theorem AddsDirectories.grows (h : fs.AddsDirectories after) : fs.root.Grows after.root :=
  ⟨h.kept, fun hfile => ⟨_, h.kept hfile⟩⟩

/-- So it is when a directory is put where nothing was. -/
theorem addsDirectories_put {name : String} (habove : fs.root.kindAt? above = some .directory)
    (hnone : fs.root.kindAt? (above ++ [name]) = none) :
    fs.AddsDirectories (fs.put (above ++ [name]) (.directory [])) := by
  have hput : ∀ place, (fs.put (above ++ [name]) (.directory [])).root.kindAt? place =
      if place = above ++ [name] then some .directory else fs.root.kindAt? place :=
    FileTree.kindAt?_put habove (by simp [hnone]) rfl
  refine ⟨rfl, fun {place kind} hkind => ?_, fun {place text} hfile => ?_⟩
  · have hne : place ≠ above ++ [name] := by
      rintro rfl
      rw [hnone] at hkind
      cases hkind
    rw [hput, if_neg hne, hkind]
  · rw [hput] at hfile
    split at hfile
    · cases hfile
    · exact hfile

theorem addsDirectories_of_makeDirectory (h : fs.makeDirectory p = .ok after) :
    fs.AddsDirectories after := by
  unfold makeDirectory at h
  split at h
  · cases h
  · cases h
  · rename_i s name hs _
    split at h
    · cases h
    · rename_i henter
      obtain rfl := Except.ok.inj h
      have hin := isIn_of_find hs
      obtain ⟨hhere, hnone⟩ := hin.kindAt?_of_notFound henter
      exact addsDirectories_put (hhere ▸ hin.kindAt?_place) hnone
    · cases h

theorem addsDirectories_ensureDirectory (fs : FileSystem) (p : Path) :
    fs.AddsDirectories (fs.ensureDirectory p).2 := by
  unfold ensureDirectory
  split
  · exact addsDirectories_of_makeDirectory ‹_›
  · exact .refl fs

/-- Making a directory with every directory above it adds only directories, also when it fails. -/
theorem addsDirectories_makeDirectories (fs : FileSystem) (p : Path) (names : List String) :
    fs.AddsDirectories (fs.makeDirectories p names).2 := by
  induction names generalizing p with
  | nil => exact addsDirectories_ensureDirectory fs p
  | cons name names ih =>
    rw [makeDirectories]
    split
    · have hbelow := ih { p with names := (name :: names).reverse, endsInSlash := false }
      split
      · rename_i hmade
        rw [hmade] at hbelow
        exact hbelow.trans (addsDirectories_ensureDirectory _ p)
      · exact hbelow
    · exact addsDirectories_ensureDirectory fs p

theorem addsDirectories_makeAll (fs : FileSystem) (path : String) :
    fs.AddsDirectories ((makeAll path).run fs).2 := by
  simp only [makeAll, StateT.run]
  split
  · exact .refl fs
  · split
    · exact .refl fs
    · exact addsDirectories_makeDirectories fs _ _

end FileSystem

end SchemaTransfer
