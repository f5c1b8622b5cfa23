import Mathlib.Logic.Basic
import SchemaTransfer.Files.System

/-!
# Walks in trees that grow

At a place of a tree stands a directory or a file. A tree grows when every directory stays one and
every file stays a file, whatever its text becomes and whatever is added. Main statements: putting
a leaf into a directory changes what stands at one place only, and a walk that arrives somewhere
arrives at the same place once the tree has grown.
-/

namespace SchemaTransfer

namespace FileTree

/-- What stands at a place, without what is below it. -/
inductive Kind where
  | directory
  | file (text : String)
  deriving DecidableEq

/-- What a tree is, without what is below its top. -/
def kind : FileTree → Kind
  | file text => .file text
  | directory _ => .directory

/-- What stands at a place, without what is below it. -/
def kindAt? (t : FileTree) (place : List String) : Option Kind := (t.get? place).map kind

@[simp] theorem kindAt?_nil (t : FileTree) : t.kindAt? [] = some t.kind := rfl

theorem kindAt?_cons (t : FileTree) (name : String) (place : List String) :
    t.kindAt? (name :: place) =
      (t.entries.lookup name).bind fun below => below.kindAt? place := by
  cases h : t.entries.lookup name <;> simp [kindAt?, get?, h]

theorem get?_append (t : FileTree) (place more : List String) :
    t.get? (place ++ more) = (t.get? place).bind fun below => below.get? more := by
  induction place generalizing t with
  | nil => rfl
  | cons name place ih =>
    cases h : t.entries.lookup name <;> simp [get?, h, ih]

/-- Something without entries stands for itself: nothing is below it. -/
theorem kindAt?_leaf {leaf : FileTree} (h : leaf.entries = []) (place : List String) :
    leaf.kindAt? place = if place = [] then some leaf.kind else none := by
  cases place with
  | nil => rfl
  | cons name place => simp [kindAt?_cons, h]

theorem exists_of_kind_eq_directory {t : FileTree} (h : t.kind = .directory) :
    ∃ entries, t = .directory entries := by
  cases t with
  | file => cases h
  | directory entries => exact ⟨entries, rfl⟩

theorem entries_eq_nil_of_kind_eq_file {t : FileTree} {text : String} (h : t.kind = .file text) :
    t.entries = [] := by
  cases t with
  | file => rfl
  | directory => cases h

/-- Putting a leaf into a directory, where no directory stands yet, changes what stands at this one
place only. -/
theorem kindAt?_put {t leaf : FileTree} {above : List String} {name : String}
    (habove : t.kindAt? above = some .directory)
    (hfree : t.kindAt? (above ++ [name]) ≠ some .directory) (hleaf : leaf.entries = [])
    (place : List String) :
    (t.put (above ++ [name]) leaf).kindAt? place =
      if place = above ++ [name] then some leaf.kind else t.kindAt? place := by
  induction above generalizing t place with
  | nil =>
    cases place with
    | nil => simpa [put, kind] using habove.symm
    | cons n rest =>
      rw [List.nil_append] at hfree ⊢
      rw [put, put, kindAt?_cons, entries_directory, lookup_putEntry]
      by_cases hn : n = name
      · subst hn
        rw [if_pos rfl, Option.bind_some, kindAt?_leaf hleaf]
        cases rest with
        | nil => simp
        | cons m rest =>
          -- A file that stood here held nothing.
          have hbelow : t.kindAt? (n :: m :: rest) = none := by
            cases h : t.entries.lookup n with
            | none => simp [kindAt?_cons, h]
            | some u =>
              cases hu : u.kind with
              | directory => exact absurd (by simp [kindAt?_cons, h, hu]) hfree
              | file text =>
                simp [kindAt?_cons, h, entries_eq_nil_of_kind_eq_file hu]
          simp [hbelow]
      · simp [hn, kindAt?_cons]
  | cons d above ih =>
    rw [kindAt?_cons] at habove
    cases hd : t.entries.lookup d with
    | none => simp [hd] at habove
    | some u =>
      rw [hd, Option.bind_some] at habove
      rw [List.cons_append, kindAt?_cons, hd, Option.bind_some] at hfree
      cases place with
      | nil =>
        cases t with
        | file => simp [entries] at hd
        | directory entries => simp [put, kind]
      | cons n rest =>
        rw [List.cons_append, put, kindAt?_cons, entries_directory, lookup_putEntry]
        by_cases hn : n = d
        · subst hn
          rw [if_pos rfl, Option.bind_some, hd, Option.getD_some, ih habove hfree, kindAt?_cons, hd,
            Option.bind_some]
          simp
        · simp [hn, kindAt?_cons]

/-- Whether every directory stays a directory and every file a file. -/
structure Grows (t u : FileTree) : Prop where
  directory : ∀ {place}, t.kindAt? place = some .directory → u.kindAt? place = some .directory
  file : ∀ {place text}, t.kindAt? place = some (.file text) →
    ∃ text', u.kindAt? place = some (.file text')

theorem Grows.refl (t : FileTree) : t.Grows t := ⟨id, fun h => ⟨_, h⟩⟩

theorem Grows.trans {t u v : FileTree} (h : t.Grows u) (h' : u.Grows v) : t.Grows v where
  directory hp := h'.directory (h.directory hp)
  file hp := by
    obtain ⟨_, ht⟩ := h.file hp
    exact h'.file ht

theorem Grows.isSome {t u : FileTree} (h : t.Grows u) {place : List String}
    (hp : (t.kindAt? place).isSome = true) : (u.kindAt? place).isSome = true := by
  obtain ⟨kind, hkind⟩ := Option.isSome_iff_exists.mp hp
  cases kind with
  | directory => simp [h.directory hkind]
  | file text =>
    obtain ⟨text', ht⟩ := h.file hkind
    simp [ht]

end FileTree

/-- Whether a name is that of an entry, and not too long for one. -/
structure Path.IsPlain (name : String) : Prop where
  dot : name ≠ "."
  dots : name ≠ ".."
  length : name.utf8ByteSize ≤ nameLimit

namespace FileSystem

/-! ## Where a walk is -/

/-- Whether a walk in a tree is at a spot: it went down from the top by entries. -/
inductive Spot.IsIn (root : FileTree) : Spot → Prop
  | top : IsIn root ⟨[], root⟩
  | down {s : Spot} {name : String} {t : FileTree} (h : IsIn root s)
      (ht : s.here.entries.lookup name = some t) : IsIn root ⟨(name, s.here) :: s.trail, t⟩

namespace Spot

@[simp] theorem place_below (s : Spot) (name : String) (t : FileTree) :
    (Spot.mk ((name, s.here) :: s.trail) t).place = s.place ++ [name] := by
  simp [place]

theorem place_above (s : Spot) : s.above.place = s.place.dropLast := by
  obtain ⟨trail, here⟩ := s
  cases trail <;> simp [above, place]

variable {root : FileTree} {s u : Spot} {name : String}

/-- What is here is what stands at the place in the tree. -/
theorem IsIn.get?_place (h : s.IsIn root) : root.get? s.place = some s.here := by
  induction h with
  | top => rfl
  | @down s name t h ht ih => simp [FileTree.get?_append, ih, FileTree.get?, ht]

theorem IsIn.kindAt?_place (h : s.IsIn root) : root.kindAt? s.place = some s.here.kind := by
  rw [FileTree.kindAt?, h.get?_place, Option.map_some]

/-- What stands one name further is what the name stands for here. -/
theorem IsIn.kindAt?_below (h : s.IsIn root) (name : String) :
    root.kindAt? (s.place ++ [name]) = (s.here.entries.lookup name).map FileTree.kind := by
  rw [FileTree.kindAt?, FileTree.get?_append, h.get?_place, Option.bind_some]
  cases hl : s.here.entries.lookup name <;> simp [FileTree.get?, hl]

theorem IsIn.above (h : s.IsIn root) : s.above.IsIn root := by
  cases h with
  | top => exact .top
  | down h ht => exact h

theorem enter_dot (h : s.here.kind = .directory) : s.enter "." = .ok s := by
  obtain ⟨entries, hhere⟩ := FileTree.exists_of_kind_eq_directory h
  rw [enter, hhere]
  rfl

theorem enter_dots (h : s.here.kind = .directory) : s.enter ".." = .ok s.above := by
  obtain ⟨entries, hhere⟩ := FileTree.exists_of_kind_eq_directory h
  rw [enter, hhere]
  rfl

/-- A plain name is looked up in the directory. -/
theorem enter_plain (h : s.here.kind = .directory) (hname : Path.IsPlain name) :
    s.enter name = match s.here.entries.lookup name with
      | some t => .ok ⟨(name, s.here) :: s.trail, t⟩
      | none => .error .notFound := by
  obtain ⟨entries, hhere⟩ := FileTree.exists_of_kind_eq_directory h
  cases hlookup : entries.lookup name <;>
    simp [enter, hhere, hname.dot, hname.dots, Nat.not_lt.mpr hname.length, hlookup]

/-- A step looks a name up in a directory, unless it fails before it looks. -/
theorem enter_cases (h : s.enter name = .ok u ∨ s.enter name = .error .notFound) :
    s.here.kind = .directory ∧ (name = "." ∨ name = ".." ∨ Path.IsPlain name) := by
  unfold enter at h
  split at h
  · simp at h
  · rename_i entries hhere
    refine ⟨by rw [hhere]; rfl, ?_⟩
    by_cases hdot : name = "."
    · exact Or.inl hdot
    by_cases hdots : name = ".."
    · exact Or.inr (Or.inl hdots)
    by_cases hlength : Path.nameLimit < name.utf8ByteSize
    · simp [hdot, hdots, hlength] at h
    · exact Or.inr (Or.inr ⟨hdot, hdots, Nat.not_lt.mp hlength⟩)

/-- A step that succeeds stays, goes back, or goes down to what the name stands for. -/
theorem enter_ok_cases (he : s.enter name = .ok u) : s.here.kind = .directory ∧
    ((name = "." ∧ u = s) ∨ (name = ".." ∧ u = s.above) ∨ (Path.IsPlain name ∧
      ∃ t, s.here.entries.lookup name = some t ∧ u = ⟨(name, s.here) :: s.trail, t⟩)) := by
  obtain ⟨hhere, rfl | rfl | hplain⟩ := enter_cases (Or.inl he)
  · rw [enter_dot hhere] at he
    exact ⟨hhere, Or.inl ⟨rfl, (Except.ok.inj he).symm⟩⟩
  · rw [enter_dots hhere] at he
    exact ⟨hhere, Or.inr (Or.inl ⟨rfl, (Except.ok.inj he).symm⟩)⟩
  · rw [enter_plain hhere hplain] at he
    split at he
    · rename_i t ht
      exact ⟨hhere, Or.inr (Or.inr ⟨hplain, t, ht, (Except.ok.inj he).symm⟩)⟩
    · cases he

theorem IsIn.enter (h : s.IsIn root) (he : s.enter name = .ok u) : u.IsIn root := by
  obtain ⟨-, ⟨-, rfl⟩ | ⟨-, rfl⟩ | ⟨-, t, ht, rfl⟩⟩ := enter_ok_cases he
  · exact h
  · exact h.above
  · exact h.down ht

/-- Where a step finds nothing, there is nothing in the directory. -/
theorem IsIn.kindAt?_of_notFound (h : s.IsIn root) (he : s.enter name = .error .notFound) :
    s.here.kind = .directory ∧ root.kindAt? (s.place ++ [name]) = none := by
  obtain ⟨hhere, rfl | rfl | hplain⟩ := enter_cases (u := s) (Or.inr he)
  · rw [enter_dot hhere] at he
    cases he
  · rw [enter_dots hhere] at he
    cases he
  · rw [enter_plain hhere hplain] at he
    split at he
    · cases he
    · rename_i hlookup
      exact ⟨hhere, by rw [h.kindAt?_below, hlookup, Option.map_none]⟩

theorem IsIn.walk {names : List String} (h : s.IsIn root) (hw : s.walk names = .ok u) :
    u.IsIn root := by
  induction names generalizing s with
  | nil => exact Except.ok.inj hw ▸ h
  | cons name names ih =>
    rw [Spot.walk] at hw
    cases he : s.enter name with
    | ok next =>
      rw [he] at hw
      exact ih (h.enter he) hw
    | error fault =>
      rw [he] at hw
      cases hw

/-! ## The same walk in a grown tree -/

variable {grown : FileTree} {s' : Spot}

/-- A step that succeeds leads to the same place in a grown tree. -/
theorem IsIn.exists_enter (h : s.IsIn root) (h' : s'.IsIn grown) (hgrows : root.Grows grown)
    (hplace : s'.place = s.place) (he : s.enter name = .ok u) :
    ∃ u', s'.enter name = .ok u' ∧ u'.place = u.place := by
  obtain ⟨hhere, hcases⟩ := enter_ok_cases he
  have hhere' : s'.here.kind = .directory := by
    have hkind := hgrows.directory (hhere ▸ h.kindAt?_place)
    rw [← hplace, h'.kindAt?_place] at hkind
    exact Option.some.inj hkind
  rcases hcases with ⟨rfl, rfl⟩ | ⟨rfl, rfl⟩ | ⟨hplain, t, ht, rfl⟩
  · exact ⟨s', enter_dot hhere', hplace⟩
  · exact ⟨s'.above, enter_dots hhere', by rw [place_above, place_above, hplace]⟩
  · have hsome := hgrows.isSome (by rw [h.kindAt?_below name, ht]; rfl)
    rw [← hplace, h'.kindAt?_below, Option.isSome_map] at hsome
    obtain ⟨t', ht'⟩ := Option.isSome_iff_exists.mp hsome
    refine ⟨⟨(name, s'.here) :: s'.trail, t'⟩, ?_, ?_⟩
    · rw [enter_plain hhere' hplain, ht']
    · rw [place_below, place_below, hplace]

/-- So does a walk. -/
theorem IsIn.exists_walk {names : List String} (h : s.IsIn root) (h' : s'.IsIn grown)
    (hgrows : root.Grows grown) (hplace : s'.place = s.place) (hw : s.walk names = .ok u) :
    ∃ u', s'.walk names = .ok u' ∧ u'.place = u.place := by
  induction names generalizing s s' with
  | nil => exact ⟨s', rfl, Except.ok.inj hw ▸ hplace⟩
  | cons name names ih =>
    rw [Spot.walk] at hw
    cases he : s.enter name with
    | error fault =>
      rw [he] at hw
      cases hw
    | ok next =>
      rw [he] at hw
      obtain ⟨next', he', hnext⟩ := h.exists_enter h' hgrows hplace he
      obtain ⟨u', hw', hu⟩ := ih (h.enter he) (h'.enter he') hnext hw
      exact ⟨u', by rw [Spot.walk, he']; exact hw', hu⟩

end Spot

/-- Whether the directory where a run takes place is there. -/
def HasHome (fs : FileSystem) : Prop := ∃ s, fs.top.walk fs.home = .ok s

/-- Whether a path leads to a place. -/
def Leads (fs : FileSystem) (p : Path) (place : List String) : Prop :=
  ∃ s, fs.find p = .ok s ∧ s.place = place

variable {fs grown : FileSystem} {p : Path} {place : List String}

theorem isIn_start (fs : FileSystem) (p : Path) : (fs.start p).IsIn fs.root := by
  unfold start
  split
  · exact .top
  · split
    · rename_i s hs
      exact Spot.IsIn.walk .top hs
    · exact .top

theorem isIn_of_find {s : Spot} (h : fs.find p = .ok s) : s.IsIn fs.root :=
  (isIn_start fs p).walk h

/-- Walks start at the same place. -/
theorem place_start_of_grows (hgrows : fs.root.Grows grown.root) (hhome : grown.home = fs.home)
    (h : fs.HasHome) (p : Path) : (grown.start p).place = (fs.start p).place := by
  obtain ⟨s, hs⟩ := h
  obtain ⟨s', hs', hplace⟩ := Spot.IsIn.exists_walk .top .top hgrows rfl hs
  unfold start
  rw [hhome]
  split
  · rfl
  · rw [hs, show grown.top.walk fs.home = .ok s' from hs']
    exact hplace

theorem HasHome.of_grows (h : fs.HasHome) (hgrows : fs.root.Grows grown.root)
    (hhome : grown.home = fs.home) : grown.HasHome := by
  obtain ⟨s, hs⟩ := h
  obtain ⟨s', hs', _⟩ := Spot.IsIn.exists_walk .top .top hgrows rfl hs
  exact ⟨s', by rw [hhome]; exact hs'⟩

/-- A path leads to the same place once the tree has grown. -/
theorem Leads.of_grows (h : fs.Leads p place) (hgrows : fs.root.Grows grown.root)
    (hhome : grown.home = fs.home) (hfs : fs.HasHome) : grown.Leads p place := by
  obtain ⟨s, hs, rfl⟩ := h
  exact (isIn_start fs p).exists_walk (isIn_start grown p) hgrows
    (place_start_of_grows hgrows hhome hfs p) hs

end FileSystem

end SchemaTransfer
