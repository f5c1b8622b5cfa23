import SchemaTransfer.Files.Access
import SchemaTransfer.Files.Path

/-!
# Paths of files in a directory

The path of a file in a directory is written with a slash between the two, unless the directory
already ends in one. Main statement: whatever the directory is, the paths of its files differ in
their last names only.
-/

namespace SchemaTransfer

namespace Path

theorem splitSlashes_ne_nil (cs : List Char) : splitSlashes cs ≠ [] := by
  fun_induction splitSlashes cs <;> simp

/-- The parts of two texts with a slash between them are those of both. -/
theorem splitSlashes_append (front rest : List Char) :
    splitSlashes (front ++ '/' :: rest) = splitSlashes front ++ splitSlashes rest := by
  fun_induction splitSlashes front with
  | case1 => simp [splitSlashes]
  | case2 cs ih => simp [splitSlashes, ih]
  | case3 c cs hc part parts hparts ih => simp [splitSlashes, hc, ih, hparts]
  | case4 c cs hc hparts ih => exact absurd hparts (splitSlashes_ne_nil cs)

/-- A text without a slash is one part. -/
theorem splitSlashes_of_not_mem {cs : List Char} (h : '/' ∉ cs) : splitSlashes cs = [cs] := by
  induction cs with
  | nil => rfl
  | cons c cs ih =>
    have hc : c ≠ '/' := fun he => h (he ▸ List.mem_cons_self)
    simp [splitSlashes, hc, ih fun hcs => h (List.mem_cons_of_mem _ hcs)]

/-- The parts of the path of a file are those that belong to the directory, then its name. -/
theorem splitSlashes_pathInside (directory : String) : ∃ above, ∀ file : String,
    '/' ∉ file.toList → splitSlashes (pathInside directory file).toList = above ++ [file.toList] := by
  by_cases hempty : directory = ""
  · refine ⟨[], fun file hfile => ?_⟩
    simp [pathInside, hempty, splitSlashes_of_not_mem hfile]
  · by_cases hslash : Text.endsWith ['/'] directory = true
    · obtain ⟨front, hfront⟩ := Option.isSome_iff_exists.mp hslash
      rw [Text.beforeEnding?_eq_some_iff] at hfront
      refine ⟨splitSlashes front, fun file hfile => ?_⟩
      rw [pathInside, if_pos (Or.inr hslash), String.toList_append, hfront, List.append_assoc,
        List.singleton_append, splitSlashes_append, splitSlashes_of_not_mem hfile]
    · refine ⟨splitSlashes directory.toList, fun file hfile => ?_⟩
      rw [pathInside, if_neg (by simp [hempty, hslash])]
      simp [splitSlashes_append, splitSlashes_of_not_mem hfile]

/-- The path of a file in the directory of a path. -/
def below (d : Path) (file : String) : Path :=
  { d with names := d.names ++ [file], endsInSlash := false }

@[simp] theorem parent_below (d : Path) (file : String) :
    (d.below file).parent = { d with endsInSlash := false } := by
  simp [parent, below]

/-- The paths of the files in a directory, written out, are those of files in one path. -/
theorem exists_ofText_pathInside (directory : String) : ∃ d : Path, d.endsInSlash = false ∧
    ∀ file p, file ≠ "" → '/' ∉ file.toList → ofText (pathInside directory file) = .ok p →
      p = d.below file := by
  obtain ⟨above, habove⟩ := splitSlashes_pathInside directory
  let names := above.map String.ofList
  refine ⟨⟨names.head? = some "", names.filter (· != ""), false⟩, rfl, ?_⟩
  intro file p hne hfile hp
  have hparts : (splitSlashes (pathInside directory file).toList).map String.ofList =
      names ++ [file] := by
    rw [habove file hfile, List.map_append, List.map_singleton, String.ofList_toList]
  unfold ofText at hp
  simp only [hparts] at hp
  repeat' split at hp
  any_goals cases hp
  have hhead : decide ((names ++ [file]).head? = some "") = decide (names.head? = some "") := by
    cases names <;> simp [hne]
  have hnames : (names ++ [file]).filter (· != "") = names.filter (· != "") ++ [file] := by
    simp [hne]
  have hlast : decide ((names ++ [file]).getLast? = some "") = false := by simp [hne]
  simp only [below, hhead, hnames, hlast]

end Path

end SchemaTransfer
