/-!
# Trees of files

A directory holds files and directories under names of their own. A place in a tree is the list of
the names on the way to it. Main statement: what is put under a name of a directory is found there,
and every other name has what it had.
-/

namespace SchemaTransfer

/-- A file or a directory. -/
inductive FileTree where
  | file (text : String)
  | directory (entries : List (String × FileTree))

namespace FileTree

/-- What a directory holds; a file holds nothing. -/
def entries : FileTree → List (String × FileTree)
  | file _ => []
  | directory entries => entries

@[simp] theorem entries_directory (es : List (String × FileTree)) :
    (directory es).entries = es := rfl

/-- What stands at a place. -/
def get? (t : FileTree) : List String → Option FileTree
  | [] => some t
  | name :: place => (t.entries.lookup name).bind fun below => below.get? place

/-- Entries with something put under a name. -/
def putEntry (name : String) (t : FileTree) : List (String × FileTree) → List (String × FileTree)
  | [] => [(name, t)]
  | (other, u) :: rest =>
    if other = name then (name, t) :: rest else (other, u) :: putEntry name t rest

theorem lookup_putEntry (name : String) (t : FileTree) (es : List (String × FileTree))
    (other : String) :
    (putEntry name t es).lookup other = if other = name then some t else es.lookup other := by
  induction es with
  | nil => by_cases h : other = name <;> simp [putEntry, List.lookup_cons, h, beq_eq_false_iff_ne.mpr]
  | cons e es ih =>
    obtain ⟨n, u⟩ := e
    by_cases hn : n = name
    · subst hn
      by_cases h : other = n
      · simp [putEntry, h]
      · have hf : (other == n) = false := by simpa using h
        simp [putEntry, List.lookup_cons, hf, h]
    · by_cases h : other = n
      · have hne : other ≠ name := fun he => hn (h ▸ he)
        simp [putEntry, hn, h]
      · have hf : (other == n) = false := by simpa using h
        simp only [putEntry, hn, if_false, List.lookup_cons, hf, ih]

/-- A tree with something put at a place, and directories on the way to it. -/
def put (t : FileTree) : List String → FileTree → FileTree
  | [], new => new
  | name :: place, new =>
    let below := ((t.entries.lookup name).getD (directory [])).put place new
    directory (putEntry name below t.entries)

mutual

/-- Every file with its place. -/
def files : FileTree → List (List String × String)
  | file text => [([], text)]
  | directory entries => filesOf entries

/-- Every file of the entries with its place. -/
def filesOf : List (String × FileTree) → List (List String × String)
  | [] => []
  | (name, t) :: rest => (t.files.map fun f => (name :: f.1, f.2)) ++ filesOf rest

end

end FileTree

end SchemaTransfer
