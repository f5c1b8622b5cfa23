import SchemaTransfer.Proofs.Snapshot.Order
import SchemaTransfer.Proofs.Text.Bytes

/-!
# Rows in groups

Grouping rows by a key gives one group for each key that occurs, in ascending order of the keys,
with the rows of the key in a stable order of their own. Main statement: the stretches of equal keys
among rows that are ordered by the key first make up this grouping.
-/

namespace SchemaTransfer.Snapshot

variable {α : Type} {key : α → List String}

/-- Rows grouped by a key that is a list of names. -/
structure IsGrouping (key : α → List String) (within : α → α → Ordering) (rows : List α)
    (groups : List (List String × List α)) : Prop where
  /-- The keys ascend, name by name in the order of the bytes, so there is one group for each. -/
  ascending : groups.Pairwise fun g h => g.1.map Text.bytes < h.1.map Text.bytes
  /-- There is a group for exactly the keys that occur. -/
  mem_keys : ∀ names, names ∈ groups.map Prod.fst ↔ ∃ r ∈ rows, key r = names
  /-- A group holds the rows of its key in stable order. -/
  members : ∀ g ∈ groups, IsStableOrder within (rows.filter fun r => key r = g.1) g.2

/-- Keys that ascend differ. -/
private theorem pairwise_ne_of_ascending {groups : List (List String × List α)}
    (h : groups.Pairwise fun g h => g.1.map Text.bytes < h.1.map Text.bytes) :
    groups.Pairwise fun g h => g.1 ≠ h.1 := by
  refine h.imp fun {g k} hlt heq => ?_
  rw [heq] at hlt
  exact List.lt_irrefl _ hlt

namespace IsGrouping

variable {within : α → α → Ordering} {rows : List α} {groups : List (List String × List α)}

/-- The rows of a group have its key. -/
theorem key_eq (h : IsGrouping key within rows groups) {g : List String × List α} (hg : g ∈ groups)
    {r : α} (hr : r ∈ g.2) : key r = g.1 := by
  have hmem := (h.members g hg).perm.mem_iff.mp hr
  simpa using (List.mem_filter.mp hmem).2

/-- No group is empty. -/
theorem ne_nil (h : IsGrouping key within rows groups) {g : List String × List α}
    (hg : g ∈ groups) : g.2 ≠ [] := by
  obtain ⟨r, hr, hkey⟩ := (h.mem_keys g.1).mp (List.mem_map_of_mem hg)
  have hmem := (h.members g hg).perm.mem_iff.mpr (List.mem_filter.mpr ⟨hr, by simpa using hkey⟩)
  exact List.ne_nil_of_mem hmem

/-- No two groups have the same key. -/
theorem pairwise_ne (h : IsGrouping key within rows groups) :
    groups.Pairwise fun g h => g.1 ≠ h.1 :=
  pairwise_ne_of_ascending h.ascending

end IsGrouping

/-! ## Stretches of equal keys -/

/-- The stretches of rows with equal keys, each with its key. -/
def runs (key : α → List String) : List α → List (List String × List α)
  | [] => []
  | r :: rest =>
    match runs key rest with
    | [] => [(key r, [r])]
    | g :: more =>
      if key r = g.1 then (g.1, r :: g.2) :: more else (key r, [r]) :: g :: more

/-- The stretches of rows are the rows. -/
theorem flatMap_runs (key : α → List String) (rows : List α) : (runs key rows).flatMap Prod.snd = rows := by
  fun_induction runs key rows with
  | case1 => rfl
  | case2 r rest hrest ih => simpa [hrest] using ih
  | case3 r rest g more hrest hkey ih =>
    rw [hrest] at ih
    simpa using ih
  | case4 r rest g more hrest hkey ih =>
    rw [hrest] at ih
    simpa using ih

/-- The rows of a stretch have its key. -/
theorem key_of_mem_runs {rows : List α} {g : List String × List α} (hg : g ∈ runs key rows)
    {r : α} (hr : r ∈ g.2) : key r = g.1 := by
  fun_induction runs key rows generalizing g with
  | case1 => cases hg
  | case2 a rest hrest ih =>
    obtain rfl := List.mem_singleton.mp hg
    rw [List.mem_singleton.mp hr]
  | case3 a rest g' more hrest hkey ih =>
    rw [hrest] at ih
    rcases List.mem_cons.mp hg with rfl | hg
    · rcases List.mem_cons.mp hr with rfl | hr
      · exact hkey
      · exact ih (g := g') List.mem_cons_self hr
    · exact ih (List.mem_cons_of_mem _ hg) hr
  | case4 a rest g' more hrest hkey ih =>
    rw [hrest] at ih
    rcases List.mem_cons.mp hg with rfl | hg
    · rw [List.mem_singleton.mp hr]
    · exact ih hg hr

/-- No stretch is empty. -/
theorem ne_nil_of_mem_runs {rows : List α} {g : List String × List α} (hg : g ∈ runs key rows) :
    g.2 ≠ [] := by
  fun_induction runs key rows generalizing g with
  | case1 => cases hg
  | case2 a rest hrest ih =>
    obtain rfl := List.mem_singleton.mp hg
    exact List.cons_ne_nil _ _
  | case3 a rest g' more hrest hkey ih =>
    rw [hrest] at ih
    rcases List.mem_cons.mp hg with rfl | hg
    · exact List.cons_ne_nil _ _
    · exact ih (List.mem_cons_of_mem _ hg)
  | case4 a rest g' more hrest hkey ih =>
    rw [hrest] at ih
    rcases List.mem_cons.mp hg with rfl | hg
    · exact List.cons_ne_nil _ _
    · exact ih hg

/-- The keys of the stretches of ordered rows ascend. -/
theorem pairwise_runs {rows : List α}
    (h : rows.Pairwise fun a b => (compareOn key a b).isLE = true) :
    (runs key rows).Pairwise fun g h => compare g.1 h.1 = .lt := by
  fun_induction runs key rows with
  | case1 => exact List.Pairwise.nil
  | case2 r rest hrest ih => exact List.pairwise_singleton _ _
  | case3 r rest g more hrest hkey ih =>
    have hrun := ih h.of_cons
    rw [hrest, List.pairwise_cons] at hrun
    exact List.pairwise_cons.mpr hrun
  | case4 r rest g more hrest hkey ih =>
    have hrun := ih h.of_cons
    rw [hrest] at hrun
    -- The first row of the next stretch has a greater key, and later keys are greater still.
    have hlt : compare (key r) g.1 = .lt := by
      have hg : g ∈ runs key rest := hrest ▸ List.mem_cons_self
      obtain ⟨s, hs⟩ := List.exists_mem_of_ne_nil _ (ne_nil_of_mem_runs hg)
      have hmem : s ∈ rest := by
        rw [← flatMap_runs key rest]
        exact List.mem_flatMap.mpr ⟨g, hg, hs⟩
      have hle := List.rel_of_pairwise_cons h hmem
      rw [compareOn, key_of_mem_runs hg hs] at hle
      cases hcmp : compare (key r) g.1 with
      | lt => rfl
      | eq => exact absurd (Std.compare_eq_iff_eq.mp hcmp) hkey
      | gt => rw [hcmp] at hle; cases hle
    refine List.pairwise_cons.mpr ⟨fun k hk => ?_, hrun⟩
    rcases List.mem_cons.mp hk with rfl | hk
    · exact hlt
    · exact Std.TransCmp.lt_trans hlt (List.rel_of_pairwise_cons hrun hk)

/-- A group of several holds all their rows of its key. -/
theorem filter_flatMap_eq {groups : List (List String × List α)}
    (hkey : ∀ g ∈ groups, ∀ r ∈ g.2, key r = g.1) (hne : groups.Pairwise fun g h => g.1 ≠ h.1)
    {g : List String × List α} (hg : g ∈ groups) :
    (groups.flatMap Prod.snd).filter (fun r => key r = g.1) = g.2 := by
  induction groups with
  | nil => cases hg
  | cons h groups ih =>
    rw [List.pairwise_cons] at hne
    have hrest := fun g hg => hkey g (List.mem_cons_of_mem h hg)
    rw [List.flatMap_cons, List.filter_append]
    rcases List.mem_cons.mp hg with rfl | hg
    · have hown : g.2.filter (fun r => key r = g.1) = g.2 :=
        List.filter_eq_self.mpr fun r hr => by simpa using hkey g List.mem_cons_self r hr
      have hother : (groups.flatMap Prod.snd).filter (fun r => key r = g.1) = [] := by
        refine List.filter_eq_nil_iff.mpr fun r hr => ?_
        obtain ⟨k, hk, hr⟩ := List.mem_flatMap.mp hr
        simpa [hrest k hk r hr] using (hne.1 k hk).symm
      rw [hown, hother, List.append_nil]
    · have hother : h.2.filter (fun r => key r = g.1) = [] := by
        refine List.filter_eq_nil_iff.mpr fun r hr => ?_
        simpa [hkey h List.mem_cons_self r hr] using hne.1 g hg
      rw [hother, List.nil_append, ih hrest hne.2 hg]

/-- Rows ordered by the key, then by a second criterion, are the rows of a grouping, one group
after the other. -/
theorem exists_isGrouping (key : α → List String) (within : α → α → Ordering)
    [Std.TransCmp within] (rows : List α) :
    ∃ groups, ordered (compareLex (compareOn key) within) rows = groups.flatMap Prod.snd ∧
      IsGrouping key within rows groups := by
  have hout := isStableOrder_ordered (compareLex (compareOn key) within) rows
  generalize hordered : ordered (compareLex (compareOn key) within) rows = out at hout
  have hsorted : out.Pairwise fun a b => (compareOn key a b).isLE = true :=
    hout.sorted.imp fun {a b} hab => (Ordering.isLE_then_iff_and.mp hab).1
  have hascending := (pairwise_runs hsorted).imp Text.map_bytes_lt_of_compare
  refine ⟨runs key out, (flatMap_runs key out).symm, hascending, fun names => ?_, fun g hg => ?_⟩
  · rw [List.mem_map]
    constructor
    · rintro ⟨g, hg, rfl⟩
      obtain ⟨r, hr⟩ := List.exists_mem_of_ne_nil _ (ne_nil_of_mem_runs hg)
      have hmem : r ∈ out := by
        rw [← flatMap_runs key out]
        exact List.mem_flatMap.mpr ⟨g, hg, hr⟩
      exact ⟨r, hout.perm.mem_iff.mp hmem, key_of_mem_runs hg hr⟩
    · rintro ⟨r, hr, rfl⟩
      have hmem : r ∈ (runs key out).flatMap Prod.snd :=
        (flatMap_runs key out).symm ▸ hout.perm.mem_iff.mpr hr
      obtain ⟨g, hg, hr⟩ := List.mem_flatMap.mp hmem
      exact ⟨g, hg, (key_of_mem_runs hg hr).symm⟩
  · have hfilter := filter_flatMap_eq (fun g hg r hr => key_of_mem_runs hg hr)
      (pairwise_ne_of_ascending hascending) hg
    have hclass (a b : α) (ha : decide (key a = g.1) = true) :
        compareOn key a b = .eq ↔ decide (key b = g.1) = true := by
      rw [compareOn, Std.compare_eq_iff_eq, decide_eq_true_iff, of_decide_eq_true ha]
      exact eq_comm
    rw [flatMap_runs, ← hordered, filter_ordered_compareLex rows hclass] at hfilter
    rw [← hfilter]
    exact isStableOrder_ordered within _

end SchemaTransfer.Snapshot
