import Mathlib.Data.List.Sort
import SchemaTransfer.Snapshot

/-!
# Rows in a stable order

Rows are put in order without changing the order of rows with equal keys. There is only one way
to do so. Main statements: rows whose keys differ come in one order, however they stood before; rows
in order stay as they are; and among rows ordered by a first and a second criterion, those that the
first does not tell apart stand as if they alone had been ordered by the second.
-/

namespace SchemaTransfer.Snapshot

variable {α : Type} (cmp first second : α → α → Ordering)

/-- The same rows in order, with rows that are not told apart in the order in which they were. -/
structure IsStableOrder (rows out : List α) : Prop where
  perm : out.Perm rows
  sorted : out.Pairwise fun a b => (cmp a b).isLE = true
  stable : ∀ a, out.filter (fun b => cmp a b = .eq) = rows.filter (fun b => cmp a b = .eq)

variable {cmp first second} {rows out : List α}

/-- Ordering rows is stable. -/
theorem isStableOrder_ordered (cmp : α → α → Ordering) [Std.TransCmp cmp] (rows : List α) :
    IsStableOrder cmp rows (ordered cmp rows) := by
  have htrans (a b c : α) (hab : (cmp a b).isLE = true) (hbc : (cmp b c).isLE = true) :
      (cmp a c).isLE = true := Std.TransCmp.isLE_trans hab hbc
  have htotal (a b : α) : ((cmp a b).isLE || (cmp b a).isLE) = true := by
    have hswap : cmp b a = (cmp a b).swap := Std.OrientedCmp.eq_swap
    rw [hswap]
    cases cmp a b <;> rfl
  have hperm : (ordered cmp rows).Perm rows := List.mergeSort_perm _ _
  refine ⟨hperm, List.pairwise_mergeSort htrans htotal rows, fun a => ?_⟩
  -- The rows equal to `a` are in order as they stand, so sorting keeps them as a sublist.
  have hclass : (rows.filter fun b => cmp a b = .eq).Pairwise fun b c => (cmp b c).isLE = true := by
    refine List.pairwise_of_forall_mem_list fun b hb c hc => ?_
    have hab : cmp a b = .eq := by simpa using (List.mem_filter.mp hb).2
    have hac : cmp a c = .eq := by simpa using (List.mem_filter.mp hc).2
    rw [Std.TransCmp.congr_left (Std.OrientedCmp.eq_comm.mp hab), hac]
    rfl
  have hsub := (List.sublist_mergeSort htrans htotal hclass List.filter_sublist).filter
    fun b => cmp a b = .eq
  rw [List.filter_filter] at hsub
  simp only [Bool.and_self] at hsub
  exact (hsub.eq_of_length (hperm.filter _).length_eq.symm).symm

/-- Two orders of rows that leave the same rows of each class in the same order agree. -/
private theorem eq_of_filter_eq [Std.TransCmp cmp] {xs ys : List α}
    (hxs : xs.Pairwise fun a b => (cmp a b).isLE = true)
    (hys : ys.Pairwise fun a b => (cmp a b).isLE = true)
    (h : ∀ a, xs.filter (fun b => cmp a b = .eq) = ys.filter (fun b => cmp a b = .eq)) :
    xs = ys := by
  have hself (a : α) : cmp a a = .eq := Std.ReflCmp.compare_self
  have hmem (xs ys : List α) (h : ∀ a, xs.filter (fun b => cmp a b = .eq) =
      ys.filter (fun b => cmp a b = .eq)) (a : α) (ha : a ∈ xs) : a ∈ ys := by
    have hmem : a ∈ xs.filter fun b => cmp a b = .eq :=
      List.mem_filter.mpr ⟨ha, by simpa using hself a⟩
    exact (List.mem_filter.mp (h a ▸ hmem)).1
  induction xs generalizing ys with
  | nil =>
    cases ys with
    | nil => rfl
    | cons b ys => exact absurd (hmem _ _ (fun a => (h a).symm) b List.mem_cons_self) (by simp)
  | cons a xs ih =>
    cases ys with
    | nil => exact absurd (hmem _ _ h a List.mem_cons_self) (by simp)
    | cons b ys =>
      rw [List.pairwise_cons] at hxs hys
      -- Each head is at most the other one, so both are first in one class.
      have hab : (cmp a b).isLE = true := by
        rcases List.mem_cons.mp (hmem _ _ (fun c => (h c).symm) b List.mem_cons_self) with rfl | hb
        · rw [hself]; rfl
        · exact hxs.1 b hb
      have hba : (cmp b a).isLE = true := by
        rcases List.mem_cons.mp (hmem _ _ h a List.mem_cons_self) with rfl | ha
        · rw [hself]; rfl
        · exact hys.1 a ha
      have heq : cmp a b = .eq := Std.OrientedCmp.isLE_antisymm hab hba
      have hhead := h a
      rw [List.filter_cons_of_pos (by simpa using hself a),
        List.filter_cons_of_pos (by simpa using heq)] at hhead
      obtain ⟨rfl, -⟩ := List.cons.inj hhead
      refine congrArg (a :: ·) (ih hxs.2 hys.2 fun c => ?_)
      have hc := h c
      by_cases hca : cmp c a = .eq
      · rw [List.filter_cons_of_pos (by simpa using hca),
          List.filter_cons_of_pos (by simpa using hca)] at hc
        exact (List.cons.inj hc).2
      · rwa [List.filter_cons_of_neg (by simpa using hca),
          List.filter_cons_of_neg (by simpa using hca)] at hc

/-- The stable order of rows is the one in which they are put. -/
theorem IsStableOrder.eq_ordered [Std.TransCmp cmp] (h : IsStableOrder cmp rows out) :
    out = ordered cmp rows :=
  have hordered := isStableOrder_ordered cmp rows
  eq_of_filter_eq h.sorted hordered.sorted fun a => (h.stable a).trans (hordered.stable a).symm

/-- Rows in order stay as they are. -/
theorem ordered_ordered [Std.TransCmp cmp] (rows : List α) :
    ordered cmp (ordered cmp rows) = ordered cmp rows :=
  have hsorted := (isStableOrder_ordered cmp rows).sorted
  (IsStableOrder.eq_ordered ⟨.refl _, hsorted, fun _ => rfl⟩).symm

/-- Rows with different keys come in the same order, however they stood before. -/
theorem ordered_eq_of_perm [Std.TransCmp cmp] {κ : Type} {key : α → κ}
    (hkey : ∀ a b, cmp a b = .eq → key a = key b) {rows others : List α}
    (hperm : rows.Perm others) (hnodup : (rows.map key).Nodup) :
    ordered cmp rows = ordered cmp others := by
  have hrows := isStableOrder_ordered cmp rows
  have hothers := isStableOrder_ordered cmp others
  refine List.Perm.eq_of_pairwise (fun a b ha hb hab hba => ?_) hrows.sorted hothers.sorted
    (hrows.perm.trans (hperm.trans hothers.perm.symm))
  have heq : key a = key b := hkey a b (Std.OrientedCmp.isLE_antisymm hab hba)
  exact List.inj_on_of_nodup_map hnodup (hrows.perm.subset ha)
    (hperm.symm.subset (hothers.perm.subset hb)) heq

/-- Rows that the first criterion does not tell apart are in the order of the second. -/
theorem filter_ordered_compareLex [Std.TransCmp first] [Std.TransCmp second] (rows : List α)
    {p : α → Bool} (hp : ∀ a b, p a = true → (first a b = .eq ↔ p b = true)) :
    (ordered (compareLex first second) rows).filter p = ordered second (rows.filter p) := by
  have hrows := isStableOrder_ordered (compareLex first second) rows
  have hlex (a b : α) (ha : p a = true) :
      compareLex first second a b = .eq ↔ p b = true ∧ second a b = .eq := by
    rw [compareLex, Ordering.then_eq_eq, hp a b ha]
  refine IsStableOrder.eq_ordered ⟨hrows.perm.filter p, ?_, fun a => ?_⟩
  · refine (hrows.sorted.filter p).imp_of_mem fun {a b} ha hb hab => ?_
    have hfirst : first a b = .eq :=
      (hp a b (List.mem_filter.mp ha).2).mpr (List.mem_filter.mp hb).2
    simpa [compareLex, hfirst] using hab
  · rw [List.filter_filter, List.filter_filter]
    by_cases hclass : ∃ c, p c = true ∧ second a c = .eq
    · obtain ⟨c, hpc, hac⟩ := hclass
      have hsame : (fun b => decide (second a b = .eq) && p b) =
          fun b => decide (compareLex first second c b = .eq) := by
        funext b
        rw [Std.TransCmp.congr_left hac, Bool.eq_iff_iff]
        simp [hlex c b hpc, and_comm]
      rw [hsame, hrows.stable c]
    · have hnone (b : α) : ¬ (decide (second a b = .eq) && p b) = true := by
        intro hb
        simp only [Bool.and_eq_true, decide_eq_true_eq] at hb
        exact hclass ⟨b, hb.2, hb.1⟩
      rw [List.filter_eq_nil_iff.mpr fun b _ => hnone b,
        List.filter_eq_nil_iff.mpr fun b _ => hnone b]

/-! ## The orders of rows -/

instance : Std.TransCmp compareColumns := by
  unfold compareColumns
  infer_instance

instance : Std.TransCmp compareUserTypes := by
  unfold compareUserTypes
  infer_instance

instance : Std.TransCmp compareTableComments := by
  unfold compareTableComments
  infer_instance

instance : Std.TransCmp compareSequences := by
  unfold compareSequences
  infer_instance

instance : Std.TransCmp compareIndexes := by
  unfold compareIndexes
  infer_instance

instance : Std.TransCmp compareForeignKeys := by
  unfold compareForeignKeys
  infer_instance

end SchemaTransfer.Snapshot
