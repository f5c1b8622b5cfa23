import SchemaTransfer.Proofs.Emission.Contents

/-!
# Ranges of resolved sequences

Resolving lowers the maximum of a sequence to what its type in the target holds and leaves the
minimum alone. The start is kept between the two bounds as long as they do not exclude each other.
Main statement: minima stay, no maximum is beyond its type, and a sequence starts between its bounds
exactly when its type holds the minimum; otherwise the bounds cross.
-/

namespace SchemaTransfer

/-- Whether a number is not beyond a type of the target, as far as the greatest value of the type is
known. -/
def TypeName.holds (target : String) (n : Int64) : Bool :=
  (capacity? target).all fun capacity => n ≤ capacity

namespace Sequence

/-- A bounded maximum leaves room for what is below the maximum and what the type holds. -/
theorem le_boundedMax_iff (s : Sequence) (target : String) (n : Int64) :
    n ≤ s.boundedMax target ↔ n ≤ s.maxValue ∧ TypeName.holds target n = true := by
  unfold boundedMax TypeName.holds
  cases TypeName.capacity? target with
  | none => simp
  | some capacity =>
    simp only [Option.all_some, decide_eq_true_eq]
    split
    · rename_i hlower
      exact ⟨fun h => ⟨Int64.le_trans h (Int64.le_of_lt hlower), h⟩, And.right⟩
    · rename_i hupper
      exact ⟨fun h => ⟨h, Int64.le_trans h (Int64.not_lt.mp hupper)⟩, And.left⟩

/-- The start is between the bounds exactly when these do not exclude each other. -/
theorem resumeValue_between_iff (s : Sequence) :
    (s.minValue ≤ s.resumeValue ∧ s.resumeValue ≤ s.maxValue) ↔ s.minValue ≤ s.maxValue := by
  refine ⟨fun h => Int64.le_trans h.1 h.2, fun h => ?_⟩
  unfold resumeValue
  rw [if_pos h]
  split
  · exact ⟨Int64.le_refl _, h⟩
  · rename_i hlower
    split
    · exact ⟨h, Int64.le_refl _⟩
    · rename_i hupper
      exact ⟨Int64.not_lt.mp hlower, Int64.not_lt.mp hupper⟩

variable (s : Sequence) (tables : List Table)

@[simp] theorem minValue_resolved : (s.resolved tables).minValue = s.minValue := by
  simp only [resolved]

/-- The maximum of a resolved sequence is bounded by its type in the target. -/
theorem maxValue_resolved :
    (s.resolved tables).maxValue = s.boundedMax (s.resolved tables).targetType := by
  simp only [resolved]

/-- The type of a resolved sequence holds its maximum. -/
theorem holds_maxValue_resolved :
    TypeName.holds (s.resolved tables).targetType (s.resolved tables).maxValue = true := by
  rw [maxValue_resolved]
  exact ((s.le_boundedMax_iff _ _).mp (Int64.le_refl _)).2

/-- A resolved sequence starts between its bounds exactly when its type holds its minimum. -/
theorem resumeValue_resolved_between_iff (h : s.minValue ≤ s.maxValue) :
    ((s.resolved tables).minValue ≤ (s.resolved tables).resumeValue ∧
        (s.resolved tables).resumeValue ≤ (s.resolved tables).maxValue) ↔
      TypeName.holds (s.resolved tables).targetType (s.resolved tables).minValue = true := by
  rw [resumeValue_between_iff, maxValue_resolved, le_boundedMax_iff, minValue_resolved]
  exact and_iff_right h

/-- A minimum that the type does not hold is above the maximum. -/
theorem maxValue_resolved_lt_minValue
    (h : TypeName.holds (s.resolved tables).targetType (s.resolved tables).minValue = false) :
    (s.resolved tables).maxValue < (s.resolved tables).minValue := by
  refine Int64.not_le.mp fun hle => ?_
  rw [maxValue_resolved, le_boundedMax_iff, h] at hle
  cases hle.2

end Sequence

namespace Emission

/-- A sequence is created as one of the catalog, and starts where that one goes on. -/
theorem exists_of_createSequence_mem {options : EmitOptions} {k : Catalog}
    {d : SequenceDefinition} (h : .createSequence d ∈ (createTypes options k).script.statements) :
    ∃ s ∈ k.sequences, d = sequenceDefinition s := by
  rcases mem_createTypes.mp h with ⟨t, _, _, hs⟩ | ⟨s, hs, _, he⟩
  · cases List.mem_singleton.mp hs
  · exact ⟨s, hs, Statement.createSequence.inj he⟩

end Emission

namespace Catalog

theorem minValues_resolveSequences (k : Catalog) :
    k.resolveSequences.sequences.map (·.minValue) = k.sequences.map (·.minValue) := by
  simp only [resolveSequences, List.map_map]
  exact List.map_congr_left fun s _ => s.minValue_resolved k.tables

/-- Once the sequences of a catalog are resolved, every minimum is as before and no maximum is
beyond the type in the target. A sequence whose bounds did not exclude each other goes on between
its bounds exactly when its type holds its minimum; when it does not, the bounds cross. The same
holds of what is written to create a sequence. -/
theorem resumeValue_between_resolveSequences {k : Catalog}
    (hk : ∀ s ∈ k.sequences, s.minValue ≤ s.maxValue) :
    k.resolveSequences.sequences.map (·.minValue) = k.sequences.map (·.minValue) ∧
      (∀ s ∈ k.resolveSequences.sequences,
        TypeName.holds s.targetType s.maxValue = true ∧
          ((s.minValue ≤ s.resumeValue ∧ s.resumeValue ≤ s.maxValue) ↔
            TypeName.holds s.targetType s.minValue = true) ∧
          (TypeName.holds s.targetType s.minValue = false → s.maxValue < s.minValue)) ∧
      ∀ options d,
        .createSequence d ∈ (Emission.createTypes options k.resolveSequences).script.statements →
        TypeName.holds d.dataType d.maxValue = true ∧
          ((d.minValue ≤ d.start ∧ d.start ≤ d.maxValue) ↔
            TypeName.holds d.dataType d.minValue = true) ∧
          (TypeName.holds d.dataType d.minValue = false → d.maxValue < d.minValue) := by
  have hresolved : ∀ s ∈ k.resolveSequences.sequences,
      TypeName.holds s.targetType s.maxValue = true ∧
        ((s.minValue ≤ s.resumeValue ∧ s.resumeValue ≤ s.maxValue) ↔
          TypeName.holds s.targetType s.minValue = true) ∧
        (TypeName.holds s.targetType s.minValue = false → s.maxValue < s.minValue) := by
    intro s hs
    obtain ⟨q, hq, rfl⟩ := List.mem_map.mp hs
    exact ⟨q.holds_maxValue_resolved k.tables,
      q.resumeValue_resolved_between_iff k.tables (hk q hq),
      q.maxValue_resolved_lt_minValue k.tables⟩
  refine ⟨k.minValues_resolveSequences, hresolved, fun options d hd => ?_⟩
  obtain ⟨s, hs, rfl⟩ := Emission.exists_of_createSequence_mem hd
  exact hresolved s hs

/-- A catalog of one sequence that goes on after 5000000000 and belongs to a column of a type. -/
def countingCatalog (minimum : Int64) (ownerType : String) : Catalog where
  schemas := ["s"]
  sequences := [{
    schema := "s", name := "q", dataType := "bigint", ownerType := some ownerType
    targetType := "bigint", start := minimum, increment := 1, minValue := minimum
    maxValue := 9000000000, cache := 1, cycle := false, lastValue := 5000000000, isCalled := true }]

/-- Behind a column of 32 bits a sequence that began at one starts at the greatest value. -/
theorem resumeValue_between_resolveSequences_counting :
    (∀ s ∈ (countingCatalog 1 "integer").sequences, s.minValue ≤ s.maxValue) ∧
      ∀ s ∈ (countingCatalog 1 "integer").resolveSequences.sequences,
        TypeName.holds s.targetType s.minValue = true ∧ s.maxValue = 2147483647 ∧
          s.resumeValue = 2147483647 ∧ s.minValue ≤ s.resumeValue ∧
          s.resumeValue ≤ s.maxValue := by
  have hbounds : ∀ s ∈ (countingCatalog 1 "integer").sequences, s.minValue ≤ s.maxValue := by
    decide
  have hholds : ∀ s ∈ (countingCatalog 1 "integer").resolveSequences.sequences,
      TypeName.holds s.targetType s.minValue = true ∧ s.maxValue = 2147483647 ∧
        s.resumeValue = 2147483647 := by
    decide
  refine ⟨hbounds, fun s hs => ?_⟩
  obtain ⟨hmin, hmax, hresume⟩ := hholds s hs
  exact ⟨hmin, hmax, hresume,
    ((resumeValue_between_resolveSequences hbounds).2.1 s hs).2.1.mpr hmin⟩

/-- Behind a column of 32 bits a sequence that began beyond them is left with a maximum below its
minimum, and starts above both. -/
theorem not_resumeValue_between_counting :
    (∀ s ∈ (countingCatalog 3000000000 "integer").sequences,
        s.minValue ≤ s.maxValue ∧ s.minValue ≤ s.lastValue ∧ s.lastValue ≤ s.maxValue) ∧
      ¬ ∀ s ∈ (countingCatalog 3000000000 "integer").resolveSequences.sequences,
        s.minValue ≤ s.resumeValue ∧ s.resumeValue ≤ s.maxValue := by
  decide

end Catalog

end SchemaTransfer
