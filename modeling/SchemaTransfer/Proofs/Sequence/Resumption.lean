import SchemaTransfer.SequenceRange

/-!
# Where a sequence goes on

The source hands out the start value first and then adds the increment as long as the sum is between
the bounds; at its end a sequence fails, or starts over at its other bound. The resumed value is the
sum, kept between the bounds. Main statement: a sequence is resumed with the value that the source
hands out next exactly when the source does not start over, unless the bounds leave one value only.
-/

namespace SchemaTransfer.Sequence

variable (s : Sequence)

/-- The last value with the increment added. -/
def advanced : Int := s.lastValue.toInt + s.increment.toInt

/-- The value to go on with, before the bounds and the limits of 64 bits are looked at. -/
def following : Int := if s.isCalled then s.advanced else s.lastValue.toInt

/-- Whether a number is between the bounds. -/
def Admits (n : Int) : Prop := s.minValue.toInt ≤ n ∧ n ≤ s.maxValue.toInt

instance (n : Int) : Decidable (s.Admits n) := inferInstanceAs (Decidable (_ ∧ _))

/-- What the source hands out next; nothing at the end of a sequence that does not start over. -/
def sourceNext? : Option Int :=
  if s.isCalled = false then some s.lastValue.toInt
  else if s.Admits s.advanced then some s.advanced
  else if s.cycle then some (if 0 < s.increment then s.minValue.toInt else s.maxValue.toInt)
  else none

/-- Whether the sequence is at its end: the next sum is beyond its bounds. -/
def IsExhausted : Prop := s.isCalled = true ∧ ¬ s.Admits s.advanced

instance : Decidable s.IsExhausted := inferInstanceAs (Decidable (_ ∧ _))

/-! ## The resumed value -/

theorem toInt_saturated (n : Int) :
    (saturated n).toInt = max (-9223372036854775808) (min 9223372036854775807 n) :=
  Int64.toInt_ofInt_of_le (by omega) (by omega)

theorem toInt_nextValue :
    s.nextValue.toInt = max (-9223372036854775808) (min 9223372036854775807 s.following) := by
  unfold nextValue following
  split
  · exact toInt_saturated _
  · have hlower := s.lastValue.le_toInt
    have hupper := s.lastValue.toInt_lt
    omega

/-- The bounds are within 64 bits, so keeping the value between them hides that the sum was. -/
theorem toInt_resumeValue (h : s.minValue ≤ s.maxValue) :
    s.resumeValue.toInt = max s.minValue.toInt (min s.maxValue.toInt s.following) := by
  have hnext := s.toInt_nextValue
  have hlower := s.minValue.le_toInt
  have hupper := s.maxValue.toInt_lt
  have hbounds := Int64.le_iff_toInt_le.mp h
  unfold resumeValue
  simp only [if_pos h, Int64.lt_iff_toInt_lt]
  split
  · omega
  · split <;> omega

/-! ## The source -/

variable {s}

/-- Unless the sequence is at its end, the source goes on with the sum. -/
theorem sourceNext?_of_not_isExhausted (hadmits : s.Admits s.lastValue.toInt)
    (h : ¬ s.IsExhausted) : s.sourceNext? = some s.following ∧ s.Admits s.following := by
  unfold sourceNext? following
  cases hcalled : s.isCalled with
  | false => exact ⟨rfl, hadmits⟩
  | true =>
    have hsum : s.Admits s.advanced := Decidable.of_not_not fun hsum => h ⟨hcalled, hsum⟩
    simp [hsum]

/-- At its end a sequence goes beyond the bound that its increment leads to. -/
theorem IsExhausted.beyond (h : s.IsExhausted) (hadmits : s.Admits s.lastValue.toInt) :
    if 0 < s.increment then s.maxValue.toInt < s.following else s.following < s.minValue.toInt := by
  obtain ⟨hcalled, hsum⟩ := h
  simp only [following, hcalled, if_true, Int64.lt_iff_toInt_lt, Int64.toInt_zero]
  unfold Admits advanced at *
  split <;> omega

/-- At its end a sequence starts over at its other bound. -/
theorem IsExhausted.sourceNext?_eq (h : s.IsExhausted) {n : Int} (hn : s.sourceNext? = some n) :
    n = if 0 < s.increment then s.minValue.toInt else s.maxValue.toInt := by
  obtain ⟨hcalled, hsum⟩ := h
  unfold sourceNext? at hn
  simp only [hcalled, Bool.true_eq_false, if_false, hsum] at hn
  split at hn
  · exact (Option.some.inj hn).symm
  · cases hn

/-- At its end a sequence is resumed at the bound that it has come to. -/
theorem IsExhausted.resumeValue_eq (h : s.IsExhausted) (hadmits : s.Admits s.lastValue.toInt) :
    s.resumeValue = if 0 < s.increment then s.maxValue else s.minValue := by
  have hbounds : s.minValue.toInt ≤ s.maxValue.toInt := Int.le_trans hadmits.1 hadmits.2
  have hbeyond := h.beyond hadmits
  rw [← Int64.toInt_inj, toInt_resumeValue s (Int64.le_iff_toInt_le.mpr hbounds)]
  split at hbeyond
  · rename_i hup
    rw [if_pos hup]
    omega
  · rename_i hdown
    rw [if_neg hdown]
    omega

/-- A sequence is resumed with the value that the source hands out next exactly when it is not at
its end, or its bounds leave one value only. At its end the source starts over at one bound, and the
sequence is resumed at the other. -/
theorem resumeValue_eq_sourceNext_iff (hmin : s.minValue ≤ s.lastValue)
    (hmax : s.lastValue ≤ s.maxValue) {n : Int} (hn : s.sourceNext? = some n) :
    (s.resumeValue.toInt = n ↔ ¬ s.IsExhausted ∨ s.minValue = s.maxValue) ∧
      (s.IsExhausted → s.resumeValue = if 0 < s.increment then s.maxValue else s.minValue) := by
  have hadmits : s.Admits s.lastValue.toInt :=
    ⟨Int64.le_iff_toInt_le.mp hmin, Int64.le_iff_toInt_le.mp hmax⟩
  refine ⟨?_, fun h => h.resumeValue_eq hadmits⟩
  by_cases h : s.IsExhausted
  · rw [or_iff_right (not_not_intro h), h.resumeValue_eq hadmits, h.sourceNext?_eq hn,
      ← Int64.toInt_inj]
    split
    · exact eq_comm
    · rfl
  · obtain ⟨hnext, hbetween⟩ := sourceNext?_of_not_isExhausted hadmits h
    obtain rfl := Option.some.inj (hnext.symm.trans hn)
    refine iff_of_true ?_ (Or.inl h)
    rw [toInt_resumeValue s (Int64.le_trans hmin hmax)]
    unfold Admits at hbetween
    omega

/-- A sequence of three values that goes on after one of them. -/
def roundSequence (lastValue : Int64) (isCalled : Bool) : Sequence where
  schema := "s"
  name := "q"
  dataType := "integer"
  ownerType := none
  targetType := "integer"
  start := 1
  increment := 1
  minValue := 1
  maxValue := 3
  cache := 1
  cycle := true
  lastValue := lastValue
  isCalled := isCalled

/-- After the second value the third one follows. -/
theorem resumeValue_eq_sourceNext_round :
    (roundSequence 2 true).minValue ≤ (roundSequence 2 true).lastValue ∧
      (roundSequence 2 true).lastValue ≤ (roundSequence 2 true).maxValue ∧
      (roundSequence 2 true).sourceNext? = some 3 ∧ ¬ (roundSequence 2 true).IsExhausted ∧
      (roundSequence 2 true).resumeValue.toInt = 3 := by
  have hmin : (roundSequence 2 true).minValue ≤ (roundSequence 2 true).lastValue := by decide
  have hmax : (roundSequence 2 true).lastValue ≤ (roundSequence 2 true).maxValue := by decide
  have hnext : (roundSequence 2 true).sourceNext? = some 3 := by decide
  have hend : ¬ (roundSequence 2 true).IsExhausted := by decide
  exact ⟨hmin, hmax, hnext, hend,
    (resumeValue_eq_sourceNext_iff hmin hmax hnext).1.mpr (Or.inl hend)⟩

/-- After the third value the source starts over, but the third one is handed out again. -/
theorem not_resumeValue_eq_sourceNext_round :
    (roundSequence 3 true).minValue ≤ (roundSequence 3 true).lastValue ∧
      (roundSequence 3 true).lastValue ≤ (roundSequence 3 true).maxValue ∧
      (roundSequence 3 true).increment ≠ 0 ∧ (roundSequence 3 true).sourceNext? = some 1 ∧
      (roundSequence 3 true).resumeValue.toInt = 3 := by
  decide

end SchemaTransfer.Sequence
