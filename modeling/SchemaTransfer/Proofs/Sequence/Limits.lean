import SchemaTransfer.Proofs.Sequence.Resumption

/-!
# The resumed value at the limits of 64 bits

A sum beyond 64 bits is replaced by the limit that is nearest to it before the bounds are looked at.
The bounds are within the limits, so such a sum is beyond the bounds on the same side, and the limit
is kept at the same bound. Main statement: the resumed value is the exact sum, kept between the
bounds.
-/

namespace SchemaTransfer.Sequence

variable (s : Sequence)

/-- A number kept between the bounds; one beyond them is moved to the bound that it is beyond. -/
def kept (n : Int) : Int := max s.minValue.toInt (min s.maxValue.toInt n)

/-- Bounds that do not exclude each other keep every number between them. -/
theorem admits_kept (h : s.minValue ≤ s.maxValue) (n : Int) : s.Admits (s.kept n) := by
  have hbounds := Int64.le_iff_toInt_le.mp h
  unfold Admits kept
  constructor <;> omega

/-- The nearest number of 64 bits is kept where the number itself is. -/
theorem kept_toInt_saturated (n : Int) : s.kept (saturated n).toInt = s.kept n := by
  have hlower := s.minValue.le_toInt
  have hupper := s.maxValue.toInt_lt
  rw [toInt_saturated]
  unfold kept
  omega

/-- The value to go on with is kept where the exact sum is. -/
theorem kept_toInt_nextValue : s.kept s.nextValue.toInt = s.kept s.following := by
  unfold nextValue following
  by_cases hcalled : s.isCalled = true
  · rw [if_pos hcalled, if_pos hcalled, kept_toInt_saturated, advanced]
  · rw [if_neg hcalled, if_neg hcalled]

/-- A sequence whose bounds do not exclude each other is resumed with the exact sum, kept between
the bounds: that the sum is taken within 64 bits makes no difference. -/
theorem resumeValue_eq_kept_following (h : s.minValue ≤ s.maxValue) :
    s.resumeValue.toInt = s.kept s.following ∧
      s.kept s.nextValue.toInt = s.kept s.following ∧ s.Admits s.resumeValue.toInt := by
  have hexact : s.resumeValue.toInt = s.kept s.following := s.toInt_resumeValue h
  refine ⟨hexact, s.kept_toInt_nextValue, ?_⟩
  rw [hexact]
  exact s.admits_kept h s.following

/-- A sequence over all numbers of 64 bits. -/
def wideSequence (lastValue increment : Int64) : Sequence :=
  { roundSequence lastValue true with
    increment := increment
    minValue := -9223372036854775808
    maxValue := 9223372036854775807 }

/-- Beyond the limits a sequence is resumed at the limit, upwards and downwards. -/
theorem resumeValue_eq_kept_following_wide :
    let up := wideSequence 9223372036854775807 9223372036854775807
    let down := wideSequence (-9223372036854775808) (-1)
    up.minValue ≤ up.maxValue ∧ up.following = 18446744073709551614 ∧
      up.resumeValue.toInt = 9223372036854775807 ∧
      down.minValue ≤ down.maxValue ∧ down.following = -9223372036854775809 ∧
      down.resumeValue.toInt = -9223372036854775808 := by
  intro up down
  have hup : up.minValue ≤ up.maxValue := by decide
  have hdown : down.minValue ≤ down.maxValue := by decide
  refine ⟨hup, by decide, ?_, hdown, by decide, ?_⟩
  · rw [(resumeValue_eq_kept_following up hup).1]
    decide
  · rw [(resumeValue_eq_kept_following down hdown).1]
    decide

end SchemaTransfer.Sequence
