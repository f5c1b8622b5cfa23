import Mathlib.Algebra.Order.Group.Nat
import Mathlib.Data.Char
import Mathlib.Data.List.Induction

/-!
# Decimal numerals

The numeral of a number holds digits alone, and each beginning of it is the numeral of a number
that is not greater, so only that of zero begins with a zero. Numerals with the same number of
digits are ordered as texts in the way their numbers are.
-/

namespace SchemaTransfer.Text

theorem not_mem_toDigits {c : Char} (hc : c.isDigit = false) (n : Nat) :
    c ∉ Nat.toDigits 10 n := by
  intro h
  rw [Nat.isDigit_of_mem_toDigits (by decide) (by decide) h] at hc
  cases hc

/-- The beginning of the numeral of a positive number is the numeral of a positive number that is
not greater. -/
theorem exists_toDigits_of_append {n : Nat} (hn : 0 < n) {front rest : List Char}
    (h : Nat.toDigits 10 n = front ++ rest) (hfront : front ≠ []) :
    ∃ m, 0 < m ∧ m ≤ n ∧ front = Nat.toDigits 10 m := by
  induction rest using List.reverseRecOn generalizing n with
  | nil => exact ⟨n, hn, Nat.le_refl n, by simpa using h.symm⟩
  | append_singleton rest d ih =>
    -- The last digit goes away with a division by ten.
    have hbig : 10 ≤ n := by
      by_contra hsmall
      have hlen := congrArg List.length h
      rw [Nat.toDigits_of_lt_base (by omega)] at hlen
      have := List.length_pos_iff.mpr hfront
      simp only [List.length_append, List.length_cons, List.length_nil] at hlen
      omega
    rw [Nat.toDigits_of_base_le (by decide) hbig, ← List.append_assoc] at h
    obtain ⟨m, hm, hle, he⟩ := ih (by omega) (List.append_inj' h rfl).1
    exact ⟨m, hm, by omega, he⟩

/-- No numeral begins with a zero before another digit. -/
theorem toDigits_ne_zero_cons (n : Nat) (d : Char) (ds : List Char) :
    Nat.toDigits 10 n ≠ '0' :: d :: ds := by
  intro h
  rcases Nat.eq_zero_or_pos n with rfl | hn
  · simp at h
  · obtain ⟨m, hm, -, he⟩ := exists_toDigits_of_append hn
      (show Nat.toDigits 10 n = ['0'] ++ d :: ds from h) (List.cons_ne_nil _ _)
    have hzero : m = 0 := by
      rw [← Nat.ofDigitChars_ten_toDigits (n := m), ← he]
      rfl
    omega

/-- The first digit of a numeral counts for a power of ten. -/
theorem ofDigitChars_ten_cons (c : Char) (cs : List Char) :
    Nat.ofDigitChars 10 (c :: cs) 0 =
      10 ^ cs.length * (c.toNat - 48) + Nat.ofDigitChars 10 cs 0 := by
  rw [Nat.ofDigitChars_cons, Nat.ofDigitChars_eq_ofDigitChars_zero, Nat.mul_zero, Nat.zero_add]
  rfl

/-- A numeral of so many digits stands for a number below that power of ten. -/
theorem ofDigitChars_lt {cs : List Char} (hcs : ∀ c ∈ cs, c.isDigit = true) :
    Nat.ofDigitChars 10 cs 0 < 10 ^ cs.length := by
  induction cs with
  | nil => simp
  | cons c cs ih =>
    obtain ⟨hc, hrest⟩ := List.forall_mem_cons.mp hcs
    have hdigit : c.toNat ≤ 57 := (Char.isDigit_iff_toNat.mp hc).2
    have hlead : 10 ^ cs.length * (c.toNat - 48) ≤ 10 ^ cs.length * 9 :=
      Nat.mul_le_mul_left _ (by omega)
    have hlower := ih hrest
    rw [ofDigitChars_ten_cons, List.length_cons, Nat.pow_succ]
    omega

/-- Of two numerals with the same number of digits the one of the smaller number comes first. -/
theorem lt_of_ofDigitChars_lt {cs ds : List Char} (hcs : ∀ c ∈ cs, c.isDigit = true)
    (hds : ∀ d ∈ ds, d.isDigit = true) (hlength : cs.length = ds.length)
    (h : Nat.ofDigitChars 10 cs 0 < Nat.ofDigitChars 10 ds 0) : cs < ds := by
  induction cs generalizing ds with
  | nil =>
    rw [List.eq_nil_of_length_eq_zero hlength.symm] at h
    exact absurd h (Nat.lt_irrefl _)
  | cons c cs ih =>
    cases ds with
    | nil => cases hlength
    | cons d ds =>
      obtain ⟨-, hcs'⟩ := List.forall_mem_cons.mp hcs
      obtain ⟨hd, hds'⟩ := List.forall_mem_cons.mp hds
      have hrest : cs.length = ds.length := Nat.succ.inj hlength
      rw [ofDigitChars_ten_cons, ofDigitChars_ten_cons, hrest] at h
      rw [List.cons_lt_cons_iff]
      by_cases hfirst : c = d
      · subst hfirst
        exact Or.inr ⟨rfl, ih hcs' hds' hrest (by omega)⟩
      · refine Or.inl (lt_of_not_ge fun hge => ?_)
        -- A greater first digit outweighs all that follows it.
        have hlt : d.toNat < c.toNat :=
          lt_of_le_of_ne hge fun he => hfirst (Char.toNat_inj.mp he.symm)
        have hlow : 48 ≤ d.toNat := (Char.isDigit_iff_toNat.mp hd).1
        have hlead : 10 ^ ds.length * (d.toNat - 48 + 1) ≤ 10 ^ ds.length * (c.toNat - 48) :=
          Nat.mul_le_mul_left _ (by omega)
        have hlower := ofDigitChars_lt hds'
        rw [Nat.mul_succ] at hlead
        omega

end SchemaTransfer.Text
