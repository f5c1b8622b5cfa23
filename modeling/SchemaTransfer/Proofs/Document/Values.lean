import Mathlib.Data.List.Forall2
import SchemaTransfer.Document.Reading
import SchemaTransfer.Proofs.Document.Json

/-!
# Values are read as they were written

A reader of values inverts a way of writing them when it takes the tree of every written value back
to the value. Main statements: so do the readers of texts, truth values and integers, and with them
those of missing values and lists.
-/

namespace SchemaTransfer

/-! ## Integers -/

namespace NumberText

/-- More digits make no smaller number. -/
theorem le_ofDigitChars (ds : List Char) (n : Nat) : n ≤ Nat.ofDigitChars 10 ds n := by
  induction ds generalizing n with
  | nil => simp
  | cons d ds ih =>
    rw [Nat.ofDigitChars_cons]
    exact Nat.le_trans (by omega) (ih _)

/-- Digits of a number that has room are all taken. -/
theorem takeDigits_eq (ds : List Char) {n : Nat} (h : Nat.ofDigitChars 10 ds n ≤ maxSignificand) :
    takeDigits n ds = (Nat.ofDigitChars 10 ds n, []) := by
  induction ds generalizing n with
  | nil => simp [takeDigits]
  | cons d ds ih =>
    rw [Nat.ofDigitChars_cons] at h ⊢
    have hroom : 10 * n + digitValue d ≤ maxSignificand := Nat.le_trans (le_ofDigitChars ds _) h
    simp only [takeDigits, hroom, if_true]
    exact ih h

/-- An integer of 64 bits, with a sign or without, has the value of its numeral. -/
theorem value_ofInt {n : Int} (hlow : -Nat.pow 2 63 ≤ n) (hhigh : n ≤ maxSignificand) :
    (ofInt n).value = .integer n := by
  have hmax : maxSignificand = 18446744073709551615 := by decide
  have hmin : (Nat.pow 2 63) = 9223372036854775808 := by decide
  have htake : takeDigits 0 (ofInt n).whole = (n.natAbs, []) := by
    have hdigits : Nat.ofDigitChars 10 (Nat.toDigits 10 n.natAbs) 0 = n.natAbs :=
      Nat.ofDigitChars_ten_toDigits
    show takeDigits 0 (Nat.toDigits 10 n.natAbs) = (n.natAbs, [])
    rw [takeDigits_eq _ (by omega), hdigits]
  have hinteger : (ofInt n).value = integerValue (n < 0) n.natAbs := by
    rw [value, htake]
    rfl
  rw [hinteger, integerValue]
  by_cases hn : n < 0
  · rw [if_pos (by simpa using hn), if_neg (by omega)]
    congr 1
    omega
  · rw [if_neg (by simpa using hn)]
    congr 1
    omega

end NumberText

namespace Document

/-- Whether a reader of values reads what is written for them. -/
def Reader.Inverts {α : Type} (r : Reader α) (write : α → Value) : Prop :=
  ∀ s a, r s (write a).node = .ok a

/-- Values that are written alike are read as one. -/
theorem Reader.Inverts.injective {α : Type} {r : Reader α} {write : α → Value}
    (hr : r.Inverts write) {a b : α} (h : write a = write b) : a = b := by
  have ha := hr ⟨.json, []⟩ a
  rw [h, hr ⟨.json, []⟩ b] at ha
  exact (Except.ok.inj ha).symm

namespace Reader

variable {α : Type} {r : Reader α} {write : α → Value}

theorem inverts_text : text.Inverts .text := fun _ _ => rfl

theorem inverts_flag : flag.Inverts .flag := fun _ _ => rfl

/-- An integer within the bounds of its reader is read. -/
theorem integer_ofInt {low high n : Int} (hlow : low ≤ n) (hhigh : n ≤ high)
    (hmin : -Nat.pow 2 63 ≤ low) (hmax : high ≤ NumberText.maxSignificand)
    (meaning : String → Option Int) (expected : String) (s : Scope) :
    integer low high meaning expected s (Value.integer n).node = .ok n := by
  have hvalue := NumberText.value_ofInt (Int.le_trans hmin hlow) (Int.le_trans hhigh hmax)
  have hscalar : scalar expected (integer? meaning) s (Value.integer n).node = .ok n := by
    simp only [scalar, Scope.look, Scope.resolve, Value.node, Node.bare, integer?, hvalue]
  simp only [integer, hscalar, hlow, hhigh, and_self, if_true]

theorem inverts_int32 : int32.Inverts (fun a => .integer a.toInt) := by
  intro s a
  have hread := integer_ofInt (Int32.minValue_le_toInt a) (Int32.toInt_le a) (by decide)
    (by decide) Word.signed64? "i32" s
  simp only [int32]
  rw [hread]
  exact congrArg Except.ok (Int32.ofInt_toInt a)

theorem inverts_int64 : int64.Inverts (fun a => .integer a.toInt) := by
  intro s a
  have hread := integer_ofInt (Int64.minValue_le_toInt a) (Int64.toInt_le a) (by decide)
    (by decide) Word.signed64? "i64" s
  simp only [int64]
  rw [hread]
  exact congrArg Except.ok (Int64.ofInt_toInt a)

/-- A value that may be missing is read back if what is written for a given one is a text, a truth
value or a number. -/
theorem Inverts.optional (hr : r.Inverts write)
    (hwrite : ∀ a, ∃ v, (write a).node = .scalar v ∧ v ≠ .null ∧ ∀ w, v ≠ .word w) :
    (Reader.optional r).Inverts (Value.optional write) := by
  intro s a
  cases a with
  | none => rfl
  | some a =>
    obtain ⟨v, hnode, hnull, hword⟩ := hwrite a
    have hread := hr s a
    simp only [Value.optional]
    rw [hnode] at hread ⊢
    cases v with
    | null => exact absurd rfl hnull
    | word w => exact absurd rfl (hword w)
    | _ =>
      simp only [Reader.optional, Scope.look, Scope.resolve, Node.bare, hread]
      rfl

theorem inverts_optionalText : (Reader.optional text).Inverts (Value.optional .text) :=
  inverts_text.optional fun a => ⟨.text a, rfl, nofun, nofun⟩

theorem inverts_optionalInt32 :
    (Reader.optional int32).Inverts (Value.optional fun a => .integer a.toInt) :=
  inverts_int32.optional fun _ => ⟨_, rfl, nofun, nofun⟩

theorem inverts_optionalInt64 :
    (Reader.optional int64).Inverts (Value.optional fun a => .integer a.toInt) :=
  inverts_int64.optional fun _ => ⟨_, rfl, nofun, nofun⟩

/-- Items are read from nodes that they are read from. -/
theorem items_eq {as : List α} {ns : List Node} (s : Scope)
    (h : List.Forall₂ (fun a n => r s n = .ok a) as ns) (i : Nat) :
    items r s true i ns = .ok as := by
  induction h generalizing i with
  | nil => rfl
  | cons ha _ ih =>
    simp only [items, ha, ih]
    rfl

/-- A list is read from nodes that its items are read from. -/
theorem list_eq {as : List α} {ns : List Node} (s : Scope)
    (h : List.Forall₂ (fun a n => r s n = .ok a) as ns) : list r s (.list ns true) = .ok as :=
  items_eq s h 0

/-- A list of written values is read back. -/
theorem Inverts.list (hr : r.Inverts write) :
    (Reader.list r).Inverts (fun as => .list (as.map write)) := by
  intro s as
  refine list_eq s ?_
  rw [nodesOf_eq_map, List.map_map]
  induction as with
  | nil => exact .nil
  | cons a as ih => exact .cons (hr s a) ih

theorem inverts_texts : (Reader.list text).Inverts Value.texts := inverts_text.list

end Reader

end Document

end SchemaTransfer
