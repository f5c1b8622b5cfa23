import Mathlib.Data.String.Basic

/-!
# The order of texts is that of their bytes

Texts are ordered character by character. Written as UTF-8 they are ordered byte by byte in the same
way: of two different characters the smaller one has the smaller byte where their bytes first
differ.
-/

namespace SchemaTransfer.Text

/-- The bytes of a text. -/
def bytes (s : String) : List UInt8 := s.toByteArray.data.toList

theorem bytes_eq_flatMap (s : String) : bytes s = s.toList.flatMap String.utf8EncodeChar := by
  rw [bytes, ← String.utf8Encode_toList, List.utf8Encode, List.toList_data_toByteArray]

/-- The bytes of a smaller character come before those of a greater one, whatever follows. -/
theorem utf8EncodeChar_append_lt {c d : Char} (h : c < d) (more other : List UInt8) :
    String.utf8EncodeChar c ++ more < String.utf8EncodeChar d ++ other := by
  have hlt : c.val.toNat < d.val.toNat := UInt32.lt_iff_toNat_lt.mp (Char.lt_def.mp h)
  have hd : d.val.toNat < 1114112 := by
    rcases d.valid with h | ⟨_, h⟩
    · omega
    · exact h
  simp only [String.utf8EncodeChar]
  generalize c.val.toNat = v at *
  generalize d.val.toNat = w at *
  -- One case for each pair of lengths: a longer spelling has the larger lead byte, and two
  -- spellings of one length are compared digit by digit in base 64.
  split_ifs <;>
    simp only [List.cons_append, List.nil_append, List.cons_lt_cons_iff, UInt8.lt_iff_toNat_lt,
      ← UInt8.toNat_inj, UInt8.toNat_ofNat', Nat.reducePow] <;>
    simp (disch := omega) only [Nat.mod_eq_of_lt, Nat.add_lt_add_iff_right,
      Nat.add_right_cancel_iff] <;>
    omega

/-- Texts are ordered as their bytes are. -/
theorem bytes_lt_of_lt {s t : String} (h : s < t) : bytes s < bytes t := by
  rw [bytes_eq_flatMap, bytes_eq_flatMap]
  have hchars : s.toList < t.toList := String.lt_iff_toList_lt.mp h
  generalize s.toList = cs at hchars
  generalize t.toList = ds at hchars
  induction cs generalizing ds with
  | nil =>
    cases ds with
    | nil => exact absurd hchars (List.not_lt_nil _)
    | cons d ds =>
      have hne : String.utf8EncodeChar d ≠ [] := by
        simp only [String.utf8EncodeChar]
        split_ifs <;> simp
      obtain ⟨b, rest, hb⟩ := List.exists_cons_of_ne_nil hne
      rw [List.flatMap_nil, List.flatMap_cons, hb, List.cons_append]
      exact List.nil_lt_cons _ _
  | cons c cs ih =>
    cases ds with
    | nil => exact absurd hchars (List.not_lt_nil _)
    | cons d ds =>
      rw [List.flatMap_cons, List.flatMap_cons]
      rcases List.cons_lt_cons_iff.mp hchars with hlt | ⟨rfl, hrest⟩
      · exact utf8EncodeChar_append_lt hlt _ _
      · exact List.append_left_lt (ih _ hrest)

/-- So are lists of texts, text by text. -/
theorem map_bytes_lt_of_compare {ss ts : List String} (h : compare ss ts = .lt) :
    ss.map bytes < ts.map bytes := by
  induction ss generalizing ts with
  | nil =>
    cases ts with
    | nil => cases h
    | cons t ts => exact List.nil_lt_cons _ _
  | cons s ss ih =>
    cases ts with
    | nil => cases h
    | cons t ts =>
      rw [List.compare_cons_cons, Ordering.then_eq_lt] at h
      rw [List.map_cons, List.map_cons, List.cons_lt_cons_iff]
      rcases h with hlt | ⟨heq, hrest⟩
      · exact Or.inl (bytes_lt_of_lt (Std.LawfulLTCmp.eq_lt_iff_lt.mp hlt))
      · exact Or.inr ⟨congrArg bytes (Std.LawfulEqCmp.eq_of_compare heq), ih hrest⟩

end SchemaTransfer.Text
