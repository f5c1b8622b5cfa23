import Mathlib.Data.List.Nodup
import Mathlib.Data.List.Perm.Subperm
import SchemaTransfer.Proofs.Build.ForeignKeyRows
import SchemaTransfer.Proofs.Text.Numerals

/-!
# The names of foreign keys

A foreign key is called by the base name that its constraint asks for, followed by the number of
earlier keys of its table that ask for the same one. So the names of a table depend on the rows of
that table alone. Main statement: where no table has two constraints of one name, the keys of every
table have distinct names exactly when no table asks twice for a base name and also for that name
followed by `1`.
-/

namespace SchemaTransfer.Build

namespace ForeignKeyStream

/-- What is put after a base name: nothing, or the numeral of a positive number. -/
def numeral (n : Nat) : List Char := if n = 0 then [] else Nat.toDigits 10 n

theorem toList_numbered (base : String) (n : Nat) :
    (numbered base n).toList = base.toList ++ numeral n := by
  unfold numbered numeral
  split <;> simp

theorem numeral_injective : Function.Injective numeral := by
  intro i j h
  unfold numeral at h
  split at h <;> split at h
  · omega
  · exact absurd h.symm Nat.toDigits_ne_nil
  · exact absurd h Nat.toDigits_ne_nil
  · rw [← Nat.ofDigitChars_ten_toDigits (n := i), h, Nat.ofDigitChars_ten_toDigits]

/-- Two base names of which one is shorter meet only if the longer one is the shorter one with a
number that was given before. -/
theorem exists_numbered_eq {b c : String} {k j : Nat} {rest : List Char} (hrest : rest ≠ [])
    (hc : c.toList = b.toList ++ rest) (h : numbered b k = numbered c j) :
    ∃ m, 0 < m ∧ m ≤ k ∧ c = numbered b m := by
  have hnumeral : numeral k = rest ++ numeral j := by
    have hlist := congrArg String.toList h
    rw [toList_numbered, toList_numbered, hc, List.append_assoc] at hlist
    exact List.append_cancel_left hlist
  have hk : k ≠ 0 := by
    rintro rfl
    exact hrest (List.append_eq_nil_iff.mp hnumeral.symm).1
  rw [numeral, if_neg hk] at hnumeral
  obtain ⟨m, hm, hle, he⟩ := Text.exists_toDigits_of_append (by omega) hnumeral hrest
  refine ⟨m, hm, hle, String.toList_inj.mp ?_⟩
  rw [toList_numbered, hc, he, numeral, if_neg (by omega)]

/-! ## Occurrences -/

/-- Names, each with the number of its occurrences before. -/
def occurrences (earlier : List String) : List String → List (String × Nat)
  | [] => []
  | b :: bs => (b, earlier.count b) :: occurrences (b :: earlier) bs

/-- A name occurs with every number from that of its earlier occurrences on. -/
theorem mem_occurrences {earlier bs : List String} {b : String} {k : Nat} :
    (b, k) ∈ occurrences earlier bs ↔
      earlier.count b ≤ k ∧ k < earlier.count b + bs.count b := by
  induction bs generalizing earlier with
  | nil =>
    simp only [occurrences, List.not_mem_nil, List.count_nil, false_iff, not_and]
    omega
  | cons c bs ih =>
    simp only [occurrences, List.mem_cons, Prod.mk.injEq, ih]
    by_cases hb : b = c
    · subst hb
      simp only [true_and, List.count_cons_self]
      omega
    · simp only [hb, false_and, false_or, List.count_cons_of_ne (Ne.symm hb)]

theorem nodup_occurrences (earlier bs : List String) : (occurrences earlier bs).Nodup := by
  induction bs generalizing earlier with
  | nil => exact List.nodup_nil
  | cons b bs ih =>
    refine List.nodup_cons.mpr ⟨?_, ih _⟩
    rw [mem_occurrences, List.count_cons_self]
    omega

/-- A name at the end is given the number of all its occurrences before. -/
theorem occurrences_concat (earlier bs : List String) (b : String) :
    occurrences earlier (bs ++ [b]) =
      occurrences earlier bs ++ [(b, earlier.count b + bs.count b)] := by
  induction bs generalizing earlier with
  | nil => simp [occurrences]
  | cons c bs ih =>
    have hcount : (c :: earlier).count b + bs.count b = earlier.count b + (c :: bs).count b := by
      rw [List.count_cons, List.count_cons]
      omega
    rw [List.cons_append, occurrences, ih, hcount, occurrences, List.cons_append]

/-- The numbered names of a list differ exactly when none of them is, as it stands, another one
with a number. -/
theorem nodup_map_numbered_iff (bs : List String) :
    ((occurrences [] bs).map fun p => numbered p.1 p.2).Nodup ↔
      ∀ b ∈ bs, ∀ k, 0 < k → k < bs.count b → numbered b k ∉ bs := by
  have hmem : ∀ b k, (b, k) ∈ occurrences [] bs ↔ k < bs.count b := by
    intro b k
    rw [mem_occurrences, List.count_nil]
    omega
  have hfirst : ∀ b ∈ bs, (b, 0) ∈ occurrences [] bs := fun b hb =>
    (hmem b 0).mpr (List.count_pos_iff.mpr hb)
  rw [List.nodup_map_iff_inj_on (nodup_occurrences [] bs)]
  constructor
  · intro h b _ k hk hcount hin
    have he := h (b, k) ((hmem b k).mpr hcount) (numbered b k, 0) (hfirst _ hin) rfl
    have hzero : k = 0 := congrArg Prod.snd he
    omega
  · rintro h ⟨b, k⟩ hp ⟨c, j⟩ hq he
    rw [hmem] at hp hq
    have hb : b ∈ bs := List.count_pos_iff.mp (by omega)
    have hc : c ∈ bs := List.count_pos_iff.mp (by omega)
    have hlist := congrArg String.toList he
    simp only [toList_numbered] at hlist
    -- One of the base names begins the other; unless they are equal, the longer one is numbered.
    rcases List.append_eq_append_iff.mp hlist with ⟨rest, hname, _⟩ | ⟨rest, hname, _⟩
    · by_cases hrest : rest = []
      · obtain rfl : c = b := String.toList_inj.mp (by simpa [hrest] using hname)
        exact Prod.ext rfl (numeral_injective (List.append_cancel_left hlist))
      · obtain ⟨m, hm, hle, rfl⟩ := exists_numbered_eq hrest hname he
        exact absurd hc (h b hb m hm (by omega))
    · by_cases hrest : rest = []
      · obtain rfl : b = c := String.toList_inj.mp (by simpa [hrest] using hname)
        exact Prod.ext rfl (numeral_injective (List.append_cancel_left hlist))
      · obtain ⟨m, hm, hle, rfl⟩ := exists_numbered_eq hrest hname he.symm
        exact absurd hb (h c hc m hm (by omega))

/-! ## The names of a table -/

/-- The names of the keys of a table, in order. -/
def namesIn (s : ForeignKeyStream) (schema table : String) : List String :=
  (s.foreignKeys.filter fun fk => fk.schema = schema ∧ fk.table = table).map (·.name)

/-- The kept rows of a table. -/
def keptIn (rows : List ForeignKeyRow) (schema table : String) : List ForeignKeyRow :=
  rows.filter fun r => pairsUp r ∧ r.schema = schema ∧ r.table = table

/-- The base names that the kept rows of a table ask for, in order. -/
def requested (ending : String) (rows : List ForeignKeyRow) (schema table : String) :
    List String :=
  (keptIn rows schema table).map fun r => baseName r.constraintName ending

/-- The kept rows of a table are those that its rows alone would keep. -/
theorem keptIn_eq (rows : List ForeignKeyRow) (schema table : String) :
    keptIn rows schema table = (rows.filter (isRowOf schema table)).filter (IsPaired ·) := by
  rw [keptIn, List.filter_filter]
  refine List.filter_congr fun r _ => ?_
  rw [Bool.eq_iff_iff]
  simp [pairsUp_eq, isRowOf]

/-- The keys of kept rows of one table are called by the base names of the rows, each numbered by its
occurrences before. -/
theorem map_name_keysOfKept {ending schema table : String} {kept : List ForeignKeyRow}
    (h : ∀ r ∈ kept, r.schema = schema ∧ r.table = table) :
    (keysOfKept ending kept).map (·.name) =
      (occurrences [] (kept.map fun r => baseName r.constraintName ending)).map fun p =>
        numbered p.1 p.2 := by
  induction kept using List.reverseRecOn with
  | nil => rfl
  | append_singleton kept r ih =>
    have hearlier : ∀ q ∈ kept, q.schema = schema ∧ q.table = table :=
      fun q hq => h q (List.mem_append_left _ hq)
    have hr : r.schema = schema ∧ r.table = table := h r (by simp)
    have hcount : kept.countP (Competes ending r ·) =
        (kept.map fun q => baseName q.constraintName ending).count
          (baseName r.constraintName ending) := by
      rw [List.count_eq_countP, List.countP_map]
      refine List.countP_congr fun q hq => ?_
      simp [Competes, hearlier q hq, hr]
    rw [keysOfKept_concat, List.map_append, ih hearlier, List.map_append, List.map_singleton,
      List.map_singleton, occurrences_concat, List.map_append, List.map_singleton, List.count_nil,
      Nat.zero_add, ← hcount, numbered_eq]
    rfl

/-- The keys of a table are called by the base names of its kept rows, each followed by the number
of its occurrences before. -/
theorem namesIn_ofRows (ending : String) (rows : List ForeignKeyRow) (schema table : String) :
    (ofRows ending rows).namesIn schema table =
      (occurrences [] (requested ending rows schema table)).map fun p => numbered p.1 p.2 := by
  have hown : ∀ r ∈ keptIn rows schema table, r.schema = schema ∧ r.table = table := by
    intro r hr
    simpa using (of_decide_eq_true (List.mem_filter.mp hr).2).2
  have hkeys : (ofRows ending rows).foreignKeys.filter (isKeyOf schema table) =
      keysOfKept ending (keptIn rows schema table) := by
    rw [(agreeOn_ofRows ending rows schema table).foreignKeys, (hasRead_ofRows ending _).foreignKeys,
      keptIn_eq]
  have hfilter : (ofRows ending rows).namesIn schema table =
      ((ofRows ending rows).foreignKeys.filter (isKeyOf schema table)).map (·.name) := by
    rw [namesIn]
    congr 1
    refine List.filter_congr fun fk _ => ?_
    rw [Bool.eq_iff_iff]
    simp [isKeyOf]
  rw [hfilter, hkeys, map_name_keysOfKept hown, requested]

/-! ## Constraints of one base name -/

/-- A constraint is called by its stem, with the ending or without it. -/
theorem eq_stem_or (name ending : String) :
    name = stem name ending ∨ name = stem name ending ++ ending := by
  unfold stem
  split
  · exact Or.inl rfl
  · split
    · exact Or.inl rfl
    · exact Or.inl rfl
    · rename_i front _ hfront
      rw [Text.beforeEnding?_eq_some_iff] at hfront
      exact Or.inr (String.toList_inj.mp (by simpa using hfront))

/-- The constraints of each table have names of their own. -/
def DistinctConstraints (rows : List ForeignKeyRow) : Prop :=
  (rows.map fun r => (r.schema, r.table, r.constraintName)).Nodup

instance (rows : List ForeignKeyRow) : Decidable (DistinctConstraints rows) :=
  inferInstanceAs (Decidable (List.Nodup _))

/-- Distinct constraints of a table ask for a base name twice at most. -/
theorem count_requested_le_two {rows : List ForeignKeyRow} (h : DistinctConstraints rows)
    (ending schema table base : String) :
    (requested ending rows schema table).count base ≤ 2 := by
  let asking := (keptIn rows schema table).filter fun r =>
    baseName r.constraintName ending == base
  have hcount : (requested ending rows schema table).count base = asking.length := by
    rw [requested, List.count_eq_countP, List.countP_map, List.countP_eq_length_filter]
    rfl
  have hsub : asking.Sublist rows := List.filter_sublist.trans List.filter_sublist
  have hasks : ∀ r ∈ asking, r.schema = schema ∧ r.table = table ∧
      baseName r.constraintName ending = base := by
    intro r hr
    obtain ⟨hkept, hbase⟩ := List.mem_filter.mp hr
    have := (List.mem_filter.mp hkept).2
    simp only [decide_eq_true_eq] at this
    exact ⟨this.2.1, this.2.2, by simpa using hbase⟩
  have hnodup : (asking.map (·.constraintName)).Nodup := by
    refine List.Nodup.of_map (fun name => (schema, table, name)) ?_
    rw [List.map_map]
    have hsame : asking.map ((fun name => (schema, table, name)) ∘ (·.constraintName)) =
        asking.map fun r => (r.schema, r.table, r.constraintName) := by
      refine List.map_congr_left fun r hr => ?_
      obtain ⟨hs, ht, _⟩ := hasks r hr
      simp [hs, ht]
    rw [hsame]
    exact h.sublist (hsub.map _)
  rw [hcount]
  cases hfirst : asking with
  | nil => simp
  | cons first _ =>
    have hstem : ∀ r ∈ asking, stem r.constraintName ending = stem first.constraintName ending := by
      intro r hr
      have he := (hasks r hr).2.2.trans (hasks first (hfirst ▸ List.mem_cons_self ..)).2.2.symm
      exact (String.append_right_inj _).mp he
    have hnames : asking.map (·.constraintName) ⊆
        [stem first.constraintName ending, stem first.constraintName ending ++ ending] := by
      intro name hname
      obtain ⟨r, hr, rfl⟩ := List.mem_map.mp hname
      have hform := eq_stem_or r.constraintName ending
      rw [hstem r hr] at hform
      simpa using hform
    have hlen := (hnodup.subperm hnames).length_le
    rwa [List.length_map, hfirst] at hlen

/-! ## Distinct names -/

/-- Whether some table asks twice for a base name, and also for that name followed by `1`. -/
def Collides (ending : String) (rows : List ForeignKeyRow) : Prop :=
  ∃ r ∈ rows, (requested ending rows r.schema r.table).count
      (baseName r.constraintName ending) = 2 ∧
    baseName r.constraintName ending ++ "1" ∈ requested ending rows r.schema r.table

instance (ending : String) (rows : List ForeignKeyRow) : Decidable (Collides ending rows) :=
  inferInstanceAs (Decidable (∃ r ∈ rows, _))

/-- Where the constraints of each table have names of their own, the foreign keys of every table
have distinct names exactly when no numbered name is asked for as it stands. -/
theorem nodup_namesIn_iff {ending : String} {rows : List ForeignKeyRow}
    (h : DistinctConstraints rows) :
    (∀ schema table, ((ofRows ending rows).namesIn schema table).Nodup) ↔
      ¬ Collides ending rows := by
  constructor
  · rintro hnames ⟨r, hr, htwice, hin⟩
    have hnodup := hnames r.schema r.table
    rw [namesIn_ofRows, nodup_map_numbered_iff] at hnodup
    refine hnodup _ (List.count_pos_iff.mp ?_) 1 Nat.one_pos ?_ hin
    · omega
    · omega
  · intro hapart schema table
    rw [namesIn_ofRows, nodup_map_numbered_iff]
    intro base hbase k hk hcount hin
    have htwo := count_requested_le_two h ending schema table base
    obtain rfl : k = 1 := by omega
    obtain ⟨r, hr, rfl⟩ := List.mem_map.mp hbase
    obtain ⟨hrows, hkept⟩ := List.mem_filter.mp hr
    simp only [decide_eq_true_eq] at hkept
    obtain ⟨_, rfl, rfl⟩ := hkept
    exact hapart ⟨r, hrows, by omega, hin⟩

/-- Foreign keys of one table, one for each constraint name. -/
def keyRows (constraints : List String) : List ForeignKeyRow :=
  constraints.map fun constraint =>
    { schema := "s", table := "t", constraintName := constraint, columns := ["a"]
      refSchema := "s", refTable := "u", refColumns := ["b"] }

theorem nodup_namesIn_owner :
    DistinctConstraints (keyRows ["owner", "owner_fkey", "owner2"]) ∧
      ∀ schema table,
        ((ofRows "_fkey" (keyRows ["owner", "owner_fkey", "owner2"])).namesIn schema table).Nodup :=
  ⟨by decide, (nodup_namesIn_iff (by decide)).mpr (by decide)⟩

/-- A constraint that is called like a numbered key makes two keys of one name. -/
theorem not_nodup_namesIn_owner :
    DistinctConstraints (keyRows ["owner", "owner_fkey", "owner1"]) ∧
      (ofRows "_fkey" (keyRows ["owner", "owner_fkey", "owner1"])).namesIn "s" "t" =
        ["FK_owner", "FK_owner1", "FK_owner1"] ∧
      ¬ ∀ schema table,
        ((ofRows "_fkey" (keyRows ["owner", "owner_fkey", "owner1"])).namesIn
          schema table).Nodup := by
  refine ⟨by decide, by decide, fun h => ?_⟩
  have htable := h "s" "t"
  revert htable
  decide

end ForeignKeyStream

end SchemaTransfer.Build
