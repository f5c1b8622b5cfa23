import SchemaTransfer.Proofs.Document.Values

/-!
# Records that a map gives

A map gives a record when it has each member once, under its name, or leaves it out where a
declared value stands in for it. The order of the entries does not matter, and entries with other
names are allowed. Main statement: a record is read from every map that gives it.
-/

namespace SchemaTransfer.Document

/-- A member of a record. -/
structure Member where
  name : String
  /-- The nodes that its value may be read from. -/
  admits : Node → Prop
  /-- Whether a value that stands in for it is its value, so that it may be left out. -/
  isImplied : Prop

namespace Member

/-- A member that has to be given. -/
def required (name : String) (v : Value) : Member := ⟨name, (· = v.node), False⟩

/-- A member that may be left out when it has the declared value. -/
def defaulted (name : String) (declared v : Value) : Member := ⟨name, (· = v.node), v = declared⟩

end Member

/-- The nodes that entries have under a name. -/
def under (name : String) (entries : List (Node × Node)) : List Node :=
  entries.filterMap fun e =>
    match e.1 with
    | .scalar (.text key) => if key = name then some e.2 else none
    | _ => none

/-- Whether the entries of a map give the members of a record: each once, or not at all where it
is implied. -/
structure Gives (entries : List (Node × Node)) (ms : List Member) : Prop where
  named : ∀ e ∈ entries, ∃ key, e.1 = .scalar (.text key)
  given : ∀ m ∈ ms, (∃ n, under m.name entries = [n] ∧ m.admits n) ∨
    (under m.name entries = [] ∧ m.isImplied)

/-- Whether a node is a map that gives the members of a record. -/
def Node.gives (ms : List Member) (n : Node) : Prop :=
  ∃ entries, n = .map entries true ∧ Gives entries ms

/-- A list of rows, each given by its members; it may be left out when there are none. -/
def Member.rows {α : Type} (name : String) (members : α → List Member) (as : List α) : Member :=
  ⟨name, fun n => ∃ ns, n = .list ns true ∧ List.Forall₂ (fun a n => n.gives (members a)) as ns,
    as = []⟩

/-! ## Changes that keep what is given -/

variable {ms : List Member} {entries : List (Node × Node)}

theorem under_cons_self (name : String) (n : Node) :
    under name ((.scalar (.text name), n) :: entries) = n :: under name entries := by
  simp [under]

theorem under_cons_of_ne {name key : String} (h : key ≠ name) (n : Node) :
    under name ((.scalar (.text key), n) :: entries) = under name entries := by
  simp [under, h]

/-- Members may be given in any order. -/
theorem Gives.perm {others : List (Node × Node)} (h : Gives entries ms)
    (hp : entries.Perm others) : Gives others ms where
  named e he := h.named e (hp.mem_iff.mpr he)
  given m hm := by
    have hunder : (under m.name entries).Perm (under m.name others) := hp.filterMap _
    rcases h.given m hm with ⟨n, hn, hadmits⟩ | ⟨hnone, himplied⟩
    · rw [hn] at hunder
      exact Or.inl ⟨n, List.perm_singleton.mp hunder.symm, hadmits⟩
    · rw [hnone] at hunder
      exact Or.inr ⟨hunder.symm.eq_nil, himplied⟩

/-- A member of an unknown name may be added. -/
theorem Gives.cons_unknown {key : String} (h : Gives entries ms)
    (hkey : ∀ m ∈ ms, key ≠ m.name) (n : Node) :
    Gives ((.scalar (.text key), n) :: entries) ms where
  named e he := by
    rcases List.mem_cons.mp he with rfl | he
    · exact ⟨key, rfl⟩
    · exact h.named e he
  given m hm := by
    rw [under_cons_of_ne (hkey m hm)]
    exact h.given m hm

/-- A member may be left out when its value is the one that stands in for it. -/
theorem Gives.of_cons_implied {key : String} {n : Node}
    (h : Gives ((.scalar (.text key), n) :: entries) ms)
    (himplied : ∀ m ∈ ms, key = m.name → m.isImplied) : Gives entries ms where
  named e he := h.named e (List.mem_cons_of_mem _ he)
  given m hm := by
    have hrest := h.given m hm
    by_cases hname : key = m.name
    · rw [hname, under_cons_self] at hrest
      rcases hrest with ⟨_, hn, _⟩ | ⟨hnone, _⟩
      · exact Or.inr ⟨(List.cons.inj hn).2, himplied m hm hname⟩
      · cases hnone
    · rwa [under_cons_of_ne hname] at hrest

/-- What is under no name of the entries is not there. -/
theorem under_eq_nil {name : String} (h : ∀ e ∈ entries, e.1 ≠ .scalar (.text name)) :
    under name entries = [] := by
  refine List.filterMap_eq_nil_iff.mpr fun e he => ?_
  split
  · rename_i key hkey
    refine if_neg ?_
    rintro rfl
    exact h e he hkey
  · rfl

theorem isWhole_of_mem_entries {e : Node × Node} (h : entriesWhole entries = true)
    (he : e ∈ entries) : e.2.isWhole = true := by
  induction entries with
  | nil => cases he
  | cons first entries ih =>
    obtain ⟨key, value⟩ := first
    simp only [entriesWhole, Bool.and_eq_true] at h
    rcases List.mem_cons.mp he with rfl | he
    · exact h.1.2
    · exact ih h.2 he

theorem isWhole_of_mem_under {name : String} {n : Node} (h : entriesWhole entries = true)
    (hn : n ∈ under name entries) : n.isWhole = true := by
  obtain ⟨e, he, hvalue⟩ := List.mem_filterMap.mp hn
  split at hvalue
  · obtain ⟨-, hvalue⟩ := Option.ite_none_right_eq_some.mp hvalue
    exact Option.some.inj hvalue ▸ isWhole_of_mem_entries h he
  · cases hvalue

/-- All members together give a record. -/
theorem gives_of_forall₂ (hms : (ms.map (·.name)).Nodup)
    (h : List.Forall₂ (fun e m => e.1 = .scalar (.text m.name) ∧ m.admits e.2) entries ms) :
    Gives entries ms ∧ ∀ e ∈ entries, ∃ m ∈ ms, e.1 = .scalar (.text m.name) := by
  induction h with
  | nil => exact ⟨⟨by simp, by simp⟩, by simp⟩
  | @cons e m entries ms he h ih =>
    obtain ⟨key, n⟩ := e
    obtain ⟨rfl, hadmits⟩ := he
    rw [List.map_cons, List.nodup_cons] at hms
    obtain ⟨hgives, hnames⟩ := ih hms.2
    have hne : ∀ m' ∈ ms, m.name ≠ m'.name := fun m' hm' heq =>
      hms.1 (heq ▸ List.mem_map_of_mem hm')
    have hnone : under m.name entries = [] := by
      refine under_eq_nil fun e he hkey => ?_
      obtain ⟨m', hm', hname⟩ := hnames e he
      rw [hkey] at hname
      exact hne m' hm' (Scalar.text.inj (Node.scalar.inj hname))
    refine ⟨⟨?_, ?_⟩, ?_⟩
    · exact List.forall_mem_cons.mpr ⟨⟨m.name, rfl⟩, hgives.named⟩
    · refine List.forall_mem_cons.mpr ⟨Or.inl ⟨n, ?_, hadmits⟩, fun m' hm' => ?_⟩
      · rw [under_cons_self, hnone]
      · rw [under_cons_of_ne (hne m' hm')]
        exact hgives.given m' hm'
    · refine List.forall_mem_cons.mpr ⟨⟨m, List.mem_cons_self, rfl⟩, fun e he => ?_⟩
      obtain ⟨m', hm', hname⟩ := hnames e he
      exact ⟨m', List.mem_cons_of_mem m hm', hname⟩

/-- A record that is written in full gives its members. -/
theorem gives_record {members : List (String × Value)} (hms : (ms.map (·.name)).Nodup)
    (h : List.Forall₂ (fun v m => v.1 = m.name ∧ m.admits v.2.node) members ms) :
    (Value.record members).node.gives ms := by
  refine ⟨_, rfl, (gives_of_forall₂ hms ?_).1⟩
  rw [entriesOf_eq_map, List.forall₂_map_left_iff]
  exact h.imp fun v m ⟨hname, hadmits⟩ => ⟨congrArg (Node.scalar ∘ Scalar.text) hname, hadmits⟩

/-! ## Reading what is given -/

namespace RecordReader

/-- Whether a reader takes what maps give for members to a record. -/
structure Takes {α : Type} (r : RecordReader α) (ms : List Member) (a : α) : Prop where
  /-- The fields are the members, and what a member admits passes the check of its field. -/
  checks : List.Forall₂ (fun (f : String × Reader Unit) (m : Member) =>
    f.1 = m.name ∧ ∀ s n, m.admits n → n.isWhole = true → f.2 s n = .ok ()) r.fields ms
  /-- What is found under the names of the members makes the record. -/
  makes : ∀ s known,
    (∀ m ∈ ms, (∃ n, known.lookup m.name = some n ∧ m.admits n ∧ n.isWhole = true) ∨
      (known.lookup m.name = none ∧ m.isImplied)) → r.ofMembers s known = .ok a

variable {α β : Type}

theorem takes_pure (a : α) : (RecordReader.pure a).Takes [] a :=
  ⟨.nil, fun _ _ _ => rfl⟩

/-- The members of a function and of its argument are those of the result. -/
theorem Takes.seq {g : RecordReader (α → β)} {x : RecordReader α} {h : α → β} {a : α}
    {gms xms : List Member} (hg : g.Takes gms h) (hx : x.Takes xms a) :
    (g <*> x).Takes (gms ++ xms) (h a) where
  checks := List.rel_append hg.checks hx.checks
  makes s known hknown := by
    have hmakes := hg.makes s known fun m hm => hknown m (List.mem_append_left _ hm)
    have hargument := hx.makes s known fun m hm => hknown m (List.mem_append_right _ hm)
    calc (g.seq x).ofMembers s known
        = (x.ofMembers s known).map h := by simp only [RecordReader.seq, hmakes]
      _ = .ok (h a) := by rw [hargument]; rfl

theorem Takes.map {x : RecordReader α} {ms : List Member} {a : α} (hx : x.Takes ms a)
    (h : α → β) : (h <$> x).Takes ms (h a) :=
  (takes_pure h).seq hx

/-- A field takes a member whose value its reader reads, if it has it that an absent one stands
for the value where the member is implied. -/
theorem takes_field {r : Reader α} {absent : Absent α} {m : Member} {a : α}
    (hr : ∀ s n, m.admits n → n.isWhole = true → r s n = .ok a)
    (habsent : m.isImplied → absent = .unnamed a ∨ absent = .value a) :
    (field m.name r absent).Takes [m] a where
  checks := .cons ⟨rfl, fun s n hn hwhole => by simp [hr s n hn hwhole, Except.map]⟩ .nil
  makes s known hknown := by
    rcases hknown m (List.mem_singleton_self m) with ⟨n, hn, hadmits, hwhole⟩ | ⟨hnone, himplied⟩
    · simp only [field, hn, hr s n hadmits hwhole]
    · rcases habsent himplied with rfl | rfl <;> simp only [field, hnone]

theorem takes_required {r : Reader α} {write : α → Value} (hr : r.Inverts write) (name : String)
    (a : α) : (required name r).Takes [.required name (write a)] a :=
  takes_field (m := .required name (write a)) (fun s _ hn _ => hn ▸ hr s a) False.elim

theorem takes_withDefault {r : Reader α} {write : α → Value} (hr : r.Inverts write)
    (name : String) (declared a : α) :
    (withDefault name r declared).Takes [.defaulted name (write declared) (write a)] a :=
  takes_field (m := .defaulted name (write declared) (write a)) (fun s _ hn _ => hn ▸ hr s a)
    fun h => Or.inr (by rw [hr.injective h])

theorem takes_unnamed {r : Reader α} {write : α → Value} (hr : r.Inverts write)
    (name : String) (declared a : α) : (field name r (.unnamed declared)).Takes
      [.defaulted name (write declared) (write a)] a :=
  takes_field (m := .defaulted name (write declared) (write a)) (fun s _ hn _ => hn ▸ hr s a)
    fun h => Or.inl (by rw [hr.injective h])

/-! ## Records -/

/-- The fields of a reader have the names of the members that it takes. -/
theorem Takes.map_name {r : RecordReader α} {ms : List Member} {a : α} (h : r.Takes ms a) :
    ms.map (·.name) = r.fields.map (·.1) := by
  have hchecks := h.checks
  generalize r.fields = fields at hchecks ⊢
  clear h
  induction hchecks with
  | nil => rfl
  | cons hf _ ih => rw [List.map_cons, List.map_cons, ih, hf.1]

/-- The check of the field of a member. -/
theorem Takes.lookup_fields {r : RecordReader α} {ms : List Member} {a : α} (h : r.Takes ms a)
    (hms : (ms.map (·.name)).Nodup) {m : Member} (hm : m ∈ ms) :
    ∃ check, r.fields.lookup m.name = some check ∧
      ∀ s n, m.admits n → n.isWhole = true → check s n = .ok () := by
  have hchecks := h.checks
  generalize r.fields = fields at hchecks ⊢
  clear h
  induction hchecks with
  | nil => cases hm
  | @cons f m' fields ms hf hchecks ih =>
    obtain ⟨fieldName, check⟩ := f
    obtain ⟨rfl, hpass⟩ := hf
    rw [List.map_cons, List.nodup_cons] at hms
    rcases List.mem_cons.mp hm with rfl | hm
    · exact ⟨check, List.lookup_cons_self, hpass⟩
    · have hne : (m.name == m'.name) = false :=
        beq_false_of_ne fun heq => hms.1 (heq ▸ List.mem_map_of_mem hm)
      rw [List.lookup_cons, hne]
      exact ih hms.2 hm

/-- A name that no member has is that of no field. -/
theorem Takes.lookup_fields_eq_none {r : RecordReader α} {ms : List Member} {a : α}
    (h : r.Takes ms a) {name : String} (hname : ∀ m ∈ ms, name ≠ m.name) :
    r.fields.lookup name = none := by
  have hchecks := h.checks
  generalize r.fields = fields at hchecks ⊢
  clear h
  induction hchecks with
  | nil => rfl
  | @cons f m fields ms hf hchecks ih =>
    obtain ⟨fieldName, check⟩ := f
    obtain ⟨rfl, -⟩ := hf
    rw [List.lookup_cons, beq_false_of_ne (hname m List.mem_cons_self)]
    exact ih fun m' hm' => hname m' (List.mem_cons_of_mem m hm')

theorem keyName_text (s : Scope) (name : String) :
    keyName s (.scalar (.text name)) = .ok name := rfl

/-- The entries of a map are gone through once: each member is found under its name. What was seen
before is not given again. -/
theorem Takes.exists_members {r : RecordReader α} {ms : List Member} {a : α} (h : r.Takes ms a)
    (hms : (ms.map (·.name)).Nodup) (s : Scope) {entries : List (Node × Node)}
    (hwhole : entriesWhole entries = true)
    (hnamed : ∀ e ∈ entries, ∃ key, e.1 = .scalar (.text key)) {seen : List String}
    (hgiven : ∀ m ∈ ms, under m.name entries = [] ∨
      m.name ∉ seen ∧ ∃ n, under m.name entries = [n] ∧ m.admits n) :
    ∃ known, r.members s true seen entries = .ok known ∧
      ∀ m ∈ ms, known.lookup m.name = (under m.name entries).head? := by
  induction entries generalizing seen with
  | nil => exact ⟨[], rfl, fun _ _ => rfl⟩
  | cons e entries ih =>
    obtain ⟨key, value⟩ := e
    obtain ⟨name, rfl⟩ := hnamed (key, value) List.mem_cons_self
    simp only [entriesWhole, Bool.and_eq_true] at hwhole
    have hrest : ∀ e ∈ entries, ∃ key, e.1 = .scalar (.text key) := fun e he =>
      hnamed e (List.mem_cons_of_mem _ he)
    by_cases hfield : ∃ m ∈ ms, m.name = name
    · obtain ⟨m, hm, rfl⟩ := hfield
      obtain ⟨check, hcheck, hpass⟩ := h.lookup_fields hms hm
      obtain ⟨hseen, hnone, hadmits⟩ :
          m.name ∉ seen ∧ under m.name entries = [] ∧ m.admits value := by
        have honce := hgiven m hm
        rw [under_cons_self] at honce
        rcases honce with hnone | ⟨hseen, n, hn, hadmits⟩
        · cases hnone
        · obtain ⟨rfl, hnone⟩ := List.cons.inj hn
          exact ⟨hseen, hnone, hadmits⟩
      have hlater : ∀ m' ∈ ms, under m'.name entries = [] ∨
          m'.name ∉ m.name :: seen ∧ ∃ n, under m'.name entries = [n] ∧ m'.admits n := by
        intro m' hm'
        by_cases hname : m.name = m'.name
        · exact Or.inl (hname ▸ hnone)
        · have hsame := hgiven m' hm'
          rw [under_cons_of_ne hname] at hsame
          exact hsame.imp_right
            (And.imp_left (List.not_mem_cons_of_ne_of_not_mem (Ne.symm hname)))
      obtain ⟨known, hknown, hlookup⟩ := ih hwhole.2 hrest hlater
      refine ⟨(m.name, value) :: known, ?_, fun m' hm' => ?_⟩
      · rw [members, keyName_text]
        simp only [hcheck, hseen, if_false, hpass s value hadmits hwhole.1.2, hknown]
        rfl
      · by_cases hname : m.name = m'.name
        · rw [← hname, under_cons_self, List.lookup_cons_self, List.head?_cons]
        · rw [under_cons_of_ne hname, List.lookup_cons, beq_false_of_ne (Ne.symm hname)]
          exact hlookup m' hm'
    · have hunknown : ∀ m ∈ ms, name ≠ m.name := fun m hm heq => hfield ⟨m, hm, heq.symm⟩
      have hlater : ∀ m ∈ ms, under m.name entries = [] ∨
          m.name ∉ seen ∧ ∃ n, under m.name entries = [n] ∧ m.admits n := by
        intro m hm
        rw [← under_cons_of_ne (hunknown m hm)]
        exact hgiven m hm
      obtain ⟨known, hknown, hlookup⟩ := ih hwhole.2 hrest hlater
      refine ⟨known, ?_, fun m hm => ?_⟩
      · rw [members, keyName_text]
        simp only [h.lookup_fields_eq_none hunknown, hwhole.1.2, if_true, hknown]
      · rw [under_cons_of_ne (hunknown m hm)]
        exact hlookup m hm

/-- A record is read from every map that gives its members. -/
theorem Takes.read_eq {r : RecordReader α} {ms : List Member} {a : α} (h : r.Takes ms a)
    (hms : (ms.map (·.name)).Nodup) {n : Node} (hn : n.gives ms) (hwhole : n.isWhole = true)
    (name : String) (s : Scope) : r.read name s n = .ok a := by
  obtain ⟨entries, rfl, hg⟩ := hn
  have hentries : entriesWhole entries = true := by simpa [Node.isWhole] using hwhole
  have hgiven : ∀ m ∈ ms, under m.name entries = [] ∨
      m.name ∉ ([] : List String) ∧ ∃ n, under m.name entries = [n] ∧ m.admits n := by
    intro m hm
    rcases hg.given m hm with hgiven | ⟨hnone, _⟩
    · exact Or.inr ⟨List.not_mem_nil, hgiven⟩
    · exact Or.inl hnone
  obtain ⟨known, hknown, hlookup⟩ := h.exists_members hms s hentries hg.named hgiven
  have hmakes : r.ofMembers s known = .ok a := h.makes s known fun m hm => by
    rw [hlookup m hm]
    rcases hg.given m hm with ⟨n, hn, hadmits⟩ | ⟨hnone, himplied⟩
    · have hmem : n ∈ under m.name entries := by simp [hn]
      exact Or.inl ⟨n, by rw [hn]; rfl, hadmits, isWhole_of_mem_under hentries hmem⟩
    · exact Or.inr ⟨by rw [hnone]; rfl, himplied⟩
  calc r.read name s (.map entries true)
      = (r.members s true [] entries).bind (r.ofMembers s) := by
        simp only [RecordReader.read]
        rfl
    _ = .ok a := by rw [hknown]; exact hmakes

end RecordReader

/-! ## Rows -/

/-- Whether a reader reads records from all maps that give their members, and they are written as
such maps. -/
structure Reader.Recovers {α : Type} (r : Reader α) (write : α → Value)
    (members : α → List Member) : Prop where
  read_eq : ∀ s a n, n.gives (members a) → n.isWhole = true → r s n = .ok a
  gives : ∀ a, (write a).node.gives (members a)

variable {α : Type} {members : α → List Member}

/-- Records are recovered if their members are taken and all of them are written. -/
theorem RecordReader.recovers {r : RecordReader α} {written : α → List (String × Value)}
    (hr : ∀ a, r.Takes (members a) a) (hnames : (r.fields.map (·.1)).Nodup)
    (hwritten : ∀ a, List.Forall₂ (fun v m => v.1 = m.name ∧ m.admits v.2.node) (written a)
      (members a)) (name : String) :
    (r.read name).Recovers (fun a => .record (written a)) members where
  read_eq s a _ hn hwhole := (hr a).read_eq ((hr a).map_name ▸ hnames) hn hwhole name s
  gives a := gives_record ((hr a).map_name ▸ hnames) (hwritten a)

variable {r : Reader α} {write : α → Value}

/-- Rows are read from nodes that give them. -/
theorem Reader.Recovers.takes_rows (hr : r.Recovers write members) (name : String) (as : List α) :
    (RecordReader.withDefault name (.list r) []).Takes [.rows name members as] as := by
  refine RecordReader.takes_field (m := .rows name members as) ?_
    fun h => Or.inr (congrArg RecordReader.Absent.value h.symm)
  rintro s n ⟨ns, rfl, hns⟩ hwhole
  have hitems : itemsWhole ns = true := by simpa [Node.isWhole] using hwhole
  refine Reader.list_eq s ?_
  clear hwhole
  induction hns with
  | nil => exact .nil
  | cons ha _ ih =>
    simp only [itemsWhole, Bool.and_eq_true] at hitems
    exact .cons (hr.read_eq s _ _ ha hitems.1) (ih hitems.2)

/-- Rows are written as nodes that give them. -/
theorem Reader.Recovers.admits_rows (hr : r.Recovers write members) (name : String)
    (as : List α) : (Member.rows name members as).admits (Value.list (as.map write)).node := by
  refine ⟨_, rfl, ?_⟩
  rw [nodesOf_eq_map, List.map_map, List.forall₂_map_right_iff]
  exact List.forall₂_same.mpr fun a _ => hr.gives a

end SchemaTransfer.Document
