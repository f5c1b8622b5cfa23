import SchemaTransfer.Proofs.Conversion.Frame
import SchemaTransfer.Proofs.Emission.Mentions
import SchemaTransfer.Proofs.Flattening.Columns
import SchemaTransfer.Proofs.Identifier.Splitting
import SchemaTransfer.Proofs.TypeName.Spelling

/-!
# Columns of a domain's type

The source prints the type of a column as a reference: a name, with its schema when the domain is
not found without, each part bare or between double quotes, and array marks behind. Main statement:
the column has the domain for its type that the reference stands for, which with a schema is that
one alone, and without one a domain of the table's schema before the only domain of the name; else
it has no domain. What flattening puts in the place of the column has the same.
-/

namespace SchemaTransfer

/-- The name of a domain with its schema. -/
def UserType.objectName (d : UserType) : ObjectName := ⟨d.schema, d.name⟩

/-- A reference to a type, by a name with a schema or without. -/
structure TypeReference where
  schema : Option String
  name : String

namespace TypeReference

/-- The texts that a part of a name is printed as: the part itself, if nothing in it needs quotes, or
the part between quotes. -/
inductive PrintsPart (name : String) : String → Prop
  | bare (hname : name ≠ "") (hchars : ∀ c ∈ name.toList,
      Text.isBlank c = false ∧ c ∉ ['.', '"', '[', ']']) : PrintsPart name name
  | quoted (hname : name ≠ "") : PrintsPart name (Identifier.inQuotes name)

/-- The texts that a reference is printed as. -/
inductive Prints (r : TypeReference) : String → Prop
  | qualified {schema front back : String} (hschema : r.schema = some schema)
      (hfront : PrintsPart schema front) (hback : PrintsPart r.name back) :
      Prints r (front ++ "." ++ back)
  | unqualified {text : String} (hschema : r.schema = none) (hname : PrintsPart r.name text) :
      Prints r text

/-- The domains that a reference stands for in a table of a schema. -/
inductive StandsFor (r : TypeReference) (types : List UserType) (tableSchema : String) :
    UserType → Prop
  /-- A name with a schema stands for the domain of both. -/
  | qualified {d : UserType} (hd : d ∈ types) (hschema : r.schema = some d.schema)
      (hname : d.name = r.name) : StandsFor r types tableSchema d
  /-- A name without a schema stands for a domain of the table's schema, -/
  | own {d : UserType} (hd : d ∈ types) (hschema : r.schema = none)
      (hown : d.schema = tableSchema) (hname : d.name = r.name) : StandsFor r types tableSchema d
  /-- and when there is none for a domain of the only schema that has one of the name. -/
  | only {d : UserType} (hd : d ∈ types) (hschema : r.schema = none)
      (hown : ∀ e ∈ types, e.name = r.name → e.schema ≠ tableSchema) (hname : d.name = r.name)
      (honly : ∀ e ∈ types, e.name = r.name → e.schema = d.schema) :
      StandsFor r types tableSchema d

/-! ## Reading a printed reference -/

variable {r : TypeReference} {name text : String}

namespace PrintsPart

/-- A printed part stands between quotes or bare, and is read as such. -/
theorem exists_printedPart (h : PrintsPart name text) :
    ∃ p : Identifier.PrintedPart, p.name = name ∧ p.text = text := by
  cases h with
  | bare _ hchars =>
    refine ⟨.bare name fun c hc => ?_, rfl, rfl⟩
    obtain ⟨_, hmark⟩ := hchars c hc
    simp only [List.mem_cons, not_or] at hmark
    exact ⟨hmark.1, hmark.2.1⟩
  | quoted => exact ⟨.quoted name, rfl, rfl⟩

/-- A printed part begins with neither a blank nor an opening bracket. -/
theorem exists_cons (h : PrintsPart name text) :
    ∃ c rest, text.toList = c :: rest ∧ Text.isBlank c = false ∧ c ≠ '[' := by
  cases h with
  | bare hname hchars =>
    obtain ⟨c, rest, hcons⟩ := List.exists_cons_of_ne_nil (mt String.toList_eq_nil_iff.mp hname)
    obtain ⟨hblank, hmark⟩ := hchars c (by simp [hcons])
    exact ⟨c, rest, hcons, hblank, by rintro rfl; exact hmark (by decide)⟩
  | quoted =>
    exact ⟨'"', _, Identifier.toList_inQuotes name, by decide, by decide⟩

/-- A printed part ends with neither a blank nor a closing bracket. -/
theorem exists_concat (h : PrintsPart name text) :
    ∃ front c, text.toList = front ++ [c] ∧ Text.isBlank c = false ∧ c ≠ ']' := by
  cases h with
  | bare hname hchars =>
    have hne : name.toList ≠ [] := mt String.toList_eq_nil_iff.mp hname
    obtain ⟨hblank, hmark⟩ := hchars _ (List.getLast_mem hne)
    refine ⟨_, _, (List.dropLast_append_getLast hne).symm, hblank, fun he => ?_⟩
    rw [he] at hmark
    exact hmark (by decide)
  | quoted =>
    exact ⟨_, '"', Identifier.toList_inQuotes name, by decide, by decide⟩

end PrintsPart

namespace Prints

/-- A printed reference is read as its parts. -/
theorem split_eq (h : r.Prints text) :
    Identifier.split text = r.schema.toList ++ [r.name] := by
  rw [Identifier.split]
  cases h with
  | @qualified schema front back hschema hfront hback =>
    obtain ⟨p, hp, rfl⟩ := hfront.exists_printedPart
    obtain ⟨q, hq, rfl⟩ := hback.exists_printedPart
    have htext : (p.text ++ "." ++ q.text).toList = p.text.toList ++ '.' :: q.text.toList := by simp
    rw [htext, p.splitList_text_dot, q.splitList_text, hschema]
    simp [hp, hq]
  | unqualified hschema hprinted =>
    obtain ⟨p, hp, rfl⟩ := hprinted.exists_printedPart
    rw [p.splitList_text, hschema]
    simp [hp]

/-- A printed reference begins with neither a blank nor an opening bracket. -/
theorem exists_cons (h : r.Prints text) :
    ∃ c rest, text.toList = c :: rest ∧ Text.isBlank c = false ∧ c ≠ '[' := by
  cases h with
  | @qualified schema front back _ hfront _ =>
    obtain ⟨c, rest, hcons, hc⟩ := hfront.exists_cons
    exact ⟨c, rest ++ '.' :: back.toList, by simp [hcons], hc⟩
  | unqualified _ hname => exact hname.exists_cons

/-- A printed reference ends with neither a blank nor a closing bracket. -/
theorem exists_concat (h : r.Prints text) :
    ∃ front c, text.toList = front ++ [c] ∧ Text.isBlank c = false ∧ c ≠ ']' := by
  cases h with
  | @qualified schema front back _ _ hback =>
    obtain ⟨before, c, hconcat, hc⟩ := hback.exists_concat
    exact ⟨front.toList ++ '.' :: before, c, by simp [hconcat], hc⟩
  | unqualified _ hname => exact hname.exists_concat

/-- A printed reference is bare. -/
theorem bare_eq (h : r.Prints text) : TypeName.bare text = text := by
  obtain ⟨first, rest, hcons, hfirst, _⟩ := h.exists_cons
  obtain ⟨front, last, hconcat, hlast, hmark⟩ := h.exists_concat
  have hstart : Text.trimStart text.toList = text.toList := by
    rw [hcons, Text.trimStart, List.dropWhile_cons_of_neg (by simp [hfirst])]
  rw [hconcat] at hstart
  rw [← String.toList_inj, TypeName.toList_bare, hconcat,
    TypeName.bareList_concat hstart hlast hmark]

end Prints

/-! ## Looking a domain up -/

variable {types : List UserType} {schema : String} {d : UserType}

/-- Of different members one is the only one exactly when it is every member. -/
theorem single?_eq_some_iff {α : Type} {xs : List α} {x : α} (h : xs.Nodup) :
    Emission.single? xs = some x ↔ x ∈ xs ∧ ∀ y ∈ xs, y = x := by
  match xs with
  | [] => simp [Emission.single?]
  | [y] => simp [Emission.single?, eq_comm]
  | y :: z :: rest =>
    have hne : y ≠ z := fun he => (List.nodup_cons.mp h).1 (by simp [he])
    simp only [Emission.single?, reduceCtorEq, false_iff, not_and]
    intro _ hall
    exact hne ((hall y (by simp)).trans (hall z (by simp)).symm)

/-- By its schema and its name a domain is found if it is there. -/
theorem find?_eq_some_iff (hids : (types.map UserType.objectName).Nodup) :
    (types.find? fun t => t.schema == schema && t.name == name) = some d ↔
      d ∈ types ∧ d.schema = schema ∧ d.name = name := by
  constructor
  · intro h
    have hd := List.find?_some h
    simp only [Bool.and_eq_true, beq_iff_eq] at hd
    exact ⟨List.mem_of_find?_eq_some h, hd⟩
  · rintro ⟨hd, rfl, rfl⟩
    cases hfound : types.find? fun t => t.schema == d.schema && t.name == d.name with
    | none => exact absurd (List.find?_eq_none.mp hfound d hd) (by simp)
    | some e =>
      have he := List.find?_some hfound
      simp only [Bool.and_eq_true, beq_iff_eq] at he
      have hname : e.objectName = d.objectName := ObjectName.mk.injEq .. |>.mpr he
      rw [List.inj_on_of_nodup_map hids (List.mem_of_find?_eq_some hfound) hd hname]

/-- A reference with a schema stands for the domain of both. -/
theorem standsFor_iff_of_some (h : r.schema = some schema) {tableSchema : String} :
    r.StandsFor types tableSchema d ↔ d ∈ types ∧ d.schema = schema ∧ d.name = r.name := by
  constructor
  · rintro (⟨hd, hschema, hname⟩ | ⟨_, hschema, _⟩ | ⟨_, hschema, _⟩)
    · exact ⟨hd, Option.some.inj (hschema.symm.trans h), hname⟩
    · exact absurd (hschema.symm.trans h) (by simp)
    · exact absurd (hschema.symm.trans h) (by simp)
  · rintro ⟨hd, rfl, hname⟩
    exact .qualified hd h hname

/-- A reference without a schema stands for a domain of the table's schema, if there is one. -/
theorem standsFor_iff_of_own {own : UserType} (h : r.schema = none)
    (hids : (types.map UserType.objectName).Nodup) (hown : own ∈ types)
    (hname : own.name = r.name) : r.StandsFor types own.schema d ↔ own = d := by
  constructor
  · rintro (⟨_, hschema, _⟩ | ⟨hd, _, hschema, hd'⟩ | ⟨_, _, hnone, _, _⟩)
    · exact absurd (hschema.symm.trans h) (by simp)
    · exact List.inj_on_of_nodup_map hids hown hd
        (ObjectName.mk.injEq .. |>.mpr ⟨hschema.symm, hname.trans hd'.symm⟩)
    · exact absurd rfl (hnone own hown hname)
  · rintro rfl
    exact .own hown h rfl hname

/-- Else it stands for the only domain of the name. -/
theorem standsFor_iff_of_not_own (h : r.schema = none)
    (hids : (types.map UserType.objectName).Nodup)
    (hnone : ∀ e ∈ types, e.name = r.name → e.schema ≠ schema) :
    r.StandsFor types schema d ↔
      (d ∈ types ∧ d.name = r.name) ∧ ∀ e ∈ types, e.name = r.name → e = d := by
  constructor
  · rintro (⟨_, hschema, _⟩ | ⟨hd, _, hschema, hname⟩ | ⟨hd, _, _, hname, honly⟩)
    · exact absurd (hschema.symm.trans h) (by simp)
    · exact absurd hschema (hnone d hd hname)
    · refine ⟨⟨hd, hname⟩, fun e he hename => List.inj_on_of_nodup_map hids he hd ?_⟩
      exact ObjectName.mk.injEq .. |>.mpr ⟨honly e he hename, hename.trans hname.symm⟩
  · rintro ⟨⟨hd, hname⟩, honly⟩
    exact .only hd h hnone hname fun e he hename => congrArg _ (honly e he hename)

/-- A reference stands for the domain that is looked up under its parts. -/
theorem domain?_eq_some_iff (hids : (types.map UserType.objectName).Nodup)
    (h : Identifier.split text = r.schema.toList ++ [r.name]) :
    Emission.domain? types schema text = some d ↔ r.StandsFor types schema d := by
  unfold Emission.domain?
  cases hschema : r.schema with
  | some owner =>
    rw [hschema] at h
    simp only [h, Option.toList_some, List.singleton_append]
    rw [find?_eq_some_iff hids, standsFor_iff_of_some hschema]
  | none =>
    rw [hschema] at h
    simp only [h, Option.toList_none, List.nil_append]
    cases hfound : types.find? fun t => t.schema == schema && t.name == r.name with
    | some own =>
      obtain ⟨hown, rfl, hname⟩ := (find?_eq_some_iff hids).mp hfound
      rw [Option.some.injEq, standsFor_iff_of_own hschema hids hown hname]
    | none =>
      have hnone : ∀ e ∈ types, e.name = r.name → e.schema ≠ schema := by
        intro e he hname hown
        exact absurd (List.find?_eq_none.mp hfound e he) (by simp [hname, hown])
      have hnodup : (types.filter fun t => t.name == r.name).Nodup :=
        (List.Nodup.of_map _ hids).filter _
      rw [single?_eq_some_iff hnodup, standsFor_iff_of_not_own hschema hids hnone]
      simp only [List.mem_filter, beq_iff_eq, and_imp]

/-! ## The type of a column -/

/-- A column is typed by a reference: by the domain that the reference stands for and without a
report, and by no domain if it stands for none. -/
structure TypesColumn (r : TypeReference) (types : List UserType) (tableSchema : String)
    (c : Column) (written : ColumnDefinition × List Diagnostic) : Prop where
  of_standsFor : ∀ d, r.StandsFor types tableSchema d →
    written = (⟨c.name, d.objectName.text, c.isNullable⟩, [])
  exists_standsFor : ∀ n : ObjectName, written.1.dataType = n.text →
    ∃ d, r.StandsFor types tableSchema d ∧ d.objectName = n

variable {k : Catalog} {t : Table} {c : Column}

/-- The type that a reference has without a domain is no domain's. -/
theorem dataType_ne_text (h : r.Prints c.elementType)
    (hdomain : Emission.domain? k.userTypes t.schema c.elementType = none) (n : ObjectName) :
    (Emission.columnDefinition k t c).1.dataType ≠ n.text := by
  simp only [Emission.columnDefinition, hdomain]
  cases hsource : SourceType.ofName c.elementType with
  | known type =>
    rw [TypeMapping.target_of_known hsource]
    exact TypeName.sized_targetName_ne type _ _ _ n
  | other name =>
    obtain ⟨first, rest, hcons, _, hfirst⟩ := h.exists_cons
    rw [TypeMapping.target_of_other hsource, ← SourceType.bare_of_other hsource, h.bare_eq]
    exact TypeName.sized_ne_text hcons hfirst _ _ _ n

/-- A column with a reference for its element type is typed by the reference. -/
theorem types_columnDefinition (hids : (k.userTypes.map UserType.objectName).Nodup)
    (h : r.Prints c.elementType) :
    r.TypesColumn k.userTypes t.schema c (Emission.columnDefinition k t c) := by
  have hiff {d : UserType} : Emission.domain? k.userTypes t.schema c.elementType = some d ↔
      r.StandsFor k.userTypes t.schema d := domain?_eq_some_iff hids h.split_eq
  refine ⟨fun d hd => ?_, fun n hn => ?_⟩
  · simp only [Emission.columnDefinition, hiff.mpr hd]
    rfl
  · cases hdomain : Emission.domain? k.userTypes t.schema c.elementType with
    | none => exact absurd hn (dataType_ne_text h hdomain n)
    | some d =>
      refine ⟨d, hiff.mp hdomain, ObjectName.text_injective ?_⟩
      simp only [← hn, Emission.columnDefinition, hdomain]
      rfl

end TypeReference

namespace Emission

/-- A column whose type is a printed reference, with array marks behind, is typed by the reference,
and so is what flattening puts in its place. -/
theorem types_of_prints {k : Catalog} (hids : (k.userTypes.map UserType.objectName).Nodup)
    {t : Table} {c : Column} {r : TypeReference} {text : String} (htext : r.Prints text)
    (hc : TypeName.IsSpelling text c.sourceType) :
    r.TypesColumn k.userTypes t.schema c (columnDefinition k t c) ∧
      ∀ found : Cardinalities, ∀ d ∈ c.flattened (found (t.ref c)), ∀ i,
        r.TypesColumn k.userTypes t.schema d
          (columnDefinition (k.flatten found) (t.flattened found) { d with ordinal := i }) := by
  have helement : c.elementType = text := hc.bare_eq.trans htext.bare_eq
  rw [← helement] at htext
  refine ⟨TypeReference.types_columnDefinition hids htext, fun found d hd i => ?_⟩
  have hflattened : r.Prints d.elementType := by
    rwa [Column.elementType_of_mem_flattened hd]
  have h := TypeReference.types_columnDefinition (k := k.flatten found) (t := t.flattened found)
    (c := { d with ordinal := i }) hids hflattened
  rw [Table.schema_flattened] at h
  exact ⟨h.of_standsFor, h.exists_standsFor⟩

/-- Two domains of one name, and one with a dot in its name. -/
def namesakes : Catalog where
  userTypes := [⟨"a", "mood", "text", false, none, none, none⟩,
    ⟨"b", "mood", "text", false, none, none, none⟩,
    ⟨"b", "odd.name", "text", false, none, none, none⟩]

/-- A column of a printed type. -/
def columnOf (sourceType : String) : Column :=
  ⟨"c", 1, sourceType, sourceType, true, 0, 0, none, none, none, none, none⟩

/-- The name of both stands for the domain of the table's schema, and for none in another schema; a
name with a dot, between quotes, stands for the only domain of the name. -/
theorem types_of_prints_namesakes :
    columnDefinition namesakes ⟨"b", "t", [], none⟩ (columnOf ("mood" ++ "[]")) =
        (⟨"c", "[b].[mood]", true⟩, []) ∧
      columnDefinition namesakes ⟨"a", "t", [], none⟩
          (columnOf (Identifier.inQuotes "odd.name" ++ "[]")) =
        (⟨"c", "[b].[odd.name]", true⟩, []) ∧
      ∀ n : ObjectName,
        (columnDefinition namesakes ⟨"c", "t", [], none⟩ (columnOf "mood")).1.dataType ≠ n.text := by
  have hids : (namesakes.userTypes.map UserType.objectName).Nodup := by decide
  have hmood : (TypeReference.mk none "mood").Prints "mood" :=
    .unqualified rfl (.bare (by decide) (by simp [Text.isBlank]))
  have hodd : (TypeReference.mk none "odd.name").Prints (Identifier.inQuotes "odd.name") :=
    .unqualified rfl (.quoted (by decide))
  refine ⟨?_, ?_, fun n hn => ?_⟩
  · refine (types_of_prints hids hmood (.mark .self)).1.of_standsFor
      ⟨"b", "mood", "text", false, none, none, none⟩ ?_
    exact .own (by decide) rfl rfl rfl
  · refine (types_of_prints hids hodd (.mark .self)).1.of_standsFor
      ⟨"b", "odd.name", "text", false, none, none, none⟩ ?_
    exact .only (by decide) rfl (by decide) rfl (by decide)
  · obtain ⟨d, hd, _⟩ := (types_of_prints hids hmood .self).1.exists_standsFor n hn
    cases hd with
    | qualified _ hschema _ => exact absurd hschema (by simp)
    | own hd _ hown _ => 
      simp only [namesakes, List.mem_cons, List.not_mem_nil, or_false] at hd
      rcases hd with rfl | rfl | rfl <;> exact absurd hown (by decide)
    | only _ _ _ _ honly =>
      have ha := honly ⟨"a", "mood", "text", false, none, none, none⟩ (by decide) rfl
      have hb := honly ⟨"b", "mood", "text", false, none, none, none⟩ (by decide) rfl
      exact absurd (ha.trans hb.symm) (by decide)

end Emission

end SchemaTransfer
