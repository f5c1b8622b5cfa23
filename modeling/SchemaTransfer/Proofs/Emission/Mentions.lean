import SchemaTransfer.Proofs.Emission.Counterparts
import SchemaTransfer.Proofs.Emission.Spelling
import SchemaTransfer.Proofs.Statement.Reading

/-!
# Domains and sequences that statements mention

A created column may have a domain for its type, and a default may take the next value of a sequence.
Both are mentioned by their written names, in statements that are made apart from those that create
them. Main statement: what the script for tables mentions on a column is what the column refers to
in the catalog, or the type of the column is reported.
-/

namespace SchemaTransfer

/-- Objects are told apart by how they are written. -/
theorem ObjectName.text_injective : Function.Injective ObjectName.text := by
  rintro ⟨schema, name⟩ ⟨schema', name'⟩ h
  have hread := Part.read?_objectText ⟨schema, name⟩
  rw [h, Part.read?_objectText] at hread
  simpa [eq_comm] using hread

/-- The expression for the next value of a sequence. -/
def ObjectName.nextValueText (n : ObjectName) : String := "NEXT VALUE FOR " ++ n.text

theorem ObjectName.nextValueText_injective : Function.Injective ObjectName.nextValueText := by
  intro n m h
  refine ObjectName.text_injective (String.ext ?_)
  have hletters := congrArg String.toList h
  simpa only [nextValueText, String.toList_append, List.append_cancel_left_eq] using hletters

/-- What a statement says about a column mentions a domain or a sequence. -/
inductive Statement.Mentions : Statement → ColumnRef → Creation → Prop
  /-- A created column has the domain for its type. -/
  | userType {name n : ObjectName} {columns : List ColumnDefinition} {c : ColumnDefinition}
      (hc : c ∈ columns) (htype : c.dataType = n.text) :
      Mentions (.createTable name columns) ⟨name.schema, name.name, c.name⟩ (.userType n)
  /-- A default takes the next value of the sequence. -/
  | sequence {table n : ObjectName} {constraint column expression : String}
      (hvalue : expression = n.nextValueText) :
      Mentions (.addDefault table constraint column expression)
        ⟨table.schema, table.name, column⟩ (.sequence n)

/-! ## Types that are no domains -/

/-- A written name begins with a bracket. -/
theorem ObjectName.head?_text (n : ObjectName) : n.text.toList.head? = some '[' := by
  simp [text]

/-- The name of a type in the target begins with no bracket. -/
theorem KnownType.exists_targetName_eq (type : KnownType) :
    ∃ c rest, type.targetName.toList = c :: rest ∧ c ≠ '[' := by
  cases type <;> exact ⟨_, _, rfl, by decide⟩

namespace TypeName

/-- A size comes after the name of a type, unless the type is replaced by one of any length. -/
theorem exists_sized_eq (target : String) (size precision scale : Option Int32) :
    (∃ rest, sized target size precision scale = target ++ rest) ∨
      sized target size precision scale = "varbinary(max)" := by
  have hself : ∃ rest, target = target ++ rest := ⟨"", String.append_empty.symm⟩
  unfold sized
  split
  · rename_i hbinary
    subst hbinary
    split
    · rename_i n _
      exact Or.inl ⟨"(" ++ number n ++ ")", rfl⟩
    · exact Or.inr rfl
  · refine Or.inl ?_
    split
    · rename_i n _
      exact ⟨"(" ++ number n ++ ")", by simp only [String.append_assoc]⟩
    · split
      · split
        · rename_i p s _ _
          exact ⟨"(" ++ number p ++ "," ++ number s ++ ")", by simp only [String.append_assoc]⟩
        · rename_i p _ _
          exact ⟨"(" ++ number p ++ ")", by simp only [String.append_assoc]⟩
        · exact hself
      · split
        · rename_i hvarchar
          subst hvarchar
          exact ⟨"(max)", rfl⟩
        · exact hself

/-- A type that begins with no bracket is, with its size, no written name of an object. -/
theorem sized_ne_text {target : String} {c : Char} {letters : List Char}
    (htarget : target.toList = c :: letters) (hc : c ≠ '[') (size precision scale : Option Int32)
    (n : ObjectName) : sized target size precision scale ≠ n.text := by
  intro he
  have hhead := n.head?_text
  rw [← he] at hhead
  rcases exists_sized_eq target size precision scale with ⟨rest, hsized⟩ | hsized
  · rw [hsized, String.toList_append, htarget] at hhead
    exact hc (Option.some.inj hhead)
  · rw [hsized] at hhead
    exact absurd hhead (by decide)

/-- A type of the target with its size is no written name of an object. -/
theorem sized_targetName_ne (type : KnownType) (size precision scale : Option Int32)
    (n : ObjectName) : sized type.targetName size precision scale ≠ n.text := by
  obtain ⟨c, letters, htarget, hc⟩ := type.exists_targetName_eq
  exact sized_ne_text htarget hc size precision scale n

end TypeName

namespace Emission

/-- A column of a table refers to a domain or a sequence: to the domain that its type stands for, and
to the sequence of which its default takes the next value, if the default can be named. -/
inductive Refers (k : Catalog) (t : Table) (c : Column) : Creation → Prop
  | userType {d : UserType} (hd : domain? k.userTypes t.schema c.elementType = some d) :
      Refers k t c (.userType ⟨d.schema, d.name⟩)
  | sequence {raw : String} {n : ObjectName} (hraw : c.defaultExpr = some raw)
      (hvalue : (DefaultValue.ofText t.schema raw).expression? = some n.nextValueText)
      (hname : Identifier.isValid (defaultConstraint t c) = true) :
      Refers k t c (.sequence n)

variable {options : EmitOptions} {k : Catalog} {t : Table} {c : Column} {r : Creation}

/-- A column has the written name of a domain for its type when it refers to the domain. A type name
of the source that only looks like one is reported. -/
theorem refers_or_reported_of_dataType_eq {n : ObjectName}
    (h : (columnDefinition k t c).1.dataType = n.text) :
    Refers k t c (.userType n) ∨
      ∃ d ∈ (columnDefinition k t c).2, d.object = (t.ref c).fullName := by
  unfold columnDefinition at h ⊢
  split at h
  · rename_i d hd
    obtain rfl := ObjectName.text_injective h
    exact Or.inl (.userType hd)
  · rename_i hd
    refine Or.inr ?_
    unfold TypeMapping.ofName at h ⊢
    cases hsource : SourceType.ofName c.elementType with
    | known type =>
      rw [hsource] at h
      exact (TypeName.sized_targetName_ne type _ _ _ n h).elim
    | other name =>
      exact ⟨_, List.mem_singleton_self _, rfl⟩

/-- With the script for tables the types of columns are reported, then their defaults. -/
theorem reported_createTables (options : EmitOptions) (k : Catalog) :
    (createTables options k).reported =
      (keptTables k).flatMap (fun t => t.columns.flatMap fun c => (columnDefinition k t c).2) ++
        (keptTables k).flatMap fun t => t.columns.flatMap fun c => (addDefault t c).reported := by
  have hcolumns : (keptTables k).flatMap (fun t => (describeColumns t).reported) = [] :=
    List.flatMap_eq_nil_iff.mpr fun _ _ => rfl
  simp only [createTables, EmittedScript.reported_ofParts, List.flatMap_append, List.flatMap_map,
    hcolumns, createTable, addDefaults, reported_gather]
  simp [tableOptions, describeTables]

/-- What is said about the type of a column is reported with the script for tables. -/
theorem mem_reported_createTables {d : Diagnostic} (ht : t ∈ keptTables k) (hc : c ∈ t.columns)
    (hd : d ∈ (columnDefinition k t c).2) : d ∈ (createTables options k).reported := by
  rw [reported_createTables]
  exact List.mem_append_left _ (List.mem_flatMap.mpr ⟨t, ht, List.mem_flatMap.mpr ⟨c, hc, hd⟩⟩)

/-- What the script for tables mentions on a column is what the column refers to, unless the type of
the column is reported. -/
theorem refers_or_reported_of_mentions {s : Statement} {place : ColumnRef}
    (hs : s ∈ (createTables options k).script.statements) (h : s.Mentions place r) :
    ∃ t ∈ keptTables k, ∃ c ∈ t.columns, place = t.ref c ∧ (Refers k t c r ∨
      ∃ d ∈ (createTables options k).reported, d.object = (t.ref c).fullName) := by
  cases h with
  | @userType name n columns definition hdefinition htype =>
    change _ ∈ (scriptFor options k .createTables).script.statements at hs
    obtain ⟨t, ht, he⟩ := exists_of_createTable_mem hs
    obtain ⟨rfl, rfl⟩ := Statement.createTable.inj he
    obtain ⟨c, hc, rfl⟩ := List.mem_map.mp hdefinition
    refine ⟨t, ht, c, hc, by rw [name_columnDefinition]; rfl, ?_⟩
    exact (refers_or_reported_of_dataType_eq htype).imp_right fun ⟨d, hd, hobject⟩ =>
      ⟨d, mem_reported_createTables ht hc hd, hobject⟩
  | @sequence table n constraint column expression hvalue =>
    obtain ⟨t, ht, c, hc, hbatch⟩ := exists_of_addDefault_mem hs
    obtain ⟨raw, expression', hraw, hvalue', hname, he⟩ := mem_addDefault.mp hbatch
    obtain ⟨rfl, rfl, rfl, rfl⟩ := Statement.addDefault.inj he
    exact ⟨t, ht, c, hc, rfl, Or.inl (.sequence hraw (hvalue ▸ hvalue') hname)⟩

/-- What a column of a written table refers to is mentioned. -/
theorem Refers.exists_mentions (h : Refers k t c r) (ht : t ∈ keptTables k) (hc : c ∈ t.columns) :
    ∃ s ∈ (createTables options k).script.statements, s.Mentions (t.ref c) r := by
  rw [statements_createTables]
  cases h with
  | @userType d hd =>
    refine ⟨tableStatement k t, List.mem_append_left _ (List.mem_append_right _
      (List.mem_map_of_mem ht)), ?_⟩
    have hmentions : Statement.Mentions (tableStatement k t)
        ⟨t.schema, t.name, (columnDefinition k t c).1.name⟩ (.userType ⟨d.schema, d.name⟩) :=
      .userType (List.mem_map_of_mem hc) (by simp only [columnDefinition, hd])
    rwa [name_columnDefinition] at hmentions
  | @sequence raw n hraw hvalue hname =>
    refine ⟨.addDefault (tableName t) (defaultConstraint t c) c.name n.nextValueText, ?_,
      .sequence rfl⟩
    have hbatch := mem_addDefault.mpr ⟨raw, n.nextValueText, hraw, hvalue, hname, rfl⟩
    refine List.mem_append_right _ (List.mem_append_left _ (List.mem_append_left _ ?_))
    exact List.mem_flatMap.mpr ⟨t, ht, List.mem_flatMap.mpr ⟨c, hc, hbatch⟩⟩

end Emission

end SchemaTransfer
