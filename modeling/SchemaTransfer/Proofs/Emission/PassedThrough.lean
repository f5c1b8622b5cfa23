import SchemaTransfer.Proofs.Emission.Mentions
import SchemaTransfer.Proofs.Sequence.Independence
import SchemaTransfer.Proofs.TypeName.Spelling

/-!
# Types that are passed through

A type that the target has no name for is written as the source calls it: for a domain, for a
column, and for a sequence, which takes its type from its owner, from the first column it feeds, or
from its own declaration. Main statement: each domain and each column with such a type is reported;
the type of a sequence is not, and a report under its name is there only when a domain or a column
that is passed through happens to be called like the sequence.
-/

namespace SchemaTransfer

/-- An object that is written with a type. -/
inductive TypedObject where
  | userType (t : UserType)
  | column (t : Table) (c : Column)
  | sequence (q : Sequence)
  deriving DecidableEq

namespace TypedObject

/-- The qualified name under which a report on the object is made. -/
def fullName : TypedObject → String
  | userType t => t.fullName
  | column t c => (t.ref c).fullName
  | sequence q => q.fullName

/-- Whether the object is a sequence. -/
def isSequence : TypedObject → Bool
  | sequence _ => true
  | _ => false

end TypedObject

/-- A statement writes an object of a catalog with the type that it has in the source, under a name
that is not known. The type of a column is none of the domains. -/
inductive Statement.PassesThrough (k : Catalog) : Statement → TypedObject → Prop
  | userType {t : UserType} {type : String} (ht : t ∈ k.userTypes)
      (htype : SourceType.ofName t.baseType = .other type) :
      PassesThrough k (.createType ⟨t.schema, t.name⟩
        (TypeName.sized type t.maxCharSize t.numericPrecision t.numericScale) t.notNull)
        (.userType t)
  | column {t : Table} {c : Column} {type : String} {columns : List ColumnDefinition}
      (ht : t ∈ k.tables) (hc : c ∈ t.columns)
      (hdomain : Emission.domain? k.userTypes t.schema c.elementType = none)
      (htype : SourceType.ofName c.elementType = .other type)
      (hcolumn : ⟨c.name, TypeName.sized type c.maxCharSize c.numericPrecision c.numericScale,
        c.isNullable⟩ ∈ columns) :
      PassesThrough k (.createTable (Emission.tableName t) columns) (.column t c)
  | sequence {q : Sequence} {definition : SequenceDefinition} (hq : q ∈ k.sequences)
      (htype : SourceType.ofName (q.feedingType k.tables) = .other definition.dataType)
      (hname : definition.name = ⟨q.schema, q.name⟩) :
      PassesThrough k (.createSequence definition) (.sequence q)

namespace EmittedCatalog

/-- A script writes an object of the catalog with the type that it has in the source. -/
def PassesThrough (e : EmittedCatalog) (k : Catalog) (o : TypedObject) : Prop :=
  ∃ script ∈ e.scripts, ∃ s ∈ script.statements, s.PassesThrough k o

/-- A type is reported that belongs to an object of the name. -/
def ReportsType (e : EmittedCatalog) (object : String) : Prop :=
  ∃ d ∈ e.diagnostics, d.kind = .unmappableType ∧ d.object = object

end EmittedCatalog

/-- Every type that is passed through is reported, under the name of its object. -/
def Catalog.ReportsPassedThrough (options : EmitOptions) (k : Catalog) : Prop :=
  ∀ o, (k.emit options).PassesThrough k o → (k.emit options).ReportsType o.fullName

namespace Emission

/-- An object that can be written has a type in the source under a name that is not known. -/
inductive KeepsType (k : Catalog) : TypedObject → Prop
  | userType {t : UserType} {type : String} (ht : t ∈ k.userTypes)
      (hw : areWritable [t.schema, t.name] = true)
      (htype : SourceType.ofName t.baseType = .other type) : KeepsType k (.userType t)
  | column {t : Table} {c : Column} {type : String} (ht : t ∈ keptTables k) (hc : c ∈ t.columns)
      (hdomain : domain? k.userTypes t.schema c.elementType = none)
      (htype : SourceType.ofName c.elementType = .other type) : KeepsType k (.column t c)
  | sequence {q : Sequence} {type : String} (hq : q ∈ k.sequences)
      (hw : areWritable [q.schema, q.name] = true)
      (htype : SourceType.ofName (q.feedingType k.tables) = .other type) :
      KeepsType k (.sequence q)

variable {options : EmitOptions} {k : Catalog} {o : TypedObject} {d : Diagnostic}

/-! ## What is written -/

/-- A column that is no domain keeps a type that is not known. -/
theorem columnDefinition_of_other {t : Table} {c : Column} {type : String}
    (hdomain : domain? k.userTypes t.schema c.elementType = none)
    (htype : SourceType.ofName c.elementType = .other type) :
    (columnDefinition k t c).1 = ⟨c.name,
      TypeName.sized type c.maxCharSize c.numericPrecision c.numericScale, c.isNullable⟩ := by
  simp only [columnDefinition, hdomain, TypeMapping.target_of_other htype]

/-- A resolved sequence has the type in the target that goes with what bounds it. -/
theorem targetType_of_mem_resolveSequences {q : Sequence}
    (hq : q ∈ k.resolveSequences.sequences) :
    q.targetType = (TypeMapping.ofName (q.feedingType k.tables)).target := by
  have hresolved : q.resolved k.tables = q := by
    obtain ⟨s, _, rfl⟩ := List.mem_map.mp hq
    exact s.resolved_resolved k.tables
  calc q.targetType
    _ = (q.resolved k.tables).targetType := by rw [hresolved]
    _ = (TypeMapping.ofName (q.feedingType k.tables)).target := by rw [Sequence.resolved]

/-- Tables of one name are kept together. -/
theorem mem_keptTables_of_tableName_eq {t u : Table} (hu : u ∈ keptTables k) (ht : t ∈ k.tables)
    (h : tableName u = tableName t) : t ∈ keptTables k := by
  obtain ⟨hschema, hname⟩ := ObjectName.mk.inj h
  refine mem_keptTables.mpr ⟨ht, ?_⟩
  rw [← hschema, ← hname]
  exact (mem_keptTables.mp hu).2

/-- Only objects whose names can be written are passed through. -/
theorem keepsType_of_passesThrough {s : Statement} {kind : ArtifactKind}
    (hs : s ∈ (scriptFor options k kind).script.statements) (h : s.PassesThrough k o) :
    KeepsType k o := by
  -- Statements bear names only: whether an object can be written is known of the one that the
  -- statement was made for, and goes for every object of these names.
  cases h with
  | @userType t type ht htype =>
    obtain rfl := Option.some.inj (purpose?_of_mem hs)
    rcases mem_createTypes.mp hs with ⟨u, _, hw, he⟩ | ⟨_, _, _, he⟩
    · obtain ⟨hname, _⟩ := Statement.createType.inj (List.mem_singleton.mp he)
      obtain ⟨hschema, hname⟩ := ObjectName.mk.inj hname
      exact .userType ht (by rwa [hschema, hname]) htype
    · cases he
  | @column t c type columns ht hc hdomain htype =>
    obtain ⟨u, hu, he⟩ := exists_of_createTable_mem hs
    exact .column (mem_keptTables_of_tableName_eq hu ht (Statement.createTable.inj he).1) hc hdomain
      htype
  | @sequence q definition hq htype hname =>
    obtain rfl := Option.some.inj (purpose?_of_mem hs)
    rcases mem_createTypes.mp hs with ⟨_, _, _, he⟩ | ⟨u, _, hw, he⟩
    · cases List.mem_singleton.mp he
    · rw [Statement.createSequence.inj he] at hname
      obtain ⟨hschema, hname⟩ := ObjectName.mk.inj hname
      exact .sequence hq (by rwa [← hschema, ← hname]) htype

/-- An object that keeps its type is written with it. Where sequences have been resolved, this goes
for them too. -/
theorem KeepsType.exists_passesThrough (options : EmitOptions)
    (h : KeepsType k.resolveSequences o) :
    ∃ kind, ∃ s ∈ (scriptFor options k.resolveSequences kind).script.statements,
      s.PassesThrough k.resolveSequences o := by
  cases h with
  | @userType t type ht hw htype =>
    refine ⟨.createTypes, _, mem_createTypes.mpr (Or.inl ⟨t, ht, hw, ?_⟩), .userType ht htype⟩
    rw [← TypeMapping.target_of_other htype]
    exact List.mem_singleton_self _
  | @column t c type ht hc hdomain htype =>
    refine ⟨.createTables, tableStatement k.resolveSequences t, ?_,
      .column (mem_keptTables.mp ht).1 hc hdomain htype ?_⟩
    · rw [scriptFor, statements_createTables]
      exact List.mem_append_left _ (List.mem_append_right _ (List.mem_map_of_mem ht))
    · rw [← columnDefinition_of_other hdomain htype]
      exact List.mem_map_of_mem hc
  | @sequence q type hq hw htype =>
    have htarget : q.targetType = type :=
      (targetType_of_mem_resolveSequences hq).trans (TypeMapping.target_of_other htype)
    exact ⟨.createTypes, _, mem_createTypes.mpr (Or.inr ⟨q, hq, hw, rfl⟩),
      .sequence hq (htype.trans (congrArg SourceType.other htarget.symm)) rfl⟩

/-- What passes through the scripts of a catalog with resolved sequences are the objects that keep
their types, if there is a table. -/
theorem passesThrough_resolveSequences_iff (options : EmitOptions) :
    (k.resolveSequences.emit options).PassesThrough k.resolveSequences o ↔
      k.isEmpty = false ∧ KeepsType k.resolveSequences o := by
  have hempty : k.resolveSequences.isEmpty = k.isEmpty := rfl
  constructor
  · rintro ⟨script, hscript, s, hs, h⟩
    cases hk : k.isEmpty with
    | true => simp [Catalog.emit, hempty, hk] at hscript
    | false =>
      rw [scripts_emit options (hempty.trans hk)] at hscript
      obtain ⟨kind, _, rfl⟩ := List.mem_map.mp hscript
      exact ⟨rfl, keepsType_of_passesThrough hs h⟩
  · rintro ⟨hk, h⟩
    obtain ⟨kind, s, hs, h⟩ := h.exists_passesThrough options
    refine ⟨_, ?_, s, hs, h⟩
    rw [scripts_emit options (hempty.trans hk)]
    exact List.mem_map_of_mem (by cases kind <;> decide)

/-! ## What is reported -/

/-- A type is reported exactly when its name is not known. -/
theorem mem_unmappable_iff (object name : String) :
    d ∈ unmappable object (TypeMapping.ofName name) ↔ ∃ type, SourceType.ofName name = .other type ∧
      d = ⟨.unmappableType, object,
        "no SQL Server mapping for type '" ++ type ++ "'; emitted unchanged"⟩ := by
  unfold TypeMapping.ofName
  cases SourceType.ofName name with
  | known type => simp [unmappable, TypeMapping.warning?]
  | other type => simp [unmappable, TypeMapping.warning?]

/-- The type of a column is reported when it is no domain and its name is not known. -/
theorem mem_columnDefinition_iff {t : Table} {c : Column} :
    d ∈ (columnDefinition k t c).2 ↔ domain? k.userTypes t.schema c.elementType = none ∧
      d ∈ unmappable (t.ref c).fullName (TypeMapping.ofName c.elementType) := by
  unfold columnDefinition
  cases domain? k.userTypes t.schema c.elementType with
  | some domain => simp
  | none => simp

/-- Reports on names are about no types. -/
theorem kind_of_nameReport? {object : String} {names : List String}
    (h : nameReport? object names = some d) : d.kind = .invalidIdentifier := by
  obtain ⟨_, _, rfl⟩ := Option.map_eq_some_iff.mp h
  rfl

/-- Where a part depends on names, types are reported with the part alone. -/
theorem mem_of_mem_reported_ifWritable {object : String} {names : List String} {part : Emitted}
    (h : d ∈ (ifWritable object names part).reported) (hd : d.kind = .unmappableType) :
    areWritable names = true ∧ d ∈ part.reported := by
  unfold ifWritable at h
  split at h
  · rename_i report hreport
    obtain rfl := List.mem_singleton.mp h
    rw [kind_of_nameReport? hreport] at hd
    cases hd
  · rename_i hreport
    exact ⟨nameReport?_eq_none_iff.mp hreport, h⟩

/-- Reports on defaults are about no types. -/
theorem kind_ne_of_mem_reported_addDefault {t : Table} {c : Column}
    (h : d ∈ (addDefault t c).reported) : d.kind ≠ .unmappableType := by
  unfold addDefault at h
  split at h
  · simp at h
  · split at h
    · obtain rfl := List.mem_singleton.mp h
      simp [unsupportedDefault]
    · split at h
      · rename_i hreport
        obtain rfl := List.mem_singleton.mp h
        simp [kind_of_nameReport? hreport]
      · simp [Emitted.statement] at h

theorem reported_typePart (t : UserType) :
    (typePart t).reported = unmappable t.fullName (TypeMapping.ofName t.baseType) := by
  rw [typePart]

/-- Only domains and columns have their types reported. -/
theorem exists_of_mem_reported {kind : ArtifactKind}
    (h : d ∈ (scriptFor options k kind).reported) (hd : d.kind = .unmappableType) :
    (∃ t ∈ k.userTypes, areWritable [t.schema, t.name] = true ∧
      d ∈ unmappable t.fullName (TypeMapping.ofName t.baseType)) ∨
    ∃ t ∈ keptTables k, ∃ c ∈ t.columns, d ∈ (columnDefinition k t c).2 := by
  cases kind with
  | createSchemas =>
    obtain ⟨part, hpart, h⟩ := List.mem_flatMap.mp h
    obtain ⟨name, _, rfl⟩ := List.mem_map.mp hpart
    cases (mem_of_mem_reported_ifWritable (createSchema_eq name ▸ h) hd).2
  | createTypes =>
    obtain ⟨part, hpart, h⟩ := List.mem_flatMap.mp h
    rcases List.mem_append.mp hpart with hpart | hpart
    · obtain ⟨t, ht, rfl⟩ := List.mem_map.mp hpart
      rw [createType_eq] at h
      obtain ⟨hw, h⟩ := mem_of_mem_reported_ifWritable h hd
      rw [reported_typePart] at h
      exact Or.inl ⟨t, ht, hw, h⟩
    · obtain ⟨q, _, rfl⟩ := List.mem_map.mp hpart
      cases (mem_of_mem_reported_ifWritable (createSequence_eq q ▸ h) hd).2
  | createTables =>
    rw [scriptFor, reported_createTables] at h
    rcases List.mem_append.mp h with h | h
    · obtain ⟨t, ht, h⟩ := List.mem_flatMap.mp h
      obtain ⟨c, hc, h⟩ := List.mem_flatMap.mp h
      exact Or.inr ⟨t, ht, c, hc, h⟩
    · obtain ⟨t, _, h⟩ := List.mem_flatMap.mp h
      obtain ⟨c, _, h⟩ := List.mem_flatMap.mp h
      exact absurd hd (kind_ne_of_mem_reported_addDefault h)
  | createIndexes =>
    obtain ⟨part, hpart, h⟩ := List.mem_flatMap.mp h
    obtain ⟨t, _, rfl⟩ := List.mem_map.mp hpart
    obtain ⟨part, hpart, h⟩ := List.mem_flatMap.mp h
    obtain ⟨x, _, rfl⟩ := List.mem_map.mp hpart
    cases (mem_of_mem_reported_ifWritable (createIndex_eq x ▸ h) hd).2
  | createForeignKeys =>
    obtain ⟨part, hpart, h⟩ := List.mem_flatMap.mp h
    obtain ⟨t, _, rfl⟩ := List.mem_map.mp hpart
    obtain ⟨part, hpart, h⟩ := List.mem_flatMap.mp h
    obtain ⟨fk, _, rfl⟩ := List.mem_map.mp hpart
    cases (mem_of_mem_reported_ifWritable (addForeignKey_eq options t fk ▸ h) hd).2
  | dropTypes => cases h
  | dropTables => cases h
  | truncateTables => cases h

/-- The type of a domain that can be written is reported with the script for domains. -/
theorem mem_reported_createTypes {t : UserType} (ht : t ∈ k.userTypes)
    (hw : areWritable [t.schema, t.name] = true)
    (hd : d ∈ unmappable t.fullName (TypeMapping.ofName t.baseType)) :
    d ∈ (createTypes options k).reported := by
  refine List.mem_flatMap.mpr ⟨createType t, List.mem_append_left _ (List.mem_map_of_mem ht), ?_⟩
  rwa [createType_eq, ifWritable_of_writable hw, reported_typePart]

/-- The names under which types are reported are those of the domains and the columns that keep
their types. -/
theorem reportsType_iff (options : EmitOptions) (object : String) :
    (k.emit options).ReportsType object ↔ k.isEmpty = false ∧
      ∃ o, o.isSequence = false ∧ KeepsType k o ∧ o.fullName = object := by
  cases hk : k.isEmpty with
  | true => simp [EmittedCatalog.ReportsType, Catalog.emit, hk]
  | false =>
    rw [EmittedCatalog.ReportsType, diagnostics_emit options hk]
    simp only [true_and]
    constructor
    · rintro ⟨d, hd, hkind, hobject⟩
      rcases List.mem_append.mp hd with hd | hd
      · obtain ⟨t, _, ht⟩ := List.mem_filterMap.mp hd
        rw [kind_of_nameReport? ht] at hkind
        cases hkind
      · obtain ⟨kind, _, hd⟩ := List.mem_flatMap.mp hd
        rcases exists_of_mem_reported hd hkind with ⟨t, ht, hw, hd⟩ | ⟨t, ht, c, hc, hd⟩
        · obtain ⟨type, htype, rfl⟩ := (mem_unmappable_iff _ _).mp hd
          exact ⟨.userType t, rfl, .userType ht hw htype, hobject⟩
        · obtain ⟨hdomain, hd⟩ := mem_columnDefinition_iff.mp hd
          obtain ⟨type, htype, rfl⟩ := (mem_unmappable_iff _ _).mp hd
          exact ⟨.column t c, rfl, .column ht hc hdomain htype, hobject⟩
    · rintro ⟨o, ho, hkeeps, rfl⟩
      have hscript (kind : ArtifactKind) {d : Diagnostic}
          (h : d ∈ (scriptFor options k kind).reported) :
          d ∈ k.tables.filterMap tableReport? ++ ArtifactKind.all.flatMap fun kind =>
            (scriptFor options k kind).reported :=
        List.mem_append_right _ (List.mem_flatMap.mpr ⟨kind, by cases kind <;> decide, h⟩)
      cases hkeeps with
      | @userType t type ht hw htype =>
        have hd := (mem_unmappable_iff t.fullName _).mpr ⟨_, htype, rfl⟩
        exact ⟨_, hscript .createTypes (mem_reported_createTypes ht hw hd), rfl, rfl⟩
      | column ht hc hdomain htype =>
        have hd := mem_columnDefinition_iff.mpr
          ⟨hdomain, (mem_unmappable_iff _ _).mpr ⟨_, htype, rfl⟩⟩
        exact ⟨_, hscript .createTables (mem_reported_createTables ht hc hd), rfl, rfl⟩
      | sequence => cases ho

/-! ## What is both written and reported -/

/-- Of the types that are passed through once the sequences are resolved, those of domains and of
columns are reported. All of them are reported exactly when there is no table, or each such sequence
is called like such a domain or such a column. -/
theorem reportsPassedThrough_resolveSequences_iff (options : EmitOptions) (k : Catalog) :
    (∀ o, o.isSequence = false →
      (k.resolveSequences.emit options).PassesThrough k.resolveSequences o →
        (k.resolveSequences.emit options).ReportsType o.fullName) ∧
    (k.resolveSequences.ReportsPassedThrough options ↔ k.isEmpty = true ∨
      ∀ q, KeepsType k.resolveSequences (.sequence q) →
        ∃ o, o.isSequence = false ∧ KeepsType k.resolveSequences o ∧ o.fullName = q.fullName) := by
  have hreported : ∀ o, o.isSequence = false →
      (k.resolveSequences.emit options).PassesThrough k.resolveSequences o →
        (k.resolveSequences.emit options).ReportsType o.fullName := by
    intro o ho h
    obtain ⟨hk, hkeeps⟩ := (passesThrough_resolveSequences_iff _).mp h
    exact (reportsType_iff _ _).mpr ⟨hk, o, ho, hkeeps, rfl⟩
  refine ⟨hreported, ?_, ?_⟩
  · intro h
    refine or_iff_not_imp_left.mpr fun hk q hq => ?_
    have hpasses := (passesThrough_resolveSequences_iff options).mpr ⟨Bool.eq_false_iff.mpr hk, hq⟩
    exact ((reportsType_iff _ _).mp (h (.sequence q) hpasses)).2
  · rintro h (t | ⟨t, c⟩ | q) hpasses
    · exact hreported _ rfl hpasses
    · exact hreported _ rfl hpasses
    · obtain ⟨hk, hkeeps⟩ := (passesThrough_resolveSequences_iff _).mp hpasses
      rcases h with hempty | h
      · rw [hempty] at hk
        cases hk
      · exact (reportsType_iff _ _).mpr ⟨hk, h q hkeeps⟩

/-- A catalog of one column of object identifiers and the sequence that it owns. -/
def identifiedCatalog : Catalog where
  schemas := ["s"]
  tables := [{
    schema := "s", name := "t", comment := none
    columns := [{
      name := "a", ordinal := 1, sourceType := "oid", formattedType := "oid", isNullable := true
      arrayDims := 0, maxCardinality := 0, numericPrecision := none, numericScale := none
      maxCharSize := none, defaultExpr := none, comment := none }] }]
  sequences := [{
    schema := "s", name := "q", dataType := "bigint", ownerType := some "oid"
    targetType := "bigint", start := 1, increment := 1, minValue := 1, maxValue := 9, cache := 1
    cycle := false, lastValue := 1, isCalled := false }]

/-- The sequence is created with the type of its owner as it is. Of the two only the column is
reported. -/
theorem not_reportsPassedThrough_identifiedCatalog :
    ((identifiedCatalog.resolveSequences.emit {}).script? .createTypes).map
        (fun script => script.statements.map Statement.text) =
      some ["CREATE SEQUENCE [s].[q] AS oid START WITH 1 INCREMENT BY 1 MINVALUE 1 MAXVALUE 9 " ++
        "NO CACHE NO CYCLE;"] ∧
    (identifiedCatalog.resolveSequences.emit {}).diagnostics.map (·.object) = ["s.t.a"] ∧
      ¬ identifiedCatalog.resolveSequences.ReportsPassedThrough {} := by
  have hobjects : (identifiedCatalog.resolveSequences.emit {}).diagnostics.map (·.object) =
      ["s.t.a"] := by decide
  refine ⟨by decide, hobjects, fun h => ?_⟩
  have htype : SourceType.ofName "oid" = .other "oid" := by decide
  have hkeeps : KeepsType identifiedCatalog.resolveSequences
      (.sequence (identifiedCatalog.sequences[0].resolved identifiedCatalog.tables)) :=
    .sequence (List.mem_singleton_self _) (by decide) htype
  obtain ⟨d, hd, _, hobject⟩ := h _ ((passesThrough_resolveSequences_iff _).mpr ⟨rfl, hkeeps⟩)
  have hmem := List.mem_map_of_mem (f := (·.object)) hd
  rw [hobjects, hobject] at hmem
  exact absurd hmem (by decide)

end Emission

end SchemaTransfer
