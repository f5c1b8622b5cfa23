import SchemaTransfer.Proofs.Emission.Accounting

/-!
# Scripts that undo each other

What one script creates is emptied or dropped by another. Each script is made on its own and looks
at names in its own way. Main statement: all of them name the same objects, tables are dropped in
the reverse of the order in which they are created, foreign keys are dropped before tables, and
sequences before domains.
-/

namespace SchemaTransfer

namespace Creation

/-- The table that is created, if it is one. -/
def table? : Creation → Option ObjectName
  | table name => some name
  | _ => none

/-- The domain that is created, if it is one. -/
def userType? : Creation → Option ObjectName
  | userType name => some name
  | _ => none

/-- The sequence that is created, if it is one. -/
def sequence? : Creation → Option ObjectName
  | sequence name => some name
  | _ => none

/-- The table and the name of the foreign key that is created, if it is one. -/
def foreignKey? : Creation → Option (ObjectName × String)
  | foreignKey owner name => some (owner, name)
  | _ => none

end Creation

namespace Statement

/-- What a statement drops, by the names under which it was created. -/
def removal? : Statement → Option Creation
  | dropType name => some (.userType name)
  | dropSequence name => some (.sequence name)
  | dropTable name => some (.table name)
  | dropForeignKey table constraint => some (.foreignKey table constraint)
  | _ => none

/-- The table that a statement empties, if it empties one. -/
def emptied? : Statement → Option ObjectName
  | truncateTable name => some name
  | _ => none

end Statement

namespace Script

/-- What the statements of a script create, one after the other. -/
def created (s : Script) : List Creation := s.statements.filterMap Statement.creation?

/-- What the statements of a script drop, one after the other. -/
def removed (s : Script) : List Creation := s.statements.filterMap Statement.removal?

/-- The tables that the statements of a script empty, one after the other. -/
def emptied (s : Script) : List ObjectName := s.statements.filterMap Statement.emptied?

end Script

/-- Whether the scripts for the various purposes are about the same objects. -/
structure NameSameObjects (script : ArtifactKind → Script) : Prop where
  /-- The tables that are emptied are those that are created, in the same order. -/
  emptiedTables : (script .truncateTables).emptied =
    (script .createTables).created.filterMap Creation.table?
  /-- The tables that are dropped are those that are created, the last first. -/
  droppedTables : (script .dropTables).removed.filterMap Creation.table? =
    ((script .createTables).created.filterMap Creation.table?).reverse
  /-- The domains that are dropped are those that are created, in the same order. -/
  droppedTypes : (script .dropTypes).removed.filterMap Creation.userType? =
    (script .createTypes).created.filterMap Creation.userType?
  /-- The sequences that are dropped are those that are created, in the same order. -/
  droppedSequences : (script .dropTypes).removed.filterMap Creation.sequence? =
    (script .createTypes).created.filterMap Creation.sequence?
  /-- A foreign key that is created is dropped, under its name and from its table. -/
  droppedKeys : (script .createForeignKeys).created.filterMap Creation.foreignKey? ⊆
    (script .dropTables).removed.filterMap Creation.foreignKey?
  /-- No foreign key is dropped after a table. -/
  keysFirst : (script .dropTables).removed.Pairwise fun first next =>
    first.table?.isSome = true → next.foreignKey? = none
  /-- No sequence is dropped after a domain. -/
  sequencesFirst : (script .dropTypes).removed.Pairwise fun first next =>
    first.userType?.isSome = true → next.sequence? = none

namespace Emission

/-- Statements that are made one for each object do what each of them does. -/
private theorem filterMap_map_eq {α β γ : Type} {xs : List α} {statement : α → β}
    {effect : β → Option γ} {result : α → γ} (h : ∀ x, effect (statement x) = some (result x)) :
    (xs.map statement).filterMap effect = xs.map result := by
  have hcomp : effect ∘ statement = some ∘ result := funext h
  rw [List.filterMap_map, hcomp, List.filterMap_eq_map]

/-- Parts that create one thing each create these things, as far as their names can be written. -/
theorem filterMap_creation?_flatMap {α : Type} (xs : List α) (object : α → String)
    (names : α → List String) {part : α → Emitted} {made : α → Creation}
    (h : ∀ x, (part x).batch.filterMap Statement.creation? = [made x]) :
    (xs.flatMap fun x => (ifWritable (object x) (names x) (part x)).batch).filterMap
      Statement.creation? = (xs.filter fun x => areWritable (names x)).map made := by
  induction xs with
  | nil => rfl
  | cons x xs ih =>
    rw [List.flatMap_cons, List.filterMap_append, ih, batch_ifWritable]
    cases hw : areWritable (names x) with
    | true => simp [hw, h]
    | false => simp [hw]

/-- Dropping looks at the same two names as creating. -/
theorem isWritable_eq (schema name : String) :
    isWritable schema name = areWritable [schema, name] := by
  simp [isWritable, areWritable]

/-- The names of the domains that can be written. -/
def writtenTypes (k : Catalog) : List ObjectName :=
  (k.userTypes.filter fun t => isWritable t.schema t.name).map fun t => ⟨t.schema, t.name⟩

/-- The names of the sequences that can be written. -/
def writtenSequences (k : Catalog) : List ObjectName :=
  (k.sequences.filter fun s => isWritable s.schema s.name).map fun s => ⟨s.schema, s.name⟩

/-- The tables and the names of the foreign keys that can be written. -/
def writtenKeys (k : Catalog) : List (ObjectName × String) :=
  (k.foreignKeys.filter (isEmittable k)).map fun fk => (⟨fk.schema, fk.table⟩, fk.name)

variable (options : EmitOptions) (k : Catalog)

/-! ## What each script is about -/

theorem created_createTypes : (createTypes options k).script.created =
    (writtenTypes k).map .userType ++ (writtenSequences k).map .sequence := by
  have htype (t : UserType) : (typePart t).batch.filterMap Statement.creation? =
      [.userType ⟨t.schema, t.name⟩] := rfl
  have hsequence (s : Sequence) :
      (Emitted.statement (.createSequence (sequenceDefinition s))).batch.filterMap
        Statement.creation? = [.sequence ⟨s.schema, s.name⟩] := rfl
  have htypes := filterMap_creation?_flatMap k.userTypes UserType.fullName
    (fun t => [t.schema, t.name]) htype
  have hsequences := filterMap_creation?_flatMap k.sequences Sequence.fullName
    (fun s => [s.schema, s.name]) hsequence
  simp only [Script.created, createTypes, EmittedScript.statements_ofParts, List.flatMap_append,
    List.flatMap_map, List.filterMap_append, writtenTypes, writtenSequences, List.map_map,
    isWritable_eq]
  exact congrArg₂ (· ++ ·) htypes hsequences

theorem removed_dropTypes : (dropTypes options k).script.removed =
    (writtenSequences k).map .sequence ++ (writtenTypes k).map .userType := by
  simp only [Script.removed, dropTypes, EmittedScript.statements_ofParts, List.flatMap_cons,
    List.flatMap_nil, List.append_nil, List.filterMap_append, writtenSequences, writtenTypes,
    List.map_map]
  exact congrArg₂ (· ++ ·) (filterMap_map_eq fun _ => rfl) (filterMap_map_eq fun _ => rfl)

/-- Defaults and descriptions create no table. -/
theorem tables_created_createTables :
    (createTables options k).script.created.filterMap Creation.table? =
      (keptTables k).map tableName := by
  have hdetails : ∀ s ∈ detailStatements k, s.creation?.bind Creation.table? = none := by
    intro s hs
    obtain ⟨t, _, ⟨c, _, _, rfl⟩ | ⟨c, _, _, rfl⟩ | ⟨_, rfl⟩⟩ := cases_of_mem_detailStatements hs <;>
      rfl
  have htables : ((keptTables k).map (tableStatement k)).filterMap
      (fun s => s.creation?.bind Creation.table?) = (keptTables k).map tableName :=
    filterMap_map_eq fun _ => rfl
  simp only [Script.created, List.filterMap_filterMap, statements_createTables, tableStatements,
    List.filterMap_append, List.filterMap_eq_nil_iff.mpr hdetails, htables, List.append_nil]
  rfl

theorem emptied_truncateTables :
    (truncateTables options k).script.emptied = (keptTables k).map tableName := by
  simp only [Script.emptied, truncateTables, EmittedScript.statements_ofParts, List.flatMap_cons,
    List.flatMap_nil, List.append_nil]
  exact filterMap_map_eq fun _ => rfl

theorem removed_dropTables : (dropTables options k).script.removed =
    (writtenKeys k).map (fun key => .foreignKey key.1 key.2) ++
      ((keptTables k).map tableName).reverse.map .table := by
  simp only [Script.removed, dropTables, EmittedScript.statements_ofParts, List.flatMap_cons,
    List.flatMap_nil, List.append_nil, List.filterMap_append, writtenKeys, List.map_map,
    ← List.map_reverse]
  exact congrArg₂ (· ++ ·) (filterMap_map_eq fun _ => rfl) (filterMap_map_eq fun _ => rfl)

/-- A foreign key is created where all its names can be written, its own among them. -/
theorem keys_created_createForeignKeys :
    (createForeignKeys options k).script.created.filterMap Creation.foreignKey? ⊆ writtenKeys k := by
  intro key hkey
  simp only [Script.created, List.filterMap_filterMap, List.mem_filterMap] at hkey
  obtain ⟨s, hs, hmade⟩ := hkey
  obtain ⟨t, _, fk, hfk, _, _, hemit, _, rfl⟩ := mem_createForeignKeys.mp hs
  change some (⟨fk.schema, fk.table⟩, fk.name) = some key at hmade
  obtain rfl := Option.some.inj hmade
  exact List.mem_map.mpr ⟨fk, List.mem_filter.mpr ⟨hfk, hemit⟩, rfl⟩

/-! ## All scripts of a catalog -/

/-- Of objects of one kind, each is found by what looks for this kind. -/
private theorem filterMap_map_self {α : Type} (made : α → Creation) {selected : Creation → Option α}
    (names : List α) (h : ∀ name, selected (made name) = some name) :
    (names.map made).filterMap selected = names := by
  rw [filterMap_map_eq h, List.map_id']

/-- Of objects of one kind, none is found by what looks for another kind. -/
private theorem filterMap_map_none {α β : Type} (made : α → Creation)
    {selected : Creation → Option β} (names : List α) (h : ∀ name, selected (made name) = none) :
    (names.map made).filterMap selected = [] := by
  refine List.filterMap_eq_nil_iff.mpr fun _ hmem => ?_
  obtain ⟨name, _, rfl⟩ := List.mem_map.mp hmem
  exact h name

/-- Objects of two kinds, one kind after the other, never have one of the first after one of the
second. -/
private theorem pairwise_kinds {α β : Type} {names : List α} {others : List β}
    {made : α → Creation} {madeOther : β → Creation} {before after : Creation → Prop}
    (hfirst : ∀ name, ¬ before (made name)) (hsecond : ∀ name, after (madeOther name)) :
    (names.map made ++ others.map madeOther).Pairwise fun first next =>
      before first → after next := by
  rw [List.pairwise_append]
  refine ⟨?_, ?_, ?_⟩
  · refine List.pairwise_of_forall_mem_list fun first hmem _ _ hbefore => ?_
    obtain ⟨name, _, rfl⟩ := List.mem_map.mp hmem
    exact absurd hbefore (hfirst name)
  · refine List.pairwise_of_forall_mem_list fun _ _ next hmem _ => ?_
    obtain ⟨name, _, rfl⟩ := List.mem_map.mp hmem
    exact hsecond name
  · intro _ _ next hmem _
    obtain ⟨name, _, rfl⟩ := List.mem_map.mp hmem
    exact hsecond name

/-- The scripts for the various purposes are about the same objects. -/
theorem nameSameObjects_scriptFor :
    NameSameObjects fun kind => (scriptFor options k kind).script where
  emptiedTables := by
    rw [scriptFor, scriptFor, emptied_truncateTables, tables_created_createTables]
  droppedTables := by
    rw [scriptFor, scriptFor, removed_dropTables, tables_created_createTables,
      List.filterMap_append, filterMap_map_none _ (writtenKeys k) fun _ => rfl,
      filterMap_map_self .table _ fun _ => rfl, List.nil_append]
  droppedTypes := by
    rw [scriptFor, scriptFor, removed_dropTypes, created_createTypes, List.filterMap_append,
      List.filterMap_append, filterMap_map_self .userType _ fun _ => rfl,
      filterMap_map_none .sequence _ fun _ => rfl, List.nil_append, List.append_nil]
  droppedSequences := by
    rw [scriptFor, scriptFor, removed_dropTypes, created_createTypes, List.filterMap_append,
      List.filterMap_append, filterMap_map_self .sequence _ fun _ => rfl,
      filterMap_map_none .userType _ fun _ => rfl, List.nil_append, List.append_nil]
  droppedKeys := by
    rw [scriptFor, scriptFor, removed_dropTables, List.filterMap_append,
      filterMap_map_self (fun key => .foreignKey key.1 key.2) (writtenKeys k) fun _ => rfl]
    exact List.Subset.trans (keys_created_createForeignKeys options k) (List.subset_append_left ..)
  keysFirst := by
    rw [scriptFor, removed_dropTables]
    exact pairwise_kinds (fun _ => Bool.false_ne_true) fun _ => rfl
  sequencesFirst := by
    rw [scriptFor, removed_dropTypes]
    exact pairwise_kinds (fun _ => Bool.false_ne_true) fun _ => rfl

/-- A catalog with tables yields, under all options, a script for each purpose, and all of them are
about the same objects. -/
theorem nameSameObjects_emit (options : EmitOptions) {k : Catalog} (hk : k.isEmpty = false) :
    ∃ script : ArtifactKind → Script,
      (∀ kind, (k.emit options).script? kind = some (script kind)) ∧ NameSameObjects script :=
  ⟨fun kind => (scriptFor options k kind).script, script?_emit options hk,
    nameSameObjects_scriptFor options k⟩

/-- A foreign key of the table `s.t` to a table of the same schema. -/
def keyTo (refTable name : String) : ForeignKey where
  name
  sourceName := name
  schema := "s"
  table := "t"
  refSchema := "s"
  refTable
  columns := ["a"]
  refColumns := ["a"]
  onDelete := .noAction
  onUpdate := .noAction

/-- A catalog with a table that is listed twice, one with a name that cannot be written, and foreign
keys to the first, to the second and to a table that is not there. -/
def tangledCatalog : Catalog where
  schemas := ["s"]
  tables := [⟨"s", "t", [], none⟩, ⟨"s", "", [], none⟩, ⟨"s", "u", [], none⟩, ⟨"s", "t", [], none⟩]
  userTypes := [⟨"s", "d", "integer", false, none, none, none⟩,
    ⟨"s", "", "integer", false, none, none, none⟩]
  foreignKeys := [keyTo "t" "own", keyTo "" "rejected", keyTo "missing" "dangling", keyTo "t" ""]

theorem nameSameObjects_emit_tangledCatalog :
    tangledCatalog.isEmpty = false ∧
      ((tangledCatalog.emit {}).script? .dropTables).map Script.removed =
        some [.foreignKey ⟨"s", "t"⟩ "own", .foreignKey ⟨"s", "t"⟩ "dangling",
          .table ⟨"s", "t"⟩, .table ⟨"s", "u"⟩, .table ⟨"s", "t"⟩] ∧
      ∃ script : ArtifactKind → Script,
        (∀ kind, (tangledCatalog.emit {}).script? kind = some (script kind)) ∧
          NameSameObjects script :=
  ⟨by decide, by decide, nameSameObjects_emit {} (by decide)⟩

end Emission

end SchemaTransfer
