import SchemaTransfer.Proofs.Emission.Contents

/-!
# Accounts of what is written

Every object of which something has to come is either created, by a statement of its own, or
reported under its qualified name. An account is kept with multiplicities: the statements that
create something are as many, under the same names, as the objects that are created. Accounts of
several parts can be put together, and each part of a script accounts for the object it is made
for.
-/

namespace SchemaTransfer

/-- An object of a catalog of which something has to come. -/
inductive CatalogObject where
  | schema (name : String)
  | userType (t : UserType)
  | sequence (s : Sequence)
  | table (t : Table)
  | columnDefault (t : Table) (c : Column)
  | index (x : Index)
  | foreignKey (fk : ForeignKey)
  deriving DecidableEq

/-- What a statement creates, by the names under which it does so. -/
inductive Creation where
  | schema (name : String)
  | userType (name : ObjectName)
  | sequence (name : ObjectName)
  | table (name : ObjectName)
  | columnDefault (table : ObjectName) (column : String)
  | index (table : ObjectName) (kind : IndexKind) (name : String)
  | foreignKey (table : ObjectName) (name : String)
  deriving DecidableEq

/-- What a statement creates, if it creates something. -/
def Statement.creation? : Statement → Option Creation
  | createSchema name => some (.schema name)
  | createType name _ _ => some (.userType name)
  | createSequence definition => some (.sequence definition.name)
  | createTable name _ => some (.table name)
  | addDefault table _ column _ => some (.columnDefault table column)
  | addPrimaryKey key => some (.index key.table .primaryKey key.name)
  | addUnique key => some (.index key.table .unique key.name)
  | createIndex key => some (.index key.table .plain key.name)
  | addForeignKey reference => some (.foreignKey reference.table reference.constraint)
  | _ => none

namespace CatalogObject

/-- The qualified name under which an object is reported. -/
def fullName : CatalogObject → String
  | schema name => name
  | userType t => t.fullName
  | sequence s => s.fullName
  | table t => t.fullName
  | columnDefault t c => (t.ref c).fullName
  | index x => x.fullName
  | foreignKey fk => fk.schema ++ "." ++ fk.table ++ "." ++ fk.name

/-- What the statement for an object creates. -/
def creation : CatalogObject → Creation
  | schema name => .schema name
  | userType t => .userType ⟨t.schema, t.name⟩
  | sequence s => .sequence ⟨s.schema, s.name⟩
  | table t => .table (Emission.tableName t)
  | columnDefault t c => .columnDefault (Emission.tableName t) c.name
  | index x => .index ⟨x.schema, x.table⟩ x.kind (Emission.indexName x)
  | foreignKey fk => .foreignKey ⟨fk.schema, fk.table⟩ fk.name

end CatalogObject

/-! ## Accounts -/

/-- Whether statements and reports account for objects: the statements that create something
create some of the objects, one statement each, and every other object is reported under its
qualified name. -/
def Accounted (objects : List CatalogObject) (statements : List Statement)
    (reported : List Diagnostic) : Prop :=
  ∃ made skipped : List CatalogObject, objects.Perm (made ++ skipped) ∧
    (statements.filterMap Statement.creation?).Perm (made.map CatalogObject.creation) ∧
    ∀ o ∈ skipped, ∃ d ∈ reported, d.object = o.fullName

variable {objects : List CatalogObject} {statements : List Statement} {reported : List Diagnostic}

/-- Statements that create nothing account for no object. -/
theorem accounted_nil (h : ∀ s ∈ statements, s.creation? = none) (reported : List Diagnostic) :
    Accounted [] statements reported :=
  ⟨[], [], List.Perm.refl _, by simp [List.filterMap_eq_nil_iff.mpr h], by simp⟩

/-- A statement that creates an object accounts for it. -/
theorem accounted_made {o : CatalogObject}
    (h : statements.filterMap Statement.creation? = [o.creation]) (reported : List Diagnostic) :
    Accounted [o] statements reported :=
  ⟨[o], [], List.Perm.refl _, by simp [h], by simp⟩

/-- A report under the name of an object accounts for it. -/
theorem accounted_skipped {o : CatalogObject} {d : Diagnostic} (h : d.object = o.fullName) :
    Accounted [o] [] [d] :=
  ⟨[], [o], List.Perm.refl _, List.Perm.refl _, by simpa using h⟩

theorem Accounted.perm {others : List CatalogObject} (h : Accounted objects statements reported)
    (hp : others.Perm objects) : Accounted others statements reported := by
  obtain ⟨made, skipped, hobjects, hmade, hskipped⟩ := h
  exact ⟨made, skipped, hp.trans hobjects, hmade, hskipped⟩

/-- Accounts can be put together. -/
theorem Accounted.append {objects' : List CatalogObject} {statements' : List Statement}
    {reported' : List Diagnostic} (h : Accounted objects statements reported)
    (h' : Accounted objects' statements' reported') :
    Accounted (objects ++ objects') (statements ++ statements') (reported ++ reported') := by
  obtain ⟨made, skipped, hobjects, hmade, hskipped⟩ := h
  obtain ⟨made', skipped', hobjects', hmade', hskipped'⟩ := h'
  refine ⟨made ++ made', skipped ++ skipped', ?_, ?_, ?_⟩
  · refine (hobjects.append hobjects').trans ?_
    rw [List.append_assoc, List.append_assoc]
    exact (List.perm_append_comm_assoc _ _ _).append_left made
  · rw [List.filterMap_append, List.map_append]
    exact hmade.append hmade'
  · intro o ho
    rcases List.mem_append.mp ho with ho | ho
    · obtain ⟨d, hd, he⟩ := hskipped o ho
      exact ⟨d, List.mem_append_left _ hd, he⟩
    · obtain ⟨d, hd, he⟩ := hskipped' o ho
      exact ⟨d, List.mem_append_right _ hd, he⟩

/-- The account of a list is that of its members, one after the other. -/
theorem accounted_flatMap {α : Type} {xs : List α} {objects : α → List CatalogObject}
    {statements : α → List Statement} {reported : α → List Diagnostic}
    (h : ∀ x ∈ xs, Accounted (objects x) (statements x) (reported x)) :
    Accounted (xs.flatMap objects) (xs.flatMap statements) (xs.flatMap reported) := by
  induction xs with
  | nil => exact accounted_nil (by simp) _
  | cons x xs ih =>
    simp only [List.flatMap_cons]
    exact (h x List.mem_cons_self).append (ih fun y hy => h y (List.mem_cons_of_mem _ hy))

/-- Objects are accounted for when each of them is by a part of its own. -/
theorem accounted_map {α : Type} {xs : List α} {object : α → CatalogObject} {part : α → Emitted}
    (h : ∀ x ∈ xs, Accounted [object x] (part x).batch (part x).reported) :
    Accounted (xs.map object) (xs.flatMap fun x => (part x).batch)
      (xs.flatMap fun x => (part x).reported) := by
  rw [List.map_eq_flatMap]
  exact accounted_flatMap h

namespace Emission

/-! ## Parts -/

/-- A part that depends on names accounts for an object when it creates the object and the names
are reported under the name of the object. -/
theorem accounted_ifWritable {o : CatalogObject} {part : Emitted}
    (h : part.batch.filterMap Statement.creation? = [o.creation]) (names : List String) :
    Accounted [o] (ifWritable o.fullName names part).batch
      (ifWritable o.fullName names part).reported := by
  cases hw : areWritable names with
  | true =>
    rw [ifWritable_of_writable hw]
    exact accounted_made h _
  | false =>
    obtain ⟨d, hd, he⟩ := ifWritable_of_not_writable hw o.fullName part
    rw [he]
    exact accounted_skipped hd

theorem accounted_createSchema (name : String) :
    Accounted [.schema name] (createSchema name).batch (createSchema name).reported :=
  accounted_ifWritable (o := .schema name) rfl [name]

theorem accounted_createType (t : UserType) :
    Accounted [.userType t] (createType t).batch (createType t).reported :=
  accounted_ifWritable (o := .userType t) (show (typePart t).batch.filterMap _ = _ from rfl)
    [t.schema, t.name]

theorem accounted_createSequence (s : Sequence) :
    Accounted [.sequence s] (createSequence s).batch (createSequence s).reported :=
  accounted_ifWritable (o := .sequence s) rfl [s.schema, s.name]

/-- An index is created under its own name or the name of the primary key, and reported under its
own. -/
theorem accounted_createIndex (x : Index) :
    Accounted [.index x] (createIndex x).batch (createIndex x).reported := by
  have hmade : (Emitted.statement (indexStatement x)).batch.filterMap Statement.creation? =
      [CatalogObject.creation (.index x)] := by
    simp only [batch_statement, indexStatement, CatalogObject.creation]
    cases x.kind <;> rfl
  exact accounted_ifWritable (o := .index x) hmade [indexName x]

theorem accounted_addForeignKey (options : EmitOptions) {t : Table} {fk : ForeignKey}
    (hs : fk.schema = t.schema) (hn : fk.table = t.name) :
    Accounted [.foreignKey fk] (addForeignKey options t fk).batch
      (addForeignKey options t fk).reported := by
  have hname : t.fullName ++ "." ++ fk.name = (CatalogObject.foreignKey fk).fullName := by
    rw [CatalogObject.fullName, Table.fullName, hs, hn]
  rw [addForeignKey_eq, hname]
  exact accounted_ifWritable (o := .foreignKey fk) rfl (foreignKeyNames fk)

theorem accounted_createTable (k : Catalog) (t : Table) :
    Accounted [.table t] (createTable k t).batch (createTable k t).reported :=
  accounted_made (o := .table t) (by rw [batch_createTable]; rfl) _

/-- The columns of a table that have a default. -/
def defaultedColumns (t : Table) : List Column := t.columns.filter fun c => c.defaultExpr.isSome

/-- A default is added or reported; a column without one leaves nothing. -/
theorem accounted_addDefaults (t : Table) :
    Accounted ((defaultedColumns t).map (.columnDefault t)) (addDefaults t).batch
      (addDefaults t).reported := by
  have hcolumn : ∀ c ∈ t.columns,
      Accounted (if c.defaultExpr.isSome then [CatalogObject.columnDefault t c] else [])
        (addDefault t c).batch (addDefault t c).reported := by
    intro c _
    rcases addDefault_cases t c with ⟨hc, he⟩ | ⟨hc, expression, he⟩ | ⟨hc, d, hd, he⟩
    · rw [he, hc]
      exact accounted_nil (by simp) _
    · rw [he, if_pos hc]
      exact accounted_made (o := .columnDefault t c) rfl _
    · rw [he, if_pos hc]
      exact accounted_skipped (o := .columnDefault t c) hd
  have hobjects : (defaultedColumns t).map (.columnDefault t) = t.columns.flatMap fun c =>
      if c.defaultExpr.isSome then [CatalogObject.columnDefault t c] else [] := by
    rw [defaultedColumns]
    induction t.columns with
    | nil => rfl
    | cons c cs ih =>
      rw [List.flatMap_cons, ← ih]
      cases hc : c.defaultExpr.isSome <;> simp [hc]
  simp only [addDefaults, batch_gather, reported_gather, List.flatMap_map]
  rw [hobjects]
  exact accounted_flatMap hcolumn

end Emission

end SchemaTransfer
