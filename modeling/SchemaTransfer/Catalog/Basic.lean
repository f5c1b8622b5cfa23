import SchemaTransfer.Catalog.Column
import SchemaTransfer.Catalog.Objects
import SchemaTransfer.Text.Blank

/-!
# The catalog

Everything that one run converts. Schemas are noted once each, in the order in which they are
first met.
-/

namespace SchemaTransfer

/-- The objects of one run. -/
structure Catalog where
  schemas : List String := []
  tables : List Table := []
  userTypes : List UserType := []
  sequences : List Sequence := []
  indexes : List Index := []
  foreignKeys : List ForeignKey := []
  deriving DecidableEq

namespace Catalog

/-- Whether there is no table to convert. -/
def isEmpty (k : Catalog) : Bool := k.tables.isEmpty

/-- The first table of a schema and name. -/
def table? (k : Catalog) (schema name : String) : Option Table :=
  k.tables.find? fun t => t.isNamed schema name

/-- Whether a table of the schema and name exists. -/
def hasTable (k : Catalog) (schema name : String) : Bool :=
  k.tables.any fun t => t.isNamed schema name

theorem hasTable_iff (k : Catalog) (schema name : String) :
    k.hasTable schema name = true ↔ ∃ t ∈ k.tables, t.schema = schema ∧ t.name = name := by
  simp [hasTable]

/-- The number of columns of all tables. -/
def columnCount (k : Catalog) : Nat := (k.tables.flatMap (·.columns)).length

end Catalog

/-- A list of schemas with one more noted, if it is not there yet. -/
def noteSchema (schemas : List String) (schema : String) : List String :=
  if schema ∈ schemas then schemas else schemas ++ [schema]

theorem mem_noteSchema {schemas : List String} {schema s : String} :
    s ∈ noteSchema schemas schema ↔ s ∈ schemas ∨ s = schema := by
  unfold noteSchema
  split
  · constructor
    · exact Or.inl
    · rintro (h | rfl) <;> assumption
  · simp

/-- Noting keeps the list without repetition. -/
theorem nodup_noteSchema {schemas : List String} (h : schemas.Nodup) (schema : String) :
    (noteSchema schemas schema).Nodup := by
  unfold noteSchema
  split
  · exact h
  · rename_i hn
    rw [List.nodup_append]
    refine ⟨h, by simp, ?_⟩
    rintro a ha b hb rfl
    exact hn (by simpa using List.mem_singleton.mp hb ▸ ha)

namespace ReferentialAction

/-- Reads the letter under which the source stores an action. -/
def ofCode (code : String) : ReferentialAction :=
  match Text.trimList code.toList with
  | ['r'] => restrict
  | ['c'] => cascade
  | ['n'] => setNull
  | ['d'] => setDefault
  | _ => noAction

/-- The action as it is written. The target has no word for refusing at once, so that action is
written as none. -/
def phrase : ReferentialAction → String
  | noAction => "NO ACTION"
  | restrict => "NO ACTION"
  | cascade => "CASCADE"
  | setNull => "SET NULL"
  | setDefault => "SET DEFAULT"

end ReferentialAction

end SchemaTransfer
