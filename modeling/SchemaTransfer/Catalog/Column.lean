import SchemaTransfer.TypeName

/-!
# Columns and tables of a catalog

A column keeps the type names as they were printed; whether it holds an array is read off its
dimensions or off the mark at the end of its type name.
-/

namespace SchemaTransfer

/-- A column of a table. -/
structure Column where
  name : String
  /-- The position in the table, counted from one. -/
  ordinal : Int32
  /-- The type name without a size. -/
  sourceType : String
  /-- The type name with its size. -/
  formattedType : String
  isNullable : Bool
  /-- The number of array dimensions, zero for a scalar. -/
  arrayDims : Int32
  /-- The greatest number of elements seen, zero for a scalar or when none was seen. -/
  maxCardinality : Int64
  numericPrecision : Option Int32
  numericScale : Option Int32
  maxCharSize : Option Int32
  /-- The default expression as printed. -/
  defaultExpr : Option String
  comment : Option String
  deriving DecidableEq

namespace Column

/-- Whether the column holds arrays. -/
def isArray (c : Column) : Bool := 0 < c.arrayDims || TypeName.hasArrayMark c.sourceType

/-- The type of one element. -/
def elementType (c : Column) : String := TypeName.bare c.sourceType

end Column

/-- A table. -/
structure Table where
  schema : String
  name : String
  /-- The columns in the order of their ordinals. -/
  columns : List Column
  comment : Option String
  deriving DecidableEq

namespace Table

/-- The schema and the name with a dot between them. -/
def fullName (t : Table) : String := t.schema ++ "." ++ t.name

/-- Whether the table has the given schema and name. -/
def isNamed (t : Table) (schema name : String) : Bool := t.schema == schema && t.name == name

@[simp] theorem isNamed_iff (t : Table) (schema name : String) :
    t.isNamed schema name = true ↔ t.schema = schema ∧ t.name = name := by
  simp [isNamed]

/-- The first column of a name. -/
def column? (t : Table) (name : String) : Option Column := t.columns.find? fun c => c.name == name

/-- The names of the columns, in order. -/
def columnNames (t : Table) : List String := t.columns.map (·.name)

end Table

/-- A place in the catalog: a column of a table of a schema. -/
structure ColumnRef where
  schema : String
  table : String
  column : String
  deriving DecidableEq

namespace ColumnRef

/-- The three names with dots between them. -/
def fullName (r : ColumnRef) : String := r.schema ++ "." ++ r.table ++ "." ++ r.column

end ColumnRef

/-- Where a column of a table stands. -/
def Table.ref (t : Table) (c : Column) : ColumnRef := ⟨t.schema, t.name, c.name⟩

/-- What sampling found for columns: the greatest number of elements of an array, or the greatest
length of a binary value. -/
abbrev Cardinalities := ColumnRef → Option Int64

namespace Cardinalities

/-- Nothing was sampled. -/
def empty : Cardinalities := fun _ => none

/-- Records a finding, in the place of an earlier one for the same column. -/
def record (found : Cardinalities) (place : ColumnRef) (value : Int64) : Cardinalities :=
  fun r => if r = place then some value else found r

@[simp] theorem record_self (found : Cardinalities) (place : ColumnRef) (value : Int64) :
    found.record place value place = some value := by simp [record]

theorem record_of_ne {found : Cardinalities} {place r : ColumnRef} (value : Int64)
    (h : r ≠ place) : found.record place value r = found r := by simp [record, h]

end Cardinalities

end SchemaTransfer
