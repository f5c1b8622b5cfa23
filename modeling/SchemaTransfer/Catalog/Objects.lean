/-!
# Domains, sequences, indexes and foreign keys of a catalog

The objects beside tables, with the choices that the source encodes as bits or letters read into
types of their own.
-/

namespace SchemaTransfer

/-- A domain: a named type over a base type. -/
structure UserType where
  schema : String
  name : String
  /-- The base type as printed. -/
  baseType : String
  notNull : Bool
  maxCharSize : Option Int32
  numericPrecision : Option Int32
  numericScale : Option Int32
  deriving DecidableEq

/-- The schema and the name of a domain with a dot between them. -/
def UserType.fullName (t : UserType) : String := t.schema ++ "." ++ t.name

/-- A sequence. -/
structure Sequence where
  schema : String
  name : String
  /-- The declared type. -/
  dataType : String
  /-- The type of the column that owns the sequence, when it is known. -/
  ownerType : Option String
  /-- The type in the target. -/
  targetType : String
  start : Int64
  increment : Int64
  minValue : Int64
  maxValue : Int64
  cache : Int64
  /-- Whether the sequence starts again after its end. -/
  cycle : Bool
  /-- The last value handed out, or the start value. -/
  lastValue : Int64
  /-- Whether the last value was handed out. -/
  isCalled : Bool
  deriving DecidableEq

/-- The schema and the name of a sequence with a dot between them. -/
def Sequence.fullName (s : Sequence) : String := s.schema ++ "." ++ s.name

/-- What an index enforces. -/
inductive IndexKind where
  | primaryKey
  | unique
  | plain
  deriving DecidableEq

/-- The order of an index key. -/
inductive SortDirection where
  | asc
  | desc
  deriving DecidableEq

namespace SortDirection

/-- The lowest bit of an index option marks a descending key. -/
def ofOption (option : Int32) : SortDirection :=
  if option &&& 1 = 1 then desc else asc

/-- The direction as it is written. -/
def keyword : SortDirection → String
  | asc => "ASC"
  | desc => "DESC"

end SortDirection

/-- A key column of an index. -/
structure IndexColumn where
  name : String
  direction : SortDirection
  deriving DecidableEq

/-- An index, or a constraint that an index enforces. -/
structure Index where
  schema : String
  table : String
  name : String
  kind : IndexKind
  /-- The key columns in the order of the index. -/
  columns : List IndexColumn
  deriving DecidableEq

/-- The schema, the table and the name of an index with dots between them. -/
def Index.fullName (x : Index) : String := x.schema ++ "." ++ x.table ++ "." ++ x.name

/-- What happens to a referencing row when the referenced row goes or changes. -/
inductive ReferentialAction where
  | noAction
  | restrict
  | cascade
  | setNull
  | setDefault
  deriving DecidableEq

/-- A foreign key. -/
structure ForeignKey where
  /-- The constraint name in the target. -/
  name : String
  /-- The constraint name in the source. -/
  sourceName : String
  schema : String
  table : String
  refSchema : String
  refTable : String
  columns : List String
  /-- The referenced columns, paired with the local ones. -/
  refColumns : List String
  onDelete : ReferentialAction
  onUpdate : ReferentialAction
  deriving DecidableEq

end SchemaTransfer
