import SchemaTransfer.Failure
import SchemaTransfer.Rows

/-!
# Sources of catalog rows

A source answers six queries and, for each column, what sampling finds. An answer may be a failure.
-/

namespace SchemaTransfer

/-- A source of catalog rows. -/
structure Source where
  /-- What the source is called in reports. -/
  name : String
  columns : Except Failure (List ColumnRow)
  userTypes : Except Failure (List UserTypeRow)
  tableComments : Except Failure (List TableCommentRow)
  sequences : Except Failure (List SequenceRow)
  indexes : Except Failure (List IndexRow)
  foreignKeys : Except Failure (List ForeignKeyRow)
  /-- The greatest number of elements, or the greatest length where values are binary, in a sample
  of at most the given number of rows. -/
  cardinality : ColumnRef → (isBinary : Bool) → (sampleLimit : Int64) →
    Except Failure (Option Int64)

end SchemaTransfer
