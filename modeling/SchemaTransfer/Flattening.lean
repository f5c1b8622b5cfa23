import SchemaTransfer.Catalog.Basic

/-!
# Arrays as columns

The target has no arrays. An array column that was seen to hold more than one element becomes as
many columns, numbered from one; the numbers are padded with zeros to the width of the greatest,
up to three digits. An array with one element or none becomes a column of its element type. Keys
of indexes follow the columns that replace them.
-/

namespace SchemaTransfer

/-- The digits of a number in base ten. -/
def decimalDigits (n : Nat) : List Char := Nat.toDigits 10 n

namespace Column

/-- The number of digits of the suffix when a column becomes several. -/
def suffixWidth (count : Int64) : Nat :=
  min 3 (decimalDigits (max count.toInt 1).toNat).length

/-- A number with zeros before it up to a width. -/
def padded (width n : Nat) : List Char :=
  List.replicate (width - (decimalDigits n).length) '0' ++ decimalDigits n

/-- The name of the column for one element. -/
def elementName (name : String) (width i : Nat) : String :=
  String.ofList (name.toList ++ padded width i)

/-- The names of the columns for the elements, counted from one. -/
def elementNames (name : String) (count : Int64) : List String :=
  (List.range' 1 count.toInt.toNat).map (elementName name (suffixWidth count))

/-- The column as one of its element type. -/
def scalar (c : Column) (name : String) (cardinality : Int64) : Column :=
  { c with
    name
    sourceType := c.elementType
    formattedType := TypeName.bare c.formattedType
    arrayDims := 0
    maxCardinality := cardinality }

/-- The column for the element of a number; the default and the comment go with the first. -/
def element (c : Column) (count : Int64) (i : Nat) : Column :=
  let e := c.scalar (elementName c.name (suffixWidth count) i) count
  if i = 1 then e else { e with defaultExpr := none, comment := none }

/-- The columns in the place of a column, given what sampling found. -/
def flattened (c : Column) (found : Option Int64) : List Column :=
  if c.isArray then
    let count := found.getD 0
    if count ≤ 1 then [c.scalar c.name (if count < 0 then 0 else count)]
    else (List.range' 1 count.toInt.toNat).map (c.element count)
  else [c]

/-- Whether flattening makes several columns of one. -/
def isExpanded (c : Column) (found : Option Int64) : Bool := c.isArray && 1 < found.getD 0

end Column

namespace Table

/-- Whether a column of the table holds arrays. -/
def hasArray (t : Table) : Bool := t.columns.any (·.isArray)

/-- Columns with their ordinals counted from one. -/
def renumbered (columns : List Column) : List Column :=
  columns.mapIdx fun i c => { c with ordinal := Int32.ofNat (i + 1) }

/-- The columns of the table with each one replaced, before they are numbered. -/
def flattenedColumns (t : Table) (found : Cardinalities) : List Column :=
  t.columns.flatMap fun c => c.flattened (found (t.ref c))

/-- The table without arrays; a table that has none stays as it is. -/
def flattened (t : Table) (found : Cardinalities) : Table :=
  if t.hasArray then { t with columns := renumbered (t.flattenedColumns found) } else t

/-- The columns of the table that become several. -/
def expandedColumns (t : Table) (found : Cardinalities) : List Column :=
  t.columns.filter fun c => c.isExpanded (found (t.ref c))

end Table

/-- What flattening did: how many columns became several, and how many they became. -/
structure FlattenSummary where
  expanded : Nat
  generated : Nat
  deriving DecidableEq

namespace Catalog

/-- The names in the place of a column that became several, if the catalog has such a column. -/
def replacement? (k : Catalog) (found : Cardinalities) (place : ColumnRef) :
    Option (List String) :=
  if k.tables.any fun t => t.isNamed place.schema place.table &&
      t.columns.any fun c => c.name == place.column && c.isExpanded (found place) then
    some (Column.elementNames place.column ((found place).getD 0))
  else none

/-- The keys in the place of an index key. -/
def flattenedKeys (k : Catalog) (found : Cardinalities) (x : Index) (key : IndexColumn) :
    List IndexColumn :=
  match k.replacement? found ⟨x.schema, x.table, key.name⟩ with
  | some names => names.map fun name => { key with name }
  | none => [key]

/-- The catalog without arrays. -/
def flatten (k : Catalog) (found : Cardinalities) : Catalog :=
  { k with
    tables := k.tables.map fun t => t.flattened found
    indexes := k.indexes.map fun x =>
      { x with columns := x.columns.flatMap (k.flattenedKeys found x) } }

/-- What flattening does to the catalog, in numbers. -/
def flattenSummary (k : Catalog) (found : Cardinalities) : FlattenSummary :=
  let expanded := k.tables.flatMap fun t =>
    (t.expandedColumns found).map fun c => c.flattened (found (t.ref c))
  ⟨expanded.length, expanded.flatten.length⟩

end Catalog

end SchemaTransfer
