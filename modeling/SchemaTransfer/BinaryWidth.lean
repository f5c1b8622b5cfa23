import SchemaTransfer.Catalog.Basic

/-!
# The width of binary columns

A column of single binary values takes the greatest length that sampling found as its size. A
length beyond 32 bits leaves it without a size.
-/

namespace SchemaTransfer

namespace Column

/-- Whether the column holds single binary values. -/
def isBinary (c : Column) : Bool :=
  !c.isArray && Text.lowered (Text.trim c.sourceType) == "bytea"

/-- A length as a number of 32 bits, if it is one. -/
def lengthOf32Bits? (n : Int64) : Option Int32 :=
  if n.toInt ≤ 2147483647 then some (Int32.ofInt n.toInt) else none

/-- The length that sampling found for the column, if it is a binary one and was measured. -/
def sampledLength? (c : Column) (found : Option Int64) : Option Int64 :=
  if c.isBinary then found.filter fun n => 0 < n else none

/-- The column with its sampled length as its size. -/
def sizedBinary (c : Column) (found : Option Int64) : Column :=
  match c.sampledLength? found with
  | some n => { c with maxCharSize := lengthOf32Bits? n }
  | none => c

end Column

namespace Catalog

/-- The catalog with the binary columns sized. -/
def sizeBinaryColumns (k : Catalog) (found : Cardinalities) : Catalog :=
  { k with
    tables := k.tables.map fun t =>
      { t with columns := t.columns.map fun c => c.sizedBinary (found (t.ref c)) } }

/-- The number of columns that are sized. -/
def sizedCount (k : Catalog) (found : Cardinalities) : Nat :=
  (k.tables.flatMap fun t =>
    t.columns.filter fun c => (c.sampledLength? (found (t.ref c))).isSome).length

end Catalog

end SchemaTransfer
