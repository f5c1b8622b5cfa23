import SchemaTransfer.Emission.Basic
import SchemaTransfer.SequenceRange

/-!
# Scripts for schemas, domains and sequences

A schema, a domain or a sequence whose name cannot be written is reported and skipped when it is
created, and skipped when it is dropped. Sequences are dropped before domains.
-/

namespace SchemaTransfer.Emission

/-- Creates one schema. -/
def createSchema (name : String) : Emitted :=
  match nameReport? name [name] with
  | some report => .skipped report
  | none => .statement (.createSchema name)

/-- Creates the schemas, each in a batch of its own. -/
def createSchemas (options : EmitOptions) (k : Catalog) : EmittedScript :=
  .ofParts .createSchemas options (k.schemas.map createSchema)

/-- What is said about a type that is passed through. -/
def unmappable (object : String) (mapping : TypeMapping) : List Diagnostic :=
  (mapping.warning?.map fun warning => ⟨.unmappableType, object, warning⟩).toList

/-- Creates one domain. -/
def createType (t : UserType) : Emitted :=
  match nameReport? t.fullName [t.schema, t.name] with
  | some report => .skipped report
  | none =>
    let mapping := TypeMapping.ofName t.baseType
    let baseType := TypeName.sized mapping.target t.maxCharSize t.numericPrecision t.numericScale
    { batch := [.createType ⟨t.schema, t.name⟩ baseType t.notNull]
      reported := unmappable t.fullName mapping }

/-- What a sequence to create is given; it starts where the source left off. -/
def sequenceDefinition (s : Sequence) : SequenceDefinition where
  name := ⟨s.schema, s.name⟩
  dataType := s.targetType
  start := s.resumeValue
  increment := s.increment
  minValue := s.minValue
  maxValue := s.maxValue
  cache := s.cache
  cycle := s.cycle

/-- Creates one sequence. -/
def createSequence (s : Sequence) : Emitted :=
  match nameReport? s.fullName [s.schema, s.name] with
  | some report => .skipped report
  | none => .statement (.createSequence (sequenceDefinition s))

/-- Creates the domains, then the sequences, each in a batch of its own. -/
def createTypes (options : EmitOptions) (k : Catalog) : EmittedScript :=
  .ofParts .createTypes options
    (k.userTypes.map createType ++ k.sequences.map createSequence)

/-- Whether a schema and a name can both be written. -/
def isWritable (schema name : String) : Bool :=
  Identifier.isValid schema && Identifier.isValid name

/-- Drops the sequences, then the domains. -/
def dropTypes (options : EmitOptions) (k : Catalog) : EmittedScript :=
  let sequences := k.sequences.filter fun s => isWritable s.schema s.name
  let types := k.userTypes.filter fun t => isWritable t.schema t.name
  .ofParts .dropTypes options [
    { batch := sequences.map fun s => .dropSequence ⟨s.schema, s.name⟩ },
    { batch := types.map fun t => .dropType ⟨t.schema, t.name⟩ }]

end SchemaTransfer.Emission
