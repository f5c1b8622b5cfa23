import SchemaTransfer.Document.Reading
import SchemaTransfer.Failure
import SchemaTransfer.Settings

/-!
# Reading settings

Settings are a record of three records. Every member but the address of the source and the user
has a value that stands in for it.
-/

namespace SchemaTransfer

open Document
open Document.Reader (text textAs flag int64 nat16 nat64 optional variant)
open Document.RecordReader (required withDefault)

/-- The names of the policies for actions. -/
def ActionPolicy.names : List (String × ActionPolicy) :=
  [("omit", .omit), ("cascade", .cascade), ("source", .source)]

/-- Reads the members of the settings of a source. -/
def SourceSettings.fields : RecordReader SourceSettings :=
  SourceSettings.mk <$> withDefault "type" text "postgres" <*> required "host" text
    <*> withDefault "port" nat16 5432 <*> required "database" text <*> required "user" text
    <*> withDefault "password" text "" <*> withDefault "ssl_mode" text "require"
    <*> withDefault "connect_timeout_secs" nat64 30

/-- Reads the settings of a source. -/
def SourceSettings.read : Reader SourceSettings := fields.read "SourceConfig"

/-- Reads the members of the settings of a target. -/
def TargetSettings.fields : RecordReader TargetSettings :=
  TargetSettings.mk <$> withDefault "type" text "mssql"
    <*> withDefault "database" (optional text) none

/-- Reads the settings of a target. -/
def TargetSettings.read : Reader TargetSettings := fields.read "TargetConfig"

/-- Reads the members of the settings of a conversion. -/
def ConversionSettings.fields : RecordReader ConversionSettings :=
  ConversionSettings.mk <$> withDefault "output_dir" (textAs "path string") "output"
    <*> withDefault "include_public" flag false
    <*> withDefault "excluded_schemas" (Reader.list text) []
    <*> withDefault "array_sample_limit" int64 10000
    <*> withDefault "foreign_key_actions" (variant ActionPolicy.names) .omit
    <*> withDefault "foreign_key_suffix" text "_fkey"
    <*> withDefault "emit_use_database" flag true

/-- Reads the settings of a conversion. -/
def ConversionSettings.read : Reader ConversionSettings := fields.read "ConversionConfig"

/-- Reads the members of the settings of a run. -/
def Settings.fields : RecordReader Settings :=
  Settings.mk <$> required "source" SourceSettings.read
    <*> withDefault "target" TargetSettings.read {}
    <*> withDefault "conversion" ConversionSettings.read {}

/-- Reads the settings of a run. -/
def Settings.read : Reader Settings := fields.read "Config"

namespace Settings

/-- Settings that are usable, or the fault that they have. -/
def validated (s : Settings) : Except Failure Settings :=
  match s.fault? with
  | some fault => .error (.configuration fault.message)
  | none => .ok s

/-- The settings of a document, if they are usable. -/
def ofDocument (format : Format) (document : Document) : Except Failure Settings :=
  match readRoot read format document with
  | .ok s => s.validated
  | .error fault => .error (.document format fault)

end Settings

end SchemaTransfer
