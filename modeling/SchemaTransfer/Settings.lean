import SchemaTransfer.Emission.Basic
import SchemaTransfer.Text.Quoted

/-!
# Settings of a run

Where the catalog is read, which database the scripts are for, and how objects are converted.
Settings are usable when they pass every rule of validation; the first rule broken is the fault
that is reported.
-/

namespace SchemaTransfer

/-- How the connection to the source is protected. -/
inductive SslMode where
  | disable
  | require
  | verifyCa
  | verifyFull
  deriving DecidableEq

namespace SslMode

/-- The mode of a written value, which is taken without blanks around it and in lower case; an
empty value asks for protection without verification. The fault is the value as it was taken. -/
def ofText (value : String) : Except String SslMode :=
  let taken := Text.lowered (Text.trim value)
  if taken = "disable" then .ok disable
  else if taken = "" ∨ taken = "require" then .ok require
  else if taken = "verify-ca" then .ok verifyCa
  else if taken = "verify-full" then .ok verifyFull
  else .error taken

/-- Whether the connection is protected. -/
def requiresTls : SslMode → Bool
  | disable => false
  | require => true
  | verifyCa => true
  | verifyFull => true

end SslMode

/-- Where the catalog is read. -/
structure SourceSettings where
  /-- The kind of database. -/
  kind : String := "postgres"
  host : String
  port : UInt16 := 5432
  database : String
  user : String
  password : String := ""
  sslMode : String := "require"
  connectTimeoutSecs : UInt64 := 30
  deriving DecidableEq

namespace SourceSettings

/-- The server and the database in one word. -/
def address (s : SourceSettings) : String :=
  s.host ++ ":" ++ toString s.port.toNat ++ "/" ++ s.database

/-- The settings in words; what stands for the password says nothing about it. -/
def description (s : SourceSettings) : String :=
  "SourceConfig \x7b type: " ++ Text.quoted s.kind ++ ", host: " ++ Text.quoted s.host ++
    ", port: " ++ toString s.port.toNat ++ ", database: " ++ Text.quoted s.database ++
    ", user: " ++ Text.quoted s.user ++ ", password: " ++ Text.quoted "[REDACTED]" ++
    ", ssl_mode: " ++ Text.quoted s.sslMode ++
    ", connect_timeout_secs: " ++ toString s.connectTimeoutSecs.toNat ++ " \x7d"

end SourceSettings

/-- The database that the scripts are for. -/
structure TargetSettings where
  /-- The kind of database. -/
  kind : String := "mssql"
  database : Option String := none
  deriving DecidableEq

/-- How objects are converted. -/
structure ConversionSettings where
  outputDir : String := "output"
  includePublic : Bool := false
  excludedSchemas : List String := []
  arraySampleLimit : Int64 := 10000
  foreignKeyActions : ActionPolicy := .omit
  foreignKeySuffix : String := "_fkey"
  emitUseDatabase : Bool := true
  deriving DecidableEq

namespace ConversionSettings

/-- The schemas that are never read, in front of the configured ones, each once. -/
def excludedSchemaList (s : ConversionSettings) : List String :=
  let own := ["pg_catalog", "information_schema", "pg_toast"] ++
    (if s.includePublic then [] else ["public"])
  s.excludedSchemas.foldl noteSchema own

end ConversionSettings

/-- The settings of a run. -/
structure Settings where
  source : SourceSettings
  target : TargetSettings := {}
  conversion : ConversionSettings := {}
  deriving DecidableEq

/-- Why settings cannot be used. -/
inductive SettingsFault where
  | hostMissing
  | databaseMissing
  | userMissing
  | sourceKind (found : String)
  | sslMode (found : String)
  | targetKind (found : String)
  | targetDatabaseBlank
  | outputDirMissing
  | sampleLimitTooSmall
  /-- The settings could not be read at all. -/
  | unreadable (path reason : String)
  deriving DecidableEq

/-- The wording of a fault. -/
def SettingsFault.message : SettingsFault → String
  | hostMissing => "source.host is required"
  | databaseMissing => "source.database is required"
  | userMissing => "source.user is required"
  | sourceKind found => "source.type must be 'postgres', got '" ++ found ++ "'"
  | sslMode found =>
    "source.ssl_mode '" ++ found ++
      "' is not one of disable, require, verify-ca, verify-full"
  | targetKind found => "target.type must be 'mssql', got '" ++ found ++ "'"
  | targetDatabaseBlank => "target.database must not be blank when set"
  | outputDirMissing => "conversion.output_dir is required"
  | sampleLimitTooSmall => "conversion.array_sample_limit must be at least 1"
  | unreadable path reason => "cannot read " ++ path ++ ": " ++ reason

namespace Settings

/-- The fault of a written mode of protection, if it has one. -/
def sslFault? (value : String) : Option SettingsFault :=
  match SslMode.ofText value with
  | .ok _ => none
  | .error found => some (.sslMode found)

/-- A fault under a condition. -/
def faultIf (condition : Bool) (fault : SettingsFault) : Option SettingsFault :=
  if condition then some fault else none

/-- Whether a text is empty but for blanks. -/
def isBlank (text : String) : Bool := (Text.trimList text.toList).isEmpty

/-- The rules of validation, in the order in which they are tried. -/
def rules (s : Settings) : List (Option SettingsFault) := [
  faultIf (s.source.host == "") .hostMissing,
  faultIf (s.source.database == "") .databaseMissing,
  faultIf (s.source.user == "") .userMissing,
  faultIf (s.source.kind != "postgres") (.sourceKind s.source.kind),
  sslFault? s.source.sslMode,
  faultIf (s.target.kind != "mssql") (.targetKind s.target.kind),
  faultIf (s.target.database.any isBlank) .targetDatabaseBlank,
  faultIf (s.conversion.outputDir == "") .outputDirMissing,
  faultIf (s.conversion.arraySampleLimit < 1) .sampleLimitTooSmall]

/-- The first rule broken, if one is. -/
def fault? (s : Settings) : Option SettingsFault := s.rules.findSome? id

/-- The database that scripts use, if they are to name it. -/
def useDatabase? (s : Settings) : Option String :=
  if s.conversion.emitUseDatabase then s.target.database else none

/-- The choices for writing scripts. -/
def emitOptions (s : Settings) : EmitOptions := ⟨s.useDatabase?, s.conversion.foreignKeyActions⟩

end Settings

/-- Settings with nothing but what has to be given. -/
def plainSettings : Settings where
  source := { host := "db", database := "d", user := "u" }

/-- The parameters with which a server is asked for a connection. -/
structure ConnectionParameters where
  ports : List UInt16
  database : String
  user : String
  applicationName : String
  connectTimeoutSecs : UInt64
  deriving DecidableEq

/-- The parameters that the settings of a source give. -/
def SourceSettings.parameters (s : SourceSettings) : ConnectionParameters where
  ports := [s.port]
  database := s.database
  user := s.user
  applicationName := "pg2mssql"
  connectTimeoutSecs := s.connectTimeoutSecs

end SchemaTransfer
