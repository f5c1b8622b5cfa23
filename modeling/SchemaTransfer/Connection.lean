import SchemaTransfer.Document.JsonWriting
import SchemaTransfer.Files.Access
import SchemaTransfer.Settings

/-!
# Connecting to a source

Before a server is asked for anything the mode of protection has to be understood. A server is
reached through a socket, a file in the directory that is its host. A server whose socket does not
exist cannot be reached, whatever the mode; a path that no socket can have is refused before it is
looked for. A health check never fails: it reports why the server could not be reached.
-/

namespace SchemaTransfer

/-- Why a socket that does not exist cannot be opened. -/
inductive SocketFault where
  | notFound
  | nulInPath
  | pathTooLong
  deriving DecidableEq

namespace SocketFault

/-- The number of bytes that the path of a socket has to stay below. -/
def pathLimit : Nat := 108

/-- The fault of opening a socket that does not exist. -/
def ofPath (path : String) : SocketFault :=
  if '\x00' ∈ path.toList then nulInPath
  else if pathLimit ≤ path.utf8ByteSize then pathTooLong
  else notFound

/-- The wording of a fault. -/
def message : SocketFault → String
  | notFound => FileFault.notFound.message
  | nulInPath => "paths must not contain interior null bytes"
  | pathTooLong => "path must be shorter than SUN_LEN"

end SocketFault

namespace SourceSettings

/-- The path of the socket of a server. -/
def socketPath (s : SourceSettings) : String :=
  pathInside s.host (".s.PGSQL." ++ toString s.port.toNat)

/-- The failure of reaching a server whose socket does not exist. -/
def unreachable (s : SourceSettings) : Failure :=
  .connection
    (s.address ++ ": error connecting to server: " ++ (SocketFault.ofPath s.socketPath).message)

/-- Why there is no connection to a server whose socket does not exist. -/
def connectionFailure (s : SourceSettings) : Failure :=
  match SslMode.ofText s.sslMode with
  | .ok _ => s.unreachable
  | .error found => .configuration (SettingsFault.sslMode found).message

end SourceSettings

/-- What a health check found. -/
structure HealthCheck where
  healthy : Bool
  /-- The address of the source. -/
  source : String
  serverVersion : Option String
  /-- Why the source could not be reached. -/
  sourceError : Option String
  deriving DecidableEq

/-- Checks a server whose socket does not exist. -/
def SourceSettings.healthCheck (s : SourceSettings) : HealthCheck where
  healthy := false
  source := s.address
  serverVersion := none
  sourceError := some s.connectionFailure.message

namespace HealthCheck

open Document (Value)

/-- A health check to write. -/
def value (h : HealthCheck) : Value := .record [
  ("healthy", .flag h.healthy), ("source", .text h.source),
  ("server_version", .optional .text h.serverVersion),
  ("source_error", .optional .text h.sourceError)]

/-- The lines of a health check. -/
def lines (h : HealthCheck) : List String :=
  [ "Health Check Results:",
    "  Source (PostgreSQL " ++ h.source ++ "): " ++ (if h.healthy then "OK" else "FAILED") ] ++
  (h.serverVersion.map fun version => "    Version: " ++ version).toList ++
  (h.sourceError.map fun error => "    Error: " ++ error).toList

/-- The failure that an unhealthy source leads to. -/
def failure? (h : HealthCheck) : Option Failure :=
  if h.healthy then none else some (.connection "Health check failed")

end HealthCheck

end SchemaTransfer
