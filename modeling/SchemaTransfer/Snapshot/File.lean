import SchemaTransfer.Files.Access
import SchemaTransfer.Snapshot.Json

/-!
# Snapshots in files

Snapshots are kept as JSON.
-/

namespace SchemaTransfer.Snapshot

variable {m : Type → Type} [Monad m]

/-- Reads the snapshot of a file. -/
def load (files : FileAccess m) (path : String) : ExceptT Failure m Snapshot := do
  let text ← FileAccess.attempt .file (files.readText path)
  ExceptT.mk (pure (ofJson text))

/-- Writes a snapshot to a file. -/
def save (files : FileAccess m) (path : String) (s : Snapshot) : ExceptT Failure m Unit :=
  files.writeText path s.toJson

end SchemaTransfer.Snapshot
