import SchemaTransfer.Document.Yaml
import SchemaTransfer.Files.Access
import SchemaTransfer.Settings.Reading

/-!
# Settings in files

Settings are kept as YAML. A file that cannot be read counts as a fault of the settings.
-/

namespace SchemaTransfer.Settings

/-- The settings that a text holds. -/
def ofYaml (text : String) : Except Failure Settings := ofDocument .yaml (Document.Yaml.read text)

/-- The failure of not being able to read the settings. -/
def unreadable (path : String) (fault : FileFault) : Failure :=
  .configuration (SettingsFault.unreadable path fault.message).message

/-- Reads the settings of a file. -/
def load {m : Type → Type} [Monad m] (files : FileAccess m) (path : String) :
    ExceptT Failure m Settings := do
  let text ← FileAccess.attempt (unreadable path) (files.readText path)
  ExceptT.mk (pure (ofYaml text))

end SchemaTransfer.Settings
