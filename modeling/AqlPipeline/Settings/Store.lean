import AqlPipeline.FileSystem
import AqlPipeline.Settings.Codec

/-!
# Settings in a directory
-/

namespace AqlPipeline

/-- Why settings cannot be loaded. -/
inductive LoadError where
  /-- The file cannot be read. -/
  | unreadable (file : String) (fault : FileFault)
  /-- The file does not hold settings; reading stopped in a line. -/
  | malformed (file : String) (line : Nat)
  /-- The file has another version of the format. -/
  | unsupportedVersion (file : String) (found : UInt32)
  deriving DecidableEq, Repr

/-- The error in words. -/
def LoadError.message : LoadError → String
  | .unreadable file fault => "I/O error: " ++ file ++ ": " ++ fault.message
  | .malformed file line => "parse error on " ++ file ++ ":" ++ toString line
  | .unsupportedVersion file found =>
    "unsupported configuration version " ++ toString found ++ " in " ++ file ++ ", expected " ++
      toString StoredSettings.currentVersion

namespace StoredSettings

/-- The name of a settings file. -/
def fileName : String := "configuration.json"

/-- The name of the file with the schema. -/
def schemaFileName : String := "schema.json"

/-- Takes settings from the text of a file. -/
def ofFile (file text : String) : Except LoadError StoredSettings :=
  match ofText text with
  | .error line => .error (.malformed file line)
  | .ok stored =>
    if stored.version = currentVersion then .ok stored
    else .error (.unsupportedVersion file stored.version)

section

variable {m : Type → Type} [Monad m]

/-- Loads the settings of a directory. -/
def load (files : FileSystem m) (directory : String) : m (Except LoadError StoredSettings) := do
  let file := joinPath directory fileName
  match ← files.read file with
  | .error fault => return .error (.unreadable file fault)
  | .ok text => return ofFile file text

/-- Writes settings and their schema into a directory. -/
def store (files : FileSystem m) (stored : StoredSettings) (directory : String) :
    m (Except FileFault Unit) := do
  match ← files.makeDirectories directory with
  | .error fault => return .error fault
  | .ok () =>
    match ← files.write (joinPath directory fileName) stored.toText with
    | .error fault => return .error fault
    | .ok () => files.write (joinPath directory schemaFileName) settingsSchemaText

end

end StoredSettings

end AqlPipeline
