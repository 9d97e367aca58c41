import AqlPipeline.Text.Blank

/-!
# Settings

What the user decides about a query: as it is used, and as it is stored.
-/

namespace AqlPipeline

/-- The settings of a query. -/
structure Settings where
  /-- The collection to iterate over; without one, the type of the first parameter names it. -/
  collection : Option String := none
  /-- The iteration variable of a pipeline that does not declare one. -/
  defaultIterator : String := "x"
  /-- Whether the text of each path is recorded. -/
  trackPathSpans : Bool := false
  /-- Whether the text is broken into indented lines. -/
  pretty : Bool := false
  deriving DecidableEq, Repr

/-- Settings as they are stored, with the version of their format. -/
structure StoredSettings where
  /-- The version of the format. -/
  version : UInt32
  /-- The settings, not yet checked. -/
  settings : Settings
  deriving DecidableEq, Repr

/-- Why stored settings cannot be used. -/
inductive SettingsFault where
  /-- The name of the iteration variable is no identifier. -/
  | invalidIterator (name : String)
  /-- The name of the collection is blank. -/
  | emptyCollection
  deriving DecidableEq, Repr

/-- The fault in words. -/
def SettingsFault.message : SettingsFault → String
  | .invalidIterator name =>
    "invalid default iterator name '" ++ name ++ "': expected an identifier"
  | .emptyCollection => "the configured collection name must not be empty"

/-- Whether a text is an identifier: ASCII letters, digits and underscores, not starting with a
digit. -/
def isIdentifier (name : String) : Bool :=
  match name.toList with
  | [] => false
  | first :: rest =>
    (first.isAlpha || first == '_') && rest.all fun char => char.isAlphanum || char == '_'

namespace StoredSettings

/-- The version of the format that is in use. -/
def currentVersion : UInt32 := 1

/-- The settings that a new settings file has. -/
def initial : StoredSettings := ⟨currentVersion, {}⟩

/-- The settings to be used, if they make sense. -/
def check (stored : StoredSettings) : Except SettingsFault Settings :=
  if !isIdentifier stored.settings.defaultIterator then
    .error (.invalidIterator stored.settings.defaultIterator)
  else if stored.settings.collection.any Text.isAllBlank then .error .emptyCollection
  else .ok stored.settings

end StoredSettings

end AqlPipeline
