import AqlPipeline.Json.Parser
import AqlPipeline.Json.Printer
import AqlPipeline.Json.Record
import AqlPipeline.Settings.Basic

/-!
# The settings file

Settings are stored as a JSON record. Reading a settings file tells the line where it stopped.
-/

namespace AqlPipeline

open Json

/-- The fields of a settings file. -/
inductive SettingsField where
  | version
  | collection
  | defaultIterator
  | trackPathSpans
  | pretty
  deriving DecidableEq, Repr

instance : Json.Words SettingsField where
  all := [.version, .collection, .defaultIterator, .trackPathSpans, .pretty]
  word
    | .version => "version"
    | .collection => "collection"
    | .defaultIterator => "defaultIterator"
    | .trackPathSpans => "trackPathSpans"
    | .pretty => "pretty"

/-- The fields of a settings file that have been read. -/
structure SettingsDraft where
  /-- The version of the format. -/
  version : Option UInt32 := none
  /-- The collection, which may be none. -/
  collection : Option (Option String) := none
  /-- The iteration variable. -/
  defaultIterator : Option String := none
  /-- Whether the text of each path is recorded. -/
  trackPathSpans : Option Bool := none
  /-- Whether the text is broken into lines. -/
  pretty : Option Bool := none

namespace SettingsDraft

/-- Whether a field has been read. -/
def has (draft : SettingsDraft) : SettingsField → Bool
  | .version => draft.version.isSome
  | .collection => draft.collection.isSome
  | .defaultIterator => draft.defaultIterator.isSome
  | .trackPathSpans => draft.trackPathSpans.isSome
  | .pretty => draft.pretty.isSome

/-- Sets a field, if the value is of its type. -/
def set? (draft : SettingsDraft) (field : SettingsField) (value : Json) : Option SettingsDraft :=
  match field with
  | .version => value.uint32?.map fun version => { draft with version := some version }
  | .collection =>
    match value with
    | .null => some { draft with collection := some none }
    | value => value.string?.map fun name => { draft with collection := some (some name) }
  | .defaultIterator =>
    value.string?.map fun name => { draft with defaultIterator := some name }
  | .trackPathSpans => value.bool?.map fun flag => { draft with trackPathSpans := some flag }
  | .pretty => value.bool?.map fun flag => { draft with pretty := some flag }

/-- The settings, with defaults for all but the version. -/
def finish? (draft : SettingsDraft) : Option StoredSettings :=
  let initial : Settings := {}
  draft.version.map fun version =>
    { version
      settings :=
        { collection := draft.collection.getD initial.collection
          defaultIterator := draft.defaultIterator.getD initial.defaultIterator
          trackPathSpans := draft.trackPathSpans.getD initial.trackPathSpans
          pretty := draft.pretty.getD initial.pretty } }

end SettingsDraft

/-! ## Text -/

/-- Reads a value that is neither an array nor an object; reading stops in front of those. -/
def scanScalar (text : List Char) : Scanned Json :=
  match skipBlanks text with
  | '[' :: rest => .error ⟨'[' :: rest⟩
  | '\x7b' :: rest => .error ⟨'\x7b' :: rest⟩
  | text => scanValue 1 (.strict 0) text

/-- Reads the value of a field. -/
def scanField (draft : SettingsDraft) (field : SettingsField) (text : List Char) :
    Scanned SettingsDraft :=
  match scanScalar text with
  | .error stop => .error stop
  | .ok (value, rest) =>
    match draft.set? field value with
    | some draft => .ok (draft, rest)
    | none => .error ⟨rest⟩

/-- Reads the colon behind a name. -/
def scanColon (text : List Char) : Scanned Unit :=
  match skipBlanks text with
  | ':' :: rest => .ok ((), rest)
  | text => failAt text

/-- Reads a member of the settings record, behind the quote of its name. Names that are not those
of a field are skipped with their values. -/
def scanSetting (draft : SettingsDraft) (text : List Char) :
    Except Stop (SettingsDraft × List Char) := do
  let (name, text) ← scanString [] text
  match (Json.ofWord? name : Option SettingsField) with
  | some field =>
    if draft.has field then throw ⟨skipBlanks text⟩
    let (_, text) ← scanColon text
    scanField draft field text
  | none =>
    let (_, text) ← scanColon text
    let (_, text) ← scanValue (fuelFor text) .skim text
    return (draft, text)

/-- Reads the rest of the settings record. The fuel bounds the number of members. -/
def scanSettings : (fuel : Nat) → (isFirst : Bool) → SettingsDraft → (text : List Char) →
    Scanned SettingsDraft
  | 0, _, _, text => .error ⟨text⟩
  | fuel + 1, isFirst, draft, text =>
    match next '\x7d' isFirst text with
    | .error stop => .error stop
    | .ok (.close rest) => .ok (draft, rest)
    | .ok (.item ('\x22' :: text)) =>
      match scanSetting draft text with
      | .error stop => .error stop
      | .ok (draft, text) => scanSettings fuel false draft text
    | .ok (.item text) => failAt text

/-- Reads the closing bracket of an array whose items have all been read. -/
def scanArrayEnd (text : List Char) : Scanned Unit :=
  match skipBlanks text with
  | ']' :: rest => .ok ((), rest)
  | ',' :: rest => failAt (skipBlanks rest)
  | text => failAt text

/-- Reads the values of fields in order, of which those at the end may be missing. -/
def scanValues : (isFirst : Bool) → SettingsDraft → List SettingsField → (text : List Char) →
    Scanned SettingsDraft
  | _, draft, [], text => (scanArrayEnd text).map fun (_, rest) => (draft, rest)
  | isFirst, draft, field :: fields, text =>
    match next ']' isFirst text with
    | .error stop => .error stop
    | .ok (.close rest) => .ok (draft, rest)
    | .ok (.item text) =>
      match scanField draft field text with
      | .error stop => .error stop
      | .ok (draft, text) => scanValues false draft fields text

/-- Reads the settings record, as an object or as an array. -/
def scanRecord (text : List Char) : Scanned SettingsDraft :=
  match skipBlanks text with
  | '\x7b' :: text => scanSettings (fuelFor text) true {} text
  | '[' :: text => scanValues true {} Json.Words.all text
  | text =>
    match scanScalar text with
    | .error stop => .error stop
    | .ok (_, rest) => .error ⟨rest⟩

/-- Reads a whole settings text. -/
def scanWhole (text : List Char) : Except Stop StoredSettings := do
  let (draft, rest) ← scanRecord text
  match draft.finish? with
  | none => throw ⟨rest⟩
  | some stored =>
    expectEnd rest
    return stored

namespace StoredSettings

/-- Reads a settings file; an error is the line where reading stopped. -/
def ofText (text : String) : Except Nat StoredSettings :=
  match scanWhole text.toList with
  | .ok stored => .ok stored
  | .error stop => .error (lineAt text.toList stop.rest)

/-- Reads settings from a JSON value. -/
def ofJson? (json : Json) : Option StoredSettings := do
  let fields : List SettingsField := Json.Words.all
  let slots ← slots? (fields.map Json.Words.word) json
  let draft ← (fields.zip slots).foldlM (fun draft (field, slot) =>
    match slot with
    | some value => SettingsDraft.set? draft field value
    | none => some draft) {}
  draft.finish?

/-- The settings as a JSON record. A collection that is none is left out. -/
def encode (stored : StoredSettings) : Json :=
  .object ([("version", .integer stored.version.toNat)] ++
    (match stored.settings.collection with
      | some name => [("collection", .string name)]
      | none => []) ++
    [("defaultIterator", .string stored.settings.defaultIterator),
      ("trackPathSpans", .bool stored.settings.trackPathSpans),
      ("pretty", .bool stored.settings.pretty)])

/-- The text of a settings file. -/
def toText (stored : StoredSettings) : String :=
  stored.encode.pretty ++ "\n"

end StoredSettings

/-! ## Schema -/

/-- The schema of one field. -/
def schemaField (description : String) (default : Option Json) (type : Json) : Json :=
  .object ([("description", .string description)] ++
    (match default with
      | some value => [("default", value)]
      | none => []) ++
    [("type", type)])

/-- The schema of a settings file. -/
def settingsSchema : Json :=
  .object [
    ("$schema", .string "http://json-schema.org/draft-07/schema#"),
    ("title", .string "ParsedConfiguration"),
    ("description", .string "Compiler settings as stored in `configuration.json`."),
    ("type", .string "object"),
    ("required", .array [.string "version"]),
    ("properties", .object [
      ("version", .object [
        ("type", .string "integer"),
        ("format", .string "uint32"),
        ("minimum", .float (Double.ofMagnitude false 0))]),
      ("collection",
        schemaField
          ("The collection to iterate. When absent, the type name of the first lambda parameter " ++
            "is used.")
          none (.array [.string "string", .string "null"])),
      ("defaultIterator",
        schemaField "The iteration variable used when the pipeline never declares one."
          (some (.string "x")) (.string "string")),
      ("trackPathSpans",
        schemaField "Record, for every node of the tree, the span of query text it produced."
          (some (.bool false)) (.string "boolean")),
      ("pretty",
        schemaField "Break clauses over several indented lines."
          (some (.bool false)) (.string "boolean"))])]

/-- The text of the schema file. -/
def settingsSchemaText : String :=
  settingsSchema.pretty ++ "\n"

end AqlPipeline
