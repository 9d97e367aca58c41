import AqlPipeline.CommandLine.Help
import AqlPipeline.Expr.Decode
import AqlPipeline.Query
import AqlPipeline.Settings.Store

/-!
# Running a command
-/

namespace AqlPipeline

/-- A part of a text as JSON. -/
def Span.encode (span : Span) : Json :=
  .object [("offset", .integer span.offset), ("length", .integer span.length)]

/-- A query as JSON. What is empty or was not asked for is left out. -/
def Query.encode (query : Query) : Json :=
  .object ([("query", .string query.text), ("bindVars", .object query.binds)] ++
    (match query.spans with
      | none => []
      | some spans =>
        [("pathSpans", .object (spans.map fun (path, span) => (path, span.encode)))]) ++
    (if query.gaps.isEmpty then []
      else
        [("unsupported", .array (query.gaps.map fun gap =>
          .object [("path", .string gap.path), ("message", .string gap.message)]))]) ++
    match query.projectionType with
    | none => []
    | some name => [("projectionType", .string name)])

namespace CommandLine

/-- How the program ends. -/
inductive Ending where
  /-- It prints a text. -/
  | printed (text : String)
  /-- It fails, with a message. -/
  | failed (message : String)
  /-- It has not been asked for anything it can do. -/
  | misused
  /-- It crashes. -/
  | crashed
  deriving DecidableEq, Repr

/-- The exit status of the program. -/
def Ending.status : Ending → Nat
  | .printed _ => 0
  | .failed _ => 1
  | .misused => 2
  | .crashed => 101

/-- The text that the program prints. -/
def Ending.output : Ending → String
  | .printed text => text
  | _ => ""

/-- The first line of a report of a failure. -/
def Ending.report? : Ending → Option String
  | .failed message =>
    some ("Error: " ++ String.ofList (message.toList.takeWhile (· != '\n')))
  | _ => none

/-- Writes the query of the pipeline in the text of a file. -/
def compileText (settings : Settings) (file text : String) : Ending :=
  match Expr.ofText? text with
  | none => .failed ("parsing the expression tree in " ++ file)
  | some expr =>
    match Query.compile .aql settings expr with
    | .ok query => .printed (query.encode.pretty ++ "\n")
    | .error (.refused error) => .failed error.message
    | .error .crashed => .crashed

section

variable {m : Type → Type} [Monad m] (files : FileSystem m)

/-- The settings of a directory, or the usual ones without a directory. An error is a message. -/
def loadSettings : Option String → m (Except String Settings)
  | none => return .ok {}
  | some directory => do
    match ← StoredSettings.load files directory with
    | .error error => return .error error.message
    | .ok stored =>
      match stored.check with
      | .error fault => return .error fault.message
      | .ok settings => return .ok settings

/-- Writes the query of the pipeline in a file. Options are switched on in addition to the
settings. -/
def compileFile (tree : String) (directory : Option String) (spans pretty : Bool) : m Ending := do
  match ← loadSettings files directory with
  | .error message => return .failed message
  | .ok settings =>
    let settings :=
      { settings with
        trackPathSpans := settings.trackPathSpans || spans
        pretty := settings.pretty || pretty }
    match ← files.read tree with
    | .error _ => return .failed ("reading " ++ tree)
    | .ok text => return compileText settings tree text

/-- Does what the arguments ask for; `environment` is the value of the environment variable. -/
def run (environment : Option String) (arguments : List String) : m Ending := do
  match Command.ofArguments? environment arguments with
  | none => return .misused
  | some (.compile tree directory spans pretty) => compileFile files tree directory spans pretty
  | some (.writeDefaults directory) =>
    match ← StoredSettings.initial.store files directory with
    | .error fault => return .failed ("I/O error: " ++ fault.message)
    | .ok () => return .printed ""
  | some .schema => return .printed settingsSchemaText
  | some (.help topic) => return .printed (helpText environment topic)
  | some .version => return .printed versionText

end

end CommandLine

end AqlPipeline
