/-!
# Arguments of the command line
-/

namespace AqlPipeline.CommandLine

/-- What help is about. -/
inductive Topic where
  | all
  | compile
  | writeDefaults
  | schema
  | help
  deriving DecidableEq, Repr

/-- What the program is asked to do. -/
inductive Command where
  /-- Writes the query of a pipeline that is stored in a file. -/
  | compile (tree : String) (directory : Option String) (spans pretty : Bool)
  /-- Writes settings into a directory. -/
  | writeDefaults (directory : String)
  /-- Prints the schema of the settings. -/
  | schema
  /-- Prints help. -/
  | help (topic : Topic)
  /-- Prints the version. -/
  | version
  deriving DecidableEq, Repr

/-- The arguments behind the name of a command. -/
structure Arguments where
  /-- The arguments that are no options, in order. -/
  values : List String := []
  /-- The directory of the settings. -/
  directory : Option String := none
  /-- Whether spans are asked for. -/
  spans : Bool := false
  /-- Whether pretty text is asked for. -/
  pretty : Bool := false

/-- What a command takes. -/
structure Shape where
  /-- The command, as a topic of help. -/
  topic : Topic
  /-- How many arguments that are no options. -/
  values : Nat
  /-- Whether there are options besides help. -/
  hasOptions : Bool

/-- Whether an argument reads as an option. A single dash does not. -/
def isOption (argument : String) : Bool :=
  argument.startsWith "-" && argument != "-"

/-- What introduces a value behind the name of the option for settings. -/
def directoryEquals : String := "--configuration="

/-- Adds an argument that is no option; it must not be empty. -/
def Arguments.addValue? (shape : Shape) (found : Arguments) (value : String) : Option Arguments :=
  if value != "" && found.values.length < shape.values then
    some { found with values := found.values ++ [value] }
  else none

/-- Sets the directory of the settings, once; it must not be empty. -/
def Arguments.setDirectory? (shape : Shape) (found : Arguments) (value : String) :
    Option Arguments :=
  if shape.hasOptions && found.directory.isNone && value != "" then
    some { found with directory := some value }
  else none

/-- Switches an option on, once. -/
def Arguments.switch? (shape : Shape) (found : Arguments) : (option : String) → Option Arguments
  | "--spans" =>
    if shape.hasOptions && !found.spans then some { found with spans := true } else none
  | "--pretty" =>
    if shape.hasOptions && !found.pretty then some { found with pretty := true } else none
  | _ => none

/-- Reads arguments one after the other. The first mistake, or request for help, decides. Behind two
dashes there are no options. -/
def scan (shape : Shape) (finish : Arguments → Option Command) :
    (found : Arguments) → (plain : Bool) → List String → Option Command
  | found, _, [] => finish found
  | found, true, value :: rest => do scan shape finish (← found.addValue? shape value) true rest
  | found, false, "--" :: rest => scan shape finish found true rest
  | _, false, "--help" :: _ => some (.help shape.topic)
  | found, false, "--configuration" :: value :: rest => do
    if isOption value then none
    else scan shape finish (← found.setDirectory? shape value) false rest
  | found, false, argument :: rest => do
    if argument.startsWith directoryEquals then
      let value := (argument.drop directoryEquals.length).toString
      scan shape finish (← found.setDirectory? shape value) false rest
    else if argument.startsWith "-h" then some (.help shape.topic)
    else if isOption argument then scan shape finish (← found.switch? shape argument) false rest
    else scan shape finish (← found.addValue? shape argument) false rest

/-- Finishes the command that writes a query. The directory of the settings may also come from the
environment. -/
def finishCompile (environment : Option String) (found : Arguments) : Option Command :=
  match found.values, found.directory.or environment with
  | [_], some "" => none
  | [tree], directory => some (.compile tree directory found.spans found.pretty)
  | _, _ => none

/-- Finishes the command that writes settings. -/
def finishWriteDefaults (found : Arguments) : Option Command :=
  match found.values with
  | [directory] => some (.writeDefaults directory)
  | _ => none

/-- Reads what help is wanted about. -/
def helpTopic? : List String → Option Topic
  | [] => some .all
  | ["compile"] => some .compile
  | ["initialize"] => some .writeDefaults
  | ["schema"] => some .schema
  | ["help"] => some .help
  | _ => none

/-- Reads the arguments of the program; `environment` is the directory of the settings that the
environment names. -/
def Command.ofArguments? (environment : Option String) : List String → Option Command
  | [] => none
  | "compile" :: rest => scan ⟨.compile, 1, true⟩ (finishCompile environment) {} false rest
  | "initialize" :: rest => scan ⟨.writeDefaults, 1, false⟩ finishWriteDefaults {} false rest
  | "schema" :: rest => scan ⟨.schema, 0, false⟩ (fun _ => some .schema) {} false rest
  | "help" :: rest => (helpTopic? rest).map .help
  | "--version" :: _ => some .version
  | "--help" :: _ => some (.help .all)
  | argument :: _ =>
    if argument.startsWith "-h" then some (.help .all)
    else if argument.startsWith "-V" then some .version
    else none

end AqlPipeline.CommandLine
