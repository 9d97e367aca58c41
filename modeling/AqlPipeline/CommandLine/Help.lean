import AqlPipeline.CommandLine.Arguments
import AqlPipeline.Text.Plain

/-!
# Help texts

Descriptions are not wrapped, however long their lines get. The names of options are in bold for
terminals, and what starts or ends the bold face also ends any control sequence that was left open
before. What is printed is the plain text.
-/

namespace AqlPipeline.CommandLine

/-- The name of the environment variable for the directory of the settings. -/
def environmentName : String := "AQL_COMPILER_CONFIGURATION"

/-- The version of the program. -/
def versionText : String := "aql-compile 0.1.0\n"

/-- A text with its lines, but for the first one, indented by some spaces. -/
def hanging (spaces : Nat) (text : String) : String :=
  String.ofList <| text.toList.flatMap fun char =>
    if char == '\n' then '\n' :: List.replicate spaces ' ' else [char]

/-- The column in which the options of the command that writes a query are described. -/
def optionColumn : Nat := 29

/-- A text in bold. -/
def bold (text : String) : String :=
  "\x1b[1m" ++ text ++ "\x1b[0m"

/-- The line about the option for help, with some spaces in front of the description. -/
def helpOption (spaces : Nat) : String :=
  "  " ++ bold "-h" ++ ", " ++ bold "--help" ++ String.ofList (List.replicate spaces ' ') ++
    "Print help\n"

/-- The help on a topic, for terminals; `environment` is the value of the environment variable. -/
def terminalHelp (environment : Option String) : Topic → String
  | .all =>
    "Usage: aql-compile <COMMAND>\n\n" ++
    "Commands:\n" ++
    "  compile     Compile a tree and print the query, its bind variables and any diagnostics " ++
    "as JSON\n" ++
    "  initialize  Write a default configuration, and its JSON schema, into a directory\n" ++
    "  schema      Print the JSON schema of the configuration file\n" ++
    "  help        Print this message or the help of the given subcommand(s)\n\n" ++
    "Options:\n" ++
    helpOption 5 ++
    "  " ++ bold "-V" ++ ", " ++ bold "--version" ++ "  Print version\n"
  | .compile =>
    "Compile a tree and print the query, its bind variables and any diagnostics as JSON\n\n" ++
    "Usage: aql-compile compile [OPTIONS] <TREE>\n\n" ++
    "Arguments:\n" ++
    "  <TREE>  A JSON file holding the expression tree\n\n" ++
    "Options:\n" ++
    "      " ++ bold "--configuration" ++
    " <DIR>  A directory containing `configuration.json` [env: " ++
    environmentName ++ "=" ++ hanging optionColumn (environment.getD "") ++ "]\n" ++
    "      " ++ bold "--spans" ++
    "                Report the span of query text each node produced\n" ++
    "      " ++ bold "--pretty" ++ "               Spread clauses over indented lines\n" ++
    helpOption 17
  | .writeDefaults =>
    "Write a default configuration, and its JSON schema, into a directory\n\n" ++
    "Usage: aql-compile initialize <DIR>\n\n" ++
    "Arguments:\n" ++
    "  <DIR>  \n\n" ++
    "Options:\n" ++
    helpOption 2
  | .schema =>
    "Print the JSON schema of the configuration file\n\n" ++
    "Usage: aql-compile schema\n\n" ++
    "Options:\n" ++
    helpOption 2
  | .help =>
    "Print this message or the help of the given subcommand(s)\n\n" ++
    "Usage: aql-compile help [COMMAND]...\n\n" ++
    "Arguments:\n" ++
    "  [COMMAND]...  Print help for the subcommand(s)\n"

/-- The help on a topic. -/
def helpText (environment : Option String) (topic : Topic) : String :=
  Text.plain (terminalHelp environment topic)

end AqlPipeline.CommandLine
