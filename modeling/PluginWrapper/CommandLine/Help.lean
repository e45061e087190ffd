import PluginWrapper.CommandLine.Emphasis

/-!
The help texts of the command line, with the parts that stand out marked.
-/

namespace PluginWrapper

/-- What help can be asked for. -/
inductive HelpTopic where
  | program
  | generate
  | describe
  | help
  deriving DecidableEq

namespace HelpTopic
open Emphasis

def aboutGenerate : String :=
  "Write plugin wrapper sources and language stubs for every declaration"

def aboutDescribe : String :=
  "Print the resolved plugin descriptors as JSON without writing anything"

def aboutHelp : String :=
  "Print this message or the help of the given subcommand(s)"

/-- The options that both commands take, up to the one that sets a processor option. -/
def inputOptions : List String :=
  ["      " ++ mark .literal "--manifest" ++
      " <MANIFEST>  Declaration manifest (TOML with [[module]] and [[core]] entries)",
    "      " ++ mark .literal "--config" ++
      " <CONFIG>      Configuration file (default: ./cubegen.toml if present)",
    "  " ++ mark .literal "-A" ++
      " <KEY=VALUE>             Processor option, e.g. -A cubeengine.module.version=1.0"]

def helpOption : String :=
  mark .literal "-h" ++ ", " ++ mark .literal "--help"

def lines : HelpTopic → List String
  | .program =>
    ["Generates Sponge plugin wrappers for CubeEngine modules", "",
      mark .heading "Usage:" ++ " " ++ mark .literal "cubegen" ++ " <COMMAND>", "",
      mark .heading "Commands:",
      "  " ++ mark .literal "generate" ++ "  " ++ aboutGenerate,
      "  " ++ mark .literal "describe" ++ "  " ++ aboutDescribe,
      "  " ++ mark .literal "help" ++ "      " ++ aboutHelp, "",
      mark .heading "Options:",
      "  " ++ helpOption ++ "     Print help",
      "  " ++ mark .literal "-V" ++ ", " ++ mark .literal "--version" ++ "  Print version"]
  | .generate =>
    [aboutGenerate, "",
      mark .heading "Usage:" ++ " " ++ mark .literal "cubegen generate" ++ " [OPTIONS] " ++
        mark .literal "--manifest" ++ " <MANIFEST> " ++ mark .literal "--out" ++ " <OUT>", "",
      mark .heading "Options:"] ++ inputOptions ++
    ["      " ++ mark .literal "--out" ++
        " <OUT>            Output root for generated sources and resources",
      "  " ++ helpOption ++ "                 Print help"]
  | .describe =>
    [aboutDescribe, "",
      mark .heading "Usage:" ++ " " ++ mark .literal "cubegen describe" ++ " [OPTIONS] " ++
        mark .literal "--manifest" ++ " <MANIFEST>", "",
      mark .heading "Options:"] ++ inputOptions ++
    ["  " ++ helpOption ++ "                 Print help"]
  | .help =>
    [aboutHelp, "",
      mark .heading "Usage:" ++ " " ++ mark .literal "cubegen help" ++ " [COMMAND]...", "",
      mark .heading "Arguments:",
      "  [COMMAND]...  Print help for the subcommand(s)"]

def text (topic : HelpTopic) : String :=
  String.join (topic.lines.map (· ++ "\n"))

end HelpTopic

end PluginWrapper
