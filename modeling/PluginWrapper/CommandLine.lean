import PluginWrapper.CommandLine.Arguments
import PluginWrapper.CommandLine.Colour
import PluginWrapper.CommandLine.Failure
import PluginWrapper.Json
import PluginWrapper.Log.Filter
import PluginWrapper.Sink.Directory

/-!
Runs of the command line. A run reads the configuration and the manifest and then either prints the
descriptors of the declarations or writes their artifacts. It touches no file before both are read.
-/

namespace PluginWrapper

/-- What a run leaves behind. -/
structure Completion where
  exit : Nat
  stdout : String
  stderr : String
  log : List LogEntry
  tree : FileTree

namespace CommandLine

def versionText : String := "cubegen 0.3.0\n"

/-- Colours are used when they are forced. What is printed goes to no terminal here. -/
def usesColours (env : Environment) : Bool :=
  match env.lookup "CLICOLOR_FORCE" with
  | some value => value != "0"
  | none => false

def isSet (env : Environment) (name : String) : Bool :=
  (env.lookup name).any (!·.isEmpty)

/-- What the command line writes about itself. Its parts stand out when that is asked for by any
text, be it a zero, and not refused by any. -/
def written (env : Environment) (s : String) : String :=
  if isSet env "CLICOLOR_FORCE" && !isSet env "NO_COLOR" then s else Emphasis.plain s

/-- A well-formed filter of the environment replaces the configured level. -/
def filter (env : Environment) (config : Config) : LogFilter :=
  ((env.lookup "RUST_LOG").bind LogFilter.ofText?).getD (.upTo config.level)

def format (env : Environment) (config : Config) : LogFormat :=
  ((env.lookup "LOG_FORMAT").bind LogFormat.ofVariable?).getD config.format

/-- The log of the events that pass the filter. It has colours unless they are refused. -/
def log (env : Environment) (config : Config) (events : List Event) : List LogEntry :=
  ((events.map Event.record).filter (filter env config).admits).map
    ((format env config).entry (!isSet env "NO_COLOR"))

def openingEvents (inputs : Inputs) (config : Config) : List Event :=
  .configurationLoaded inputs.config config.options.size config.level ::
    config.options.unsupportedKeys.map .unrecognizedOption

def descriptors (options : OptionTable) (m : Manifest) : List Descriptor :=
  m.declarations.map fun d => Descriptor.resolve d options

def descriptorText (options : OptionTable) (m : Manifest) : String :=
  Json.render .indented 0 (.seq ((descriptors options m).map Descriptor.toValue)) ++ "\n"

def reportText (colours : Bool) (out : String) (report : Report) : String :=
  let mark := Colour.green.paint colours "✓"
  let artifactLine (a : Artifact) :=
    mark ++ " " ++ a.source ++ " (" ++ Colour.cyan.paint colours a.pluginId ++ ")\n"
  if report.isEmpty then
    Colour.yellow.paint colours "No module or core declarations found" ++ "\n"
  else
    String.join (report.artifacts.map artifactLine) ++ "\n" ++ mark ++ " Generated " ++
      toString report.artifacts.length ++ " plugin wrapper(s) in " ++ out ++ "\n"

/-- What is done once everything has loaded: its printed text, its events and the files after it. -/
abbrev Work := Config → Manifest → Except Failure String × List Event × FileTree

def describe (tree : FileTree) : Work := fun config m =>
  (.ok (descriptorText config.options m), [], tree)

def generate (env : Environment) (tree : FileTree) (out : String) : Work := fun config m =>
  let outcome := Round.process (Directory.sink out.toList) config.options m.discovery tree
  let printed := match outcome.result with
    | .ok report => .ok (reportText (usesColours env) out report)
    | .error e => .error (.generation out e)
  (printed, outcome.events, outcome.state)

def failed (f : Failure) (log : List LogEntry) (tree : FileTree) : Completion :=
  ⟨1, "", f.text ++ "\n", log, tree⟩

def withInputs (env : Environment) (tree : FileTree) (inputs : Inputs) (work : Work) :
    Completion :=
  match Config.load tree env inputs.config with
  | .error e => failed (.configuration e) [] tree
  | .ok loaded =>
    let config := loaded.withOptions inputs.options
    let opening := openingEvents inputs config
    match Manifest.load tree inputs.manifest with
    | .error e => failed (.manifest e) (log env config opening) tree
    | .ok m =>
      let (printed, events, after) := work config m
      let entries := log env config (opening ++ events)
      match printed with
      | .error f => failed f entries after
      | .ok text => ⟨0, text, "", entries, after⟩

def run (arguments : List String) (env : Environment) (tree : FileTree) : Completion :=
  match Arguments.parse arguments with
  | .error e => ⟨2, "", written env e.text, [], tree⟩
  | .ok (.help topic) => ⟨0, written env topic.text, "", [], tree⟩
  | .ok .version => ⟨0, versionText, "", [], tree⟩
  | .ok (.describe inputs) => withInputs env tree inputs (describe tree)
  | .ok (.generate inputs out) => withInputs env tree inputs (generate env tree out)

end CommandLine

end PluginWrapper
