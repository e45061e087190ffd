import PluginWrapper.Config.Draft
import PluginWrapper.Config.Variable
import PluginWrapper.FileTree
import PluginWrapper.Toml

/-!
The configuration of a run. It is laid together from a configuration file and the environment, which
goes over the file; options that are given directly go over both.
-/

namespace PluginWrapper

structure Config where
  level : Level
  format : LogFormat
  options : OptionTable

namespace Config

/-- The configuration file when none is named. It may be missing. -/
def defaultFile : String := "cubegen.toml"

/-- Why there is no configuration. -/
inductive Error where
  | fileNotFound (path : String)
  | unreadable (path : String) (cause : IoError)
  | malformed (path : String)
  | fault (f : Fault)
  | invalidLevel (name : String)

def Error.message : Error → String
  | .fileNotFound path => "Configuration file not found: " ++ path
  | .unreadable path cause =>
    "Failed to load configuration: " ++ cause.message ++ " in " ++ (Origin.file path).text
  | .malformed path =>
    "Failed to load configuration: malformed document in " ++ (Origin.file path).text
  | .fault f => "Failed to load configuration: " ++ f.message
  | .invalidLevel name =>
    "Invalid configuration: Invalid log level '" ++ name ++ "', must be one of: " ++
      ", ".intercalate (Level.all.map Level.text)

/-- Where a configuration file is looked for: a relative path leads there from the working directory
or from one above it. -/
def candidates (here : Location) (path : String) : List (List Char) :=
  if Path.isAbsolute path.toList then [path.toList]
  else (List.range (here.length + 1)).reverse.map fun n =>
    Path.push (Location.path (here.take n)) path.toList

/-- A path from the root as errors show it: by the way from the working directory, if that has fewer
names than the path has with its root. -/
def shownPath (here : Location) (path : List Char) : List Char :=
  let names := (Path.names path).filter (!Path.isIdle ·)
  let way := Path.way (here.map String.toList) names
  if way.length ≤ names.length then Text.join '/' way else path

/-- The settings of a configuration file. Where only a directory is found there are none. -/
def fileLayer (tree : FileTree) (path : String) : Except Error Setting :=
  match (candidates tree.workingDirectory path).find? tree.isFile with
  | none => .ok (.table .environment [])
  | some found =>
    let shown := String.ofList (shownPath tree.workingDirectory found)
    match tree.readFile found with
    | .error e => .error (.unreadable shown e)
    | .ok text =>
      match Toml.read? text with
      | some fields =>
        if Setting.isReadable fields then .ok (Setting.ofDocument (.file shown) fields)
        else .error (.malformed shown)
      | none => .error (.malformed shown)

/-- The settings below those of the environment. A file that is named has to exist. -/
def baseLayer (tree : FileTree) : Option String → Except Error Setting
  | some path =>
    if tree.hasPath path.toList then fileLayer tree path else .error (.fileNotFound path)
  | none =>
    if tree.hasPath defaultFile.toList then fileLayer tree defaultFile
    else .ok (.table .environment [])

def checkLevel (name : String) : Except Error Level :=
  match Level.ofText? name with
  | some level => .ok level
  | none => .error (.invalidLevel name)

def load (tree : FileTree) (env : Environment) (path : Option String) : Except Error Config := do
  let base ← baseLayer tree path
  let draft ← (ConfigDraft.ofSetting (base.overlay env.layer)).mapError .fault
  let level ← checkLevel draft.logging.level
  pure ⟨level, draft.logging.format, draft.options.insertAll env.options⟩

def withOptions (c : Config) (entries : List (String × String)) : Config :=
  { c with options := c.options.insertAll entries }

end Config

end PluginWrapper
