import PluginWrapper.Config.Setting
import PluginWrapper.Log.Format
import PluginWrapper.OptionTable

/-!
The configuration that settings describe, read up to the first fault. What is not set has its
default, and settings that are not understood do not matter.
-/

namespace PluginWrapper

/-- What a reader of settings asks for. -/
inductive Requirement where
  | text
  | table
  | logging
  | format
  | nonemptyTable
  | unit
  | configuration
  deriving DecidableEq

/-- What is wrong with a setting. -/
inductive Problem where
  | wrongKind (found : Setting) (required : Requirement)
  | unknownFormat (name : String)

/-- A setting that cannot be read: where it was made, its path, and what is wrong. -/
structure Fault where
  origin : Origin
  path : List String
  problem : Problem

def Requirement.phrase : Requirement → String
  | .text => "a string"
  | .table => "a map"
  | .logging => "struct LoggingConfig"
  | .format => "enum LogFormat"
  | .nonemptyTable => "enum"
  | .unit => "unit"
  | .configuration => "struct GeneratorConfig"

def Problem.message : Problem → String
  | .wrongKind found required =>
    "invalid type: found " ++ found.described ++ ", expected " ++ required.phrase
  | .unknownFormat name => "unknown variant: found `" ++ name ++ "`, expected ``json` or `pretty``"

/-- A key as it is written where the setting was made. -/
def Fault.key (f : Fault) : String :=
  match f.origin with
  | .file _ => ".".intercalate ("default" :: f.path)
  | .environment => String.ofList (Text.upperAscii (".".intercalate f.path).toList)

def Origin.text : Origin → String
  | .file path => path ++ " TOML file"
  | .environment => "`CUBEGEN__` environment variable(s)"

def Fault.message (f : Fault) : String :=
  f.problem.message ++ " for key " ++ Text.quoted f.key ++ " in " ++ f.origin.text

namespace Setting

def mismatch (s : Setting) (path : List String) (required : Requirement) : Fault :=
  ⟨s.origin, path, .wrongKind s required⟩

def asText (path : List String) : Setting → Except Fault String
  | .scalar _ (.text s) => .ok s
  | .scalar _ (.char c) => .ok c.toString
  | s => .error (s.mismatch path .text)

/-- A name of a format, or a table whose first key is one and has nothing as its value. -/
def asFormat (path : List String) : Setting → Except Fault LogFormat
  | .scalar o (.text name) =>
    match LogFormat.ofText? name with
    | some format => .ok format
    | none => .error ⟨o, path, .unknownFormat name⟩
  | .table o [] => .error (mismatch (.table o []) path .nonemptyTable)
  | .table _ ((name, v) :: _) =>
    match LogFormat.ofText? name, v with
    | none, v => .error ⟨v.origin, path ++ [name], .unknownFormat name⟩
    | some format, .scalar _ .nothing => .ok format
    | some _, v => .error (v.mismatch (path ++ [name]) .unit)
  | s => .error (s.mismatch path .format)

def asOptions (path : List String) : Setting → Except Fault OptionTable
  | .table _ entries => do
    pure (.ofList (← entries.mapM fun (key, v) => do pure (key, ← v.asText (path ++ [key]))))
  | s => .error (s.mismatch path .table)

end Setting

/-- How the log is written. The level is a text that need not name one. -/
structure LoggingDraft where
  level : String
  format : LogFormat

namespace LoggingDraft

def default : LoggingDraft := ⟨"info", .pretty⟩

def readEntry (path : List String) (d : LoggingDraft) (key : String) (v : Setting) :
    Except Fault LoggingDraft := do
  if key = "level" then pure { d with level := ← v.asText (path ++ [key]) }
  else if key = "format" then pure { d with format := ← v.asFormat (path ++ [key]) }
  else pure d

/-- The settings of the log by name, or by position: the level, then the format. -/
def ofSetting (path : List String) : Setting → Except Fault LoggingDraft
  | .table _ entries => entries.foldlM (fun d (key, v) => readEntry path d key v) default
  | .list _ [] => .ok default
  | .list _ [level] => do pure { default with level := ← level.asText (path ++ ["0"]) }
  | .list _ (level :: format :: _) => do
    pure ⟨← level.asText (path ++ ["0"]), ← format.asFormat (path ++ ["1"])⟩
  | s => .error (s.mismatch path .logging)

end LoggingDraft

/-- A configuration whose log level has not been checked. -/
structure ConfigDraft where
  logging : LoggingDraft
  options : OptionTable

namespace ConfigDraft

def default : ConfigDraft := ⟨.default, .empty⟩

def readEntry (d : ConfigDraft) (key : String) (v : Setting) : Except Fault ConfigDraft := do
  if key = "logging" then pure { d with logging := ← LoggingDraft.ofSetting [key] v }
  else if key = "options" then pure { d with options := ← v.asOptions [key] }
  else pure d

def ofSetting : Setting → Except Fault ConfigDraft
  | .table _ entries => entries.foldlM (fun d (key, v) => readEntry d key v) default
  | s => .error (s.mismatch [] .configuration)

end ConfigDraft

end PluginWrapper
