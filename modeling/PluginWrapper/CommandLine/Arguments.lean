import PluginWrapper.CommandLine.Help
import PluginWrapper.CommandLine.OptionFlag

/-!
The arguments of the command line. An option is settled when the next one or the end is reached, so
an argument that is not understood is reported before a fault of the option in front of it.
-/

namespace PluginWrapper

inductive Action where
  | generate
  | describe
  deriving DecidableEq

/-- The options that take a value. -/
inductive Parameter where
  | manifest
  | config
  | define
  | out
  deriving DecidableEq

namespace Parameter

def longName? : Parameter → Option String
  | .manifest => some "manifest"
  | .config => some "config"
  | .define => none
  | .out => some "out"

def shortName? : Parameter → Option Char
  | .define => some 'A'
  | _ => none

def usage : Parameter → String
  | .manifest => "--manifest <MANIFEST>"
  | .config => "--config <CONFIG>"
  | .define => "-A <KEY=VALUE>"
  | .out => "--out <OUT>"

end Parameter

namespace Action

def text : Action → String
  | .generate => "generate"
  | .describe => "describe"

def all : List Action := [.generate, .describe]

def ofText? (s : String) : Option Action :=
  all.find? (·.text == s)

def topic : Action → HelpTopic
  | .generate => .generate
  | .describe => .describe

def parameters : Action → List Parameter
  | .generate => [.manifest, .config, .define, .out]
  | .describe => [.manifest, .config, .define]

def required : Action → List Parameter
  | .generate => [.manifest, .out]
  | .describe => [.manifest]

end Action

/-- What both actions work on. -/
structure Inputs where
  manifest : String
  config : Option String
  options : List (String × String)
  deriving DecidableEq

/-- What the command line asks for. -/
inductive Request where
  | help (topic : HelpTopic)
  | version
  | generate (inputs : Inputs) (out : String)
  | describe (inputs : Inputs)
  deriving DecidableEq

inductive UsageError where
  | noCommand
  | unknownCommand (name : String)
  | unexpectedArgument (argument : String)
  | unexpectedValue (value flag : String)
  | missingValue (parameter : Parameter)
  | repeated (parameter : Parameter)
  | invalidOption (raw : String) (cause : OptionFlag.Error)
  | missingArguments (parameters : List Parameter)
  deriving DecidableEq

namespace UsageError
open Emphasis

def complaint : UsageError → String
  | .noCommand => ""
  | .unknownCommand name => "unrecognized subcommand '" ++ mark .given name ++ "'"
  | .unexpectedArgument argument => "unexpected argument '" ++ mark .given argument ++ "' found"
  | .unexpectedValue value flag =>
    "unexpected value '" ++ mark .given value ++ "' for '" ++ mark .literal flag ++
      "' found; no more were expected"
  | .missingValue p =>
    "a value is required for '" ++ mark .given p.usage ++ "' but none was supplied"
  | .repeated p => "the argument '" ++ mark .given p.usage ++ "' cannot be used multiple times"
  | .invalidOption raw cause =>
    "invalid value '" ++ mark .given raw ++ "' for '" ++ mark .literal Parameter.define.usage ++
      "': " ++ cause.message
  | .missingArguments ps =>
    "the following required arguments were not provided:" ++
      String.join (ps.map fun p => "\n  " ++ mark .wanted p.usage)

/-- The error with the parts that stand out marked. Without a command the help is shown; any other
error ends with a hint at it. -/
def text : UsageError → String
  | .noCommand => HelpTopic.program.text
  | e =>
    mark .fault "error:" ++ " " ++ e.complaint ++ "\n\nFor more information, try '" ++
      mark .literal "--help" ++ "'.\n"

end UsageError

/-- The shapes of an argument. -/
inductive Argument where
  /-- Two dashes end the options. -/
  | escape
  | long (name : String) (value : Option String)
  /-- Short options behind one dash. -/
  | cluster (first : Char) (rest : List Char)
  | plain (text : String)

def Argument.ofText (s : String) : Argument :=
  match s.toList with
  | ['-', '-'] => .escape
  | '-' :: '-' :: body =>
    match Text.cut? '=' body with
    | some (name, value) => .long (String.ofList name) (some (String.ofList value))
    | none => .long (String.ofList body) none
  | '-' :: c :: rest => .cluster c rest
  | _ => .plain s

namespace Arguments

/-- The arguments of an action read so far. -/
structure Draft where
  values : List (Parameter × String)
  options : List (String × String)
  /-- The last option, which has not been settled, and its value if that has been read. -/
  pending : Option (Parameter × Option String)

def Draft.blank : Draft := ⟨[], [], none⟩

namespace Draft

/-- Gives a parameter a value. Only an option can be given more than once. -/
def give (d : Draft) (p : Parameter) (value : String) : Except UsageError Draft :=
  match p with
  | .define =>
    match OptionFlag.parse value with
    | .ok entry => .ok { d with options := d.options ++ [entry] }
    | .error e => .error (.invalidOption value e)
  | p =>
    if (d.values.lookup p).isSome then .error (.repeated p)
    else if value.isEmpty then .error (.missingValue p)
    else .ok { d with values := d.values ++ [(p, value)] }

def settle (d : Draft) : Except UsageError Draft :=
  match d.pending with
  | none => .ok d
  | some (p, none) => .error (.missingValue p)
  | some (p, some value) => { d with pending := none }.give p value

def begin (d : Draft) (p : Parameter) (attached : Option String) : Except UsageError Draft := do
  let d ← d.settle
  match attached with
  | some value => d.give p value
  | none => pure { d with pending := some (p, none) }

def finish (d : Draft) (action : Action) : Except UsageError Request := do
  let d ← d.settle
  let missing := action.required.filter fun p => (d.values.lookup p).isNone
  match action, d.values.lookup .manifest, d.values.lookup .out with
  | .generate, some manifest, some out =>
    pure (.generate ⟨manifest, d.values.lookup .config, d.options⟩ out)
  | .describe, some manifest, _ =>
    pure (.describe ⟨manifest, d.values.lookup .config, d.options⟩)
  | _, _, _ => throw (.missingArguments missing)

end Draft

/-- The text behind a short option, less a sign of equality in front. -/
def attached? : List Char → Option String
  | [] => none
  | '=' :: value => some (String.ofList value)
  | value => some (String.ofList value)

def longParameter? (action : Action) (name : String) : Option Parameter :=
  action.parameters.find? (·.longName? == some name)

def shortParameter? (action : Action) (c : Char) : Option Parameter :=
  action.parameters.find? (·.shortName? == some c)

/-- The arguments of an action. Help is given as soon as it is asked for. -/
def parseAction (action : Action) (d : Draft) : List String → Except UsageError Request
  | [] => d.finish action
  | argument :: rest =>
    match Argument.ofText argument with
    | .escape =>
      match rest with
      | [] => d.finish action
      | extra :: _ => .error (.unexpectedArgument extra)
    | .long "help" none => d.settle.map fun _ => .help action.topic
    | .long "help" (some value) => .error (.unexpectedValue value "--help")
    | .long name value =>
      match longParameter? action name with
      | some p => do parseAction action (← d.begin p value) rest
      | none => .error (.unexpectedArgument ("--" ++ name))
    | .cluster 'h' _ => d.settle.map fun _ => .help action.topic
    | .cluster c more =>
      match shortParameter? action c with
      | some p => do parseAction action (← d.begin p (attached? more)) rest
      | none => .error (.unexpectedArgument (String.ofList ['-', c]))
    | .plain text =>
      match d.pending with
      | some (p, none) => parseAction action { d with pending := some (p, some text) } rest
      | _ => .error (.unexpectedArgument text)

def helpCommand : String := "help"

/-- The topic that names lead to. No topic has others below it. -/
def parseHelp : List String → Except UsageError Request
  | [] => .ok (.help .program)
  | name :: rest =>
    let topic? := if name = helpCommand then some .help else (Action.ofText? name).map Action.topic
    match topic?, rest with
    | none, _ => .error (.unknownCommand name)
    | some topic, [] => .ok (.help topic)
    | some _, extra :: _ => .error (.unknownCommand extra)

def isCommand (name : String) : Bool :=
  name == helpCommand || (Action.ofText? name).isSome

def parse : List String → Except UsageError Request
  | [] => .error .noCommand
  | argument :: rest =>
    match Argument.ofText argument with
    | .escape =>
      match rest with
      | [] => .error .noCommand
      | name :: _ =>
        .error (if isCommand name then .unexpectedArgument name else .unknownCommand name)
    | .long "help" none => .ok (.help .program)
    | .long "version" none => .ok .version
    | .long name value =>
      match value with
      | some value =>
        if name = "help" ∨ name = "version" then .error (.unexpectedValue value ("--" ++ name))
        else .error (.unexpectedArgument ("--" ++ name))
      | none => .error (.unexpectedArgument ("--" ++ name))
    | .cluster 'h' _ => .ok (.help .program)
    | .cluster 'V' _ => .ok .version
    | .cluster c _ => .error (.unexpectedArgument (String.ofList ['-', c]))
    | .plain name =>
      if name = helpCommand then parseHelp rest
      else match Action.ofText? name with
        | some action => parseAction action .blank rest
        | none => .error (.unknownCommand name)

end Arguments

end PluginWrapper
