/-!
Events: what a run reports about itself as it goes.
-/

namespace PluginWrapper

/-- Levels of detail, the most urgent first. -/
inductive Level where
  | error
  | warn
  | info
  | debug
  | trace
  deriving DecidableEq

namespace Level

/-- The levels, the most detailed first. -/
def all : List Level := [.trace, .debug, .info, .warn, .error]

/-- The levels, the most urgent first. -/
def byDetail : List Level := all.reverse

def text : Level → String
  | .error => "error"
  | .warn => "warn"
  | .info => "info"
  | .debug => "debug"
  | .trace => "trace"

def label : Level → String
  | .error => "ERROR"
  | .warn => "WARN"
  | .info => "INFO"
  | .debug => "DEBUG"
  | .trace => "TRACE"

def ofText? (s : String) : Option Level :=
  all.find? (·.text == s)

/-- The rank of a level, from one for the most urgent. -/
def detail : Level → Nat
  | .error => 1
  | .warn => 2
  | .info => 3
  | .debug => 4
  | .trace => 5

end Level

inductive Event where
  | configurationLoaded (file : Option String) (options : Nat) (level : Level)
  | unrecognizedOption (key : String)
  | generating (element annotation pluginId : String) (dependencies : Nat)
  | wroteSource (artifact : String) (bytes : Nat)
  | wroteResource (artifact : String)
  | roundComplete (modules cores : Nat)
  | finalRound
  deriving DecidableEq

end PluginWrapper
