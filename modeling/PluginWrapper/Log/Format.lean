import PluginWrapper.Log.Record
import PluginWrapper.Text.Case

/-!
The formats of the log.
-/

namespace PluginWrapper

inductive LogFormat where
  | json
  | pretty
  deriving DecidableEq

/-- An entry of the log: a document or a line of text. -/
inductive LogEntry where
  | document (v : Value)
  | line (s : String)

namespace LogFormat

def all : List LogFormat := [.json, .pretty]

def text : LogFormat → String
  | .json => "json"
  | .pretty => "pretty"

def ofText? (s : String) : Option LogFormat :=
  all.find? (·.text == s)

/-- The format that a variable asks for: in any case, and with one more name for the pretty one. -/
def ofVariable? (s : String) : Option LogFormat :=
  let name := Text.lower s
  if name = "human" then some .pretty else ofText? name

def entry (f : LogFormat) (coloured : Bool) (r : LogRecord) : LogEntry :=
  match f with
  | .json => .document r.toValue
  | .pretty => .line (r.line coloured)

end LogFormat

end PluginWrapper
