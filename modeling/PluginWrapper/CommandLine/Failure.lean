import PluginWrapper.Config
import PluginWrapper.Manifest
import PluginWrapper.Round

/-!
Failures of a run, and how they are reported: what failed, then the causes.
-/

namespace PluginWrapper

inductive Failure where
  | configuration (cause : Config.Error)
  | manifest (cause : Manifest.LoadError)
  | generation (out : String) (cause : GenerationError)

/-- A cause of a failure. The text about a fault in a document, with its place, its line and the
reason, is left out, and so is the number in front of it. A mark takes its place. -/
inductive Cause where
  | message (s : String)
  | document

namespace Cause

/-- A text whose later lines are set in by a margin. -/
def setIn (margin : String) (s : String) : String :=
  String.ofList (s.toList.flatMap fun c => if c = '\n' then '\n' :: margin.toList else [c])

def text : Cause → String
  | .message s => "    " ++ setIn "    " s
  | .document => "<toml error>"

def numbered (n : Nat) : Cause → String
  | .message s =>
    let number := toString n
    "".pushn ' ' (5 - number.length) ++ number ++ ": " ++ setIn "       " s
  | .document => "<toml error>"

/-- Only several causes are numbered. -/
def lines : List Cause → List String
  | [cause] => [cause.text]
  | causes => causes.mapIdx numbered

end Cause

namespace Failure

def context : Failure → String
  | .configuration _ => "Failed to load configuration"
  | .manifest e => e.message
  | .generation out _ => "Plugin generation failed in " ++ out

def causes : Failure → List Cause
  | .configuration (.malformed _) => [.document]
  | .configuration e => [.message e.message]
  | .manifest (.unreadable _ e) => [.message e.message]
  | .manifest (.unparsable _ _) => [.document]
  | .generation _ e => [.message e.message, .message e.cause.message]

def text (f : Failure) : String :=
  "\n".intercalate (["Error: " ++ f.context, "", "Caused by:"] ++ Cause.lines f.causes)

end Failure

end PluginWrapper
