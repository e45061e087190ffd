import PluginWrapper.Text.Blank
import PluginWrapper.Text.Split

/-!
Options given as `KEY=VALUE`. The key ends at the first sign of equality and loses the blanks around
it; the value is kept as it is.
-/

namespace PluginWrapper.OptionFlag

inductive Error where
  | noValue (raw : String)
  | emptyKey (raw : String)
  deriving DecidableEq

def Error.message : Error → String
  | .noValue raw => "expected KEY=VALUE, got '" ++ raw ++ "'"
  | .emptyKey raw => "option key is empty in '" ++ raw ++ "'"

def parse (raw : String) : Except Error (String × String) :=
  match Text.cut? '=' raw.toList with
  | none => .error (.noValue raw)
  | some (before, value) =>
    match Text.trim before with
    | [] => .error (.emptyKey raw)
    | key => .ok (String.ofList key, String.ofList value)

end PluginWrapper.OptionFlag
