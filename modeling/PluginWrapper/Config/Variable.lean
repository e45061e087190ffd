import PluginWrapper.Config.Literal
import PluginWrapper.Text.Case

/-!
Names of environment variables, and what they configure. A name is read without regard to the case
of ASCII letters and to blanks around it.
-/

namespace PluginWrapper

/-- The variables of a process with their values. -/
abbrev Environment := List (String × String)

namespace Variable

def lead : String := "CUBEGEN__"

def optionsLead : String := "CUBEGEN__OPTIONS__"

def optionRoot : String := "cubeengine"

/-- What follows a lead, in any ASCII case. -/
def after? (lead name : List Char) : Option (List Char) :=
  (Literal.after? (Text.lowerAscii lead) (Text.lowerAscii (name.take lead.length))).map
    fun _ => name.drop lead.length

/-- A name that is parted by points, without blanks around it; no part is empty. -/
def parts? (name : List Char) : Option (List (List Char)) :=
  let parts := Text.split '.' (Text.trim name)
  if parts.contains [] then none else some parts

/-- Writes a point for two underscores. -/
def pointed : List Char → List Char
  | '_' :: '_' :: rest => '.' :: pointed rest
  | c :: rest => c :: pointed rest
  | [] => []

/-- The path of keys to the setting that a variable makes. Options are not set this way. -/
def keyPath? (name : String) : Option (List String) := do
  let rest ← after? lead.toList (Text.trim name.toList)
  if (after? "options__".toList rest).isSome then none
  let parts ← parts? (pointed rest)
  pure (parts.map fun part => String.ofList (Text.lowerAscii part))

/-- The option that the last part of a variable's name stands for: the name below the root, in
lower case and with a point for each underscore. -/
def optionKey? (name : String) : Option String :=
  if name.isEmpty then none
  else some (optionRoot ++ "." ++ String.ofList
    ((Text.lowerAscii name.toList).map fun c => if c = '_' then '.' else c))

def option? (name : String) : Option String := do
  let rest ← after? optionsLead.toList (Text.trim name.toList)
  let _ ← parts? rest
  optionKey? (String.ofList (Text.trim rest))

end Variable

namespace Environment

/-- The settings that the variables make, each laid over those before it. -/
def layer (env : Environment) : Setting :=
  (env.filterMap fun (name, value) => (Variable.keyPath? name).map (·, value)).foldl
    (fun below (path, value) => below.overlay (Setting.nest .environment path (Literal.read value)))
    (.table .environment [])

/-- The options that the variables set; their values are taken as they are. -/
def options (env : Environment) : List (String × String) :=
  env.filterMap fun (name, value) => (Variable.option? name).map (·, value)

end Environment

end PluginWrapper
