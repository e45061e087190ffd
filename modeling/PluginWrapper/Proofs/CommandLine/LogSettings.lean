import PluginWrapper.Proofs.CommandLine.Run
import PluginWrapper.Proofs.Config.LogSettings
import PluginWrapper.Proofs.Round.Shape

/-! What a run prints and writes does not depend on how it keeps its log. Settings of the log reach
the configuration on the same ways as options do, but they come to nothing outside the log. -/
namespace PluginWrapper.CommandLine
open FileTree (SameWritten)

variable {arguments : List String} {env env' : Environment} {tree tree' : FileTree}
  {inputs : Inputs}

private def project (settings : String) : FileTree :=
  ((FileTree.inside ["work"]).put ["work", "list"]
    (.file (Bytes.ofString "[[module]]\nname = \"Travel\"\npackage = \"org.example\"\n"))).put
      ["work", Config.defaultFile] (.file (Bytes.ofString settings))

private def plain : String := "[options]\n\"cubeengine.module.team\" = \"Red\"\n"

private def teamFields : List (String × Value) :=
  [("options", .map [("cubeengine.module.team", .str "Red")])]

private def command : List String := ["generate", "--manifest", "list", "--out", "out"]

private theorem fileHolds_project {settings : String} {fields : List (String × Value)}
    (hpath : (project settings).hasPath Config.defaultFile.toList = true)
    (hfile : (Config.candidates ["work"] Config.defaultFile).find? (project settings).isFile =
      some "/work/cubegen.toml".toList)
    (htext : ((project settings).readFile "/work/cubegen.toml".toList).toOption = some settings)
    (hfields : (Toml.read? settings).any (Value.areSameFields · fields) = true) :
    Config.FileHolds (project settings) none fields :=
  .found hpath hfile (toOption_eq_some.mp htext) (Toml.read?_eq_some hfields)

private def team : List (String × String) := [("cubeengine.module.team", "Red")]

end PluginWrapper.CommandLine
