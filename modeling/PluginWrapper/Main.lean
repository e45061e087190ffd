import PluginWrapper.CommandLine

/-!
The program. It records what is on disk at the places that the run can look at, runs, and stores
what the run has changed.
-/

namespace PluginWrapper.Main

def environment : IO Environment := do
  let bytes ← IO.FS.readBinFile "/proc/self/environ"
  let text := (String.fromUTF8? bytes).getD ""
  return (Text.split '\x00' text.toList).filterMap fun entry =>
    (Text.cut? '=' entry).map fun (name, value) => (String.ofList name, String.ofList value)

def pathOf (here : Location) : String :=
  String.ofList here.path

/-- What is on disk at a location. A directory can be opened but not read. -/
def probe (here : Location) : IO (Option Node) := do
  try
    return some (.file (← IO.FS.readBinFile (pathOf here)).toList)
  catch
    | .inappropriateType _ 21 _ => return some .directory
    | _ => return none

def recordAt (tree : FileTree) (here : Location) : IO FileTree := do
  match ← probe here with
  | some node => return tree.put here node
  | none => return tree

/-- Records every file and directory that a path leads through. -/
def recordAlong (tree : FileTree) (path : String) : IO FileTree := do
  let mut tree := tree
  let mut here := tree.start path.toList
  for name in Path.names path.toList do
    if name = ['.', '.'] then here := here.dropLast
    else if name ≠ ['.'] then
      here := here ++ [String.ofList name]
      tree ← recordAt tree here
  return tree

def namedPaths (here : Location) : Request → List String
  | .generate inputs out => out :: inputPaths inputs
  | .describe inputs => inputPaths inputs
  | _ => []
where
  inputPaths (inputs : Inputs) : List String :=
    inputs.manifest ::
      (Config.candidates here (inputs.config.getD Config.defaultFile)).map String.ofList

/-- The nodes of the second tree that differ from the first, the upper ones before the lower. -/
def changes (before after : FileTree) : List (Location × Node) :=
  after.nodes.toList.filter fun (here, node) => before.nodes[here]? ≠ some node

def store : Location × Node → IO Unit
  | (here, .directory) => IO.FS.createDir (pathOf here)
  | (here, .file contents) => IO.FS.writeBinFile (pathOf here) ⟨contents.toArray⟩

def entryText : LogEntry → String
  | .document v => Json.render .onOneLine 0 v
  | .line s => s

def run (arguments : List String) : IO UInt32 := do
  let env ← environment
  let names := (Path.names (← IO.currentDir).toString.toList).map String.ofList
  let bare := FileTree.inside names
  let paths := match Arguments.parse arguments with
    | .ok request => namedPaths names request
    | .error _ => []
  let named ← paths.foldlM recordAlong bare
  -- A trial run shows which further places matter.
  let trial := CommandLine.run arguments env named
  let recorded ← (changes named trial.tree).foldlM (fun tree change => recordAt tree change.1) named
  let completion := CommandLine.run arguments env recorded
  (changes recorded completion.tree).forM store
  completion.log.forM fun entry => IO.eprintln (entryText entry)
  IO.print completion.stdout
  IO.eprint completion.stderr
  return completion.exit.toUInt32

end PluginWrapper.Main

def main (arguments : List String) : IO UInt32 :=
  PluginWrapper.Main.run arguments
