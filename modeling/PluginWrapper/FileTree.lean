import Std.Data.ExtTreeMap.Lemmas
import PluginWrapper.Path
import PluginWrapper.Sink

/-!
A file system without links: files and directories by location, and a working directory. Paths are
looked up name by name from the root or the working directory.
-/

namespace PluginWrapper

/-- The names from the root down to a file or directory. -/
abbrev Location := List String

def Location.path (here : Location) : List Char :=
  '/' :: Text.join '/' (here.map String.toList)

inductive Node where
  | file (contents : Bytes)
  | directory
  deriving DecidableEq

structure FileTree where
  nodes : Std.ExtTreeMap Location Node
  workingDirectory : Location
  deriving Inhabited

namespace FileTree

def maxNameBytes : Nat := 255

def maxPathBytes : Nat := 4096

def inside (here : Location) : FileTree where
  nodes :=
    (List.range here.length).foldl (fun nodes n => nodes.insert (here.take (n + 1)) .directory) ∅
  workingDirectory := here

def fresh : FileTree := inside ["home", "user", "project", "work"]

/-- What is at a location. The root is always a directory. -/
def node? (t : FileTree) (here : Location) : Option Node :=
  if here = [] then some .directory else t.nodes[here]?

def put (t : FileTree) (here : Location) (node : Node) : FileTree :=
  { t with nodes := t.nodes.insert here node }

def isTooLong (name : List Char) : Bool :=
  maxNameBytes < (Bytes.ofString (String.ofList name)).length

/-- Follows names from a location, each of which but the last has to lead to a directory. -/
def walk (t : FileTree) (here : Location) : List (List Char) → Except IoError Location
  | [] => .ok here
  | name :: rest =>
    if t.node? here ≠ some .directory then .error .notDirectory
    else if name = ['.'] then t.walk here rest
    else if name = ['.', '.'] then t.walk here.dropLast rest
    else if isTooLong name then .error .nameTooLong
    else if (t.node? (here ++ [String.ofList name])).isNone then .error .noSuchFile
    else t.walk (here ++ [String.ofList name]) rest

def start (t : FileTree) (path : List Char) : Location :=
  if Path.isAbsolute path then [] else t.workingDirectory

def pathError? (path : List Char) : Option IoError :=
  if path.contains '\x00' then some .nulInName
  else if path = [] then some .noSuchFile
  else if maxPathBytes ≤ (Bytes.ofString (String.ofList path)).length then some .nameTooLong
  else none

/-- The location of what a path names. A slash at the end asks for a directory. -/
def locate (t : FileTree) (path : List Char) : Except IoError Location :=
  match pathError? path with
  | some e => .error e
  | none => do
    let here ← t.walk (t.start path) (Path.names path)
    if path.getLast? = some '/' ∧ t.node? here ≠ some .directory then throw .notDirectory
    pure here

def hasPath (t : FileTree) (path : List Char) : Bool :=
  match t.locate path with
  | .ok _ => true
  | .error _ => false

def isDirectory (t : FileTree) (path : List Char) : Bool :=
  match t.locate path with
  | .ok here => t.node? here = some .directory
  | .error _ => false

def isFile (t : FileTree) (path : List Char) : Bool :=
  match t.locate path with
  | .ok here => (t.node? here).any (· != .directory)
  | .error _ => false

/-- The directory that a path to something new stands in, and the new name. Without one, because
the path ends in a dot or is the root, it leads to a directory that exists. -/
def locateNew (t : FileTree) (path : List Char) : Except IoError (Location × Option (List Char)) :=
  match pathError? path with
  | some e => .error e
  | none => do
    let names := Path.names path
    let parent ← t.walk (t.start path) names.dropLast
    if t.node? parent ≠ some .directory then throw .notDirectory
    match names.getLast? with
    | none => pure (parent, none)
    | some name =>
      if name = ['.'] ∨ name = ['.', '.'] then pure (parent, none) else pure (parent, some name)

def makeDirectory (t : FileTree) (path : List Char) : Except IoError FileTree := do
  match ← t.locateNew path with
  | (_, none) => throw .fileExists
  | (parent, some name) =>
    if isTooLong name then throw .nameTooLong
    let here := parent ++ [String.ofList name]
    if (t.node? here).isSome then throw .fileExists
    pure (t.put here .directory)

/-- Makes the first directory of the list, and before it those that hold it as far as they are
missing. What was made stays when a later step fails. -/
def makeDirectories (t : FileTree) : List (List Char) → Except IoError Unit × FileTree
  | [] => (.ok (), t)
  | path :: above =>
    match t.makeDirectory path with
    | .ok t => (.ok (), t)
    | .error .noSuchFile =>
      match t.makeDirectories above with
      | (.error e, t) => (.error e, t)
      | (.ok (), t) =>
        match t.makeDirectory path with
        | .ok t => (.ok (), t)
        | .error e => if e = .fileExists ∧ t.isDirectory path then (.ok (), t) else (.error e, t)
    | .error e => if e = .fileExists ∧ t.isDirectory path then (.ok (), t) else (.error e, t)

def createFile (t : FileTree) (path : List Char) : Except IoError (Location × FileTree) := do
  match ← t.locateNew path with
  | (_, none) => throw .isDirectory
  | (parent, some name) =>
    if path.getLast? = some '/' then throw .isDirectory
    if isTooLong name then throw .nameTooLong
    let here := parent ++ [String.ofList name]
    if t.node? here = some .directory then throw .isDirectory
    pure (here, t.put here (.file []))

/-- As `createFile`, after making the directories that the file stands in. -/
def createFileWithParents (t : FileTree) (path : List Char) : Except IoError Location × FileTree :=
  match t.makeDirectories (Path.ancestors path).tail with
  | (.error e, t) => (.error e, t)
  | (.ok (), t) =>
    match t.createFile path with
    | .ok (here, t) => (.ok here, t)
    | .error e => (.error e, t)

def append (t : FileTree) (here : Location) (bytes : Bytes) : FileTree :=
  match t.node? here with
  | some (.file contents) => t.put here (.file (contents ++ bytes))
  | _ => t

def readFile (t : FileTree) (path : List Char) : Except IoError String := do
  match t.node? (← t.locate path) with
  | some (.file contents) =>
    match Bytes.toString? contents with
    | some text => pure text
    | none => throw .notUtf8
  | some .directory => throw .isDirectory
  | none => throw .noSuchFile

end FileTree

end PluginWrapper
