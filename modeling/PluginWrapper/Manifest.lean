import PluginWrapper.Declaration
import PluginWrapper.FileTree
import PluginWrapper.Toml

/-!
Manifests: TOML documents that list the declarations of a round, in tables under `module` and under
`core`. Only a module can state dependencies.
-/

namespace PluginWrapper

structure ModuleEntry where
  name : String
  package : String
  dependencies : List Dependency
  deriving DecidableEq

structure CoreEntry where
  name : String
  package : String
  deriving DecidableEq

structure Manifest where
  modules : List ModuleEntry
  cores : List CoreEntry
  deriving DecidableEq

namespace ModuleEntry

def recordName : String := "ModuleEntry"

def fieldNames : List String := ["name", "package", "dependencies"]

/-- The fields of a module read so far. -/
structure Draft where
  name : Option String
  package : Option String
  dependencies : Option (List Dependency)

def Draft.blank : Draft := ⟨none, none, none⟩

def readDependencies (v : Value) : Except ReadError (List Dependency) := do
  (← v.asSequence).mapM Dependency.ofValue

def Draft.read (d : Draft) (key : String) (v : Value) : Except ReadError Draft := do
  if key = "name" then pure { d with name := ← once key d.name v.asString }
  else if key = "package" then pure { d with package := ← once key d.package v.asString }
  else if key = "dependencies" then
    pure { d with dependencies := ← once key d.dependencies (readDependencies v) }
  else throw (.unknownField key fieldNames)

def Draft.finish (d : Draft) : Except ReadError ModuleEntry :=
  match d.name, d.package with
  | some name, some package => .ok ⟨name, package, d.dependencies.getD []⟩
  | none, _ => .error (.missingField "name")
  | _, none => .error (.missingField "package")

def ofFields (fields : List (String × Value)) : Except ReadError ModuleEntry := do
  let draft ← fields.foldlM (fun d field => Draft.read d field.1 field.2) Draft.blank
  draft.finish

/-- A module given by position. Dependencies may be left off, and further items are ignored. -/
def ofItems : List Value → Except ReadError ModuleEntry
  | [] => .error (.tooFew 0 recordName 3)
  | [name] => do
    let _ ← name.asString
    throw (.tooFew 1 recordName 3)
  | [name, package] => do pure ⟨← name.asString, ← package.asString, []⟩
  | name :: package :: dependencies :: _ => do
    pure ⟨← name.asString, ← package.asString, ← readDependencies dependencies⟩

def ofValue : Value → Except ReadError ModuleEntry
  | .map fields => ofFields fields
  | .seq items => ofItems items
  | v => .error (.wrongKind v (.record recordName))

def toDeclaration (m : ModuleEntry) : Declaration :=
  ⟨m.name, m.package, .module, m.dependencies⟩

end ModuleEntry

namespace CoreEntry

def recordName : String := "CoreEntry"

def fieldNames : List String := ["name", "package"]

/-- The fields of a core read so far. -/
structure Draft where
  name : Option String
  package : Option String

def Draft.blank : Draft := ⟨none, none⟩

def Draft.read (d : Draft) (key : String) (v : Value) : Except ReadError Draft := do
  if key = "name" then pure { d with name := ← once key d.name v.asString }
  else if key = "package" then pure { d with package := ← once key d.package v.asString }
  else throw (.unknownField key fieldNames)

def Draft.finish (d : Draft) : Except ReadError CoreEntry :=
  match d.name, d.package with
  | some name, some package => .ok ⟨name, package⟩
  | none, _ => .error (.missingField "name")
  | _, none => .error (.missingField "package")

def ofFields (fields : List (String × Value)) : Except ReadError CoreEntry := do
  let draft ← fields.foldlM (fun d field => Draft.read d field.1 field.2) Draft.blank
  draft.finish

/-- A core given by position. Further items are ignored. -/
def ofItems : List Value → Except ReadError CoreEntry
  | [] => .error (.tooFew 0 recordName 2)
  | [name] => do
    let _ ← name.asString
    throw (.tooFew 1 recordName 2)
  | name :: package :: _ => do pure ⟨← name.asString, ← package.asString⟩

def ofValue : Value → Except ReadError CoreEntry
  | .map fields => ofFields fields
  | .seq items => ofItems items
  | v => .error (.wrongKind v (.record recordName))

def toDeclaration (c : CoreEntry) : Declaration :=
  ⟨c.name, c.package, .core, []⟩

end CoreEntry

namespace Manifest

def fieldNames : List String := ["module", "core"]

/-- The fields of a manifest read so far. -/
structure Draft where
  modules : Option (List ModuleEntry)
  cores : Option (List CoreEntry)

def Draft.blank : Draft := ⟨none, none⟩

def Draft.read (d : Draft) (key : String) (v : Value) : Except ReadError Draft := do
  if key = "module" then
    pure { d with modules := ← once key d.modules (v.asSequence >>= (·.mapM ModuleEntry.ofValue)) }
  else if key = "core" then
    pure { d with cores := ← once key d.cores (v.asSequence >>= (·.mapM CoreEntry.ofValue)) }
  else throw (.unknownField key fieldNames)

/-- What is not listed is empty. -/
def Draft.finish (d : Draft) : Manifest :=
  ⟨d.modules.getD [], d.cores.getD []⟩

def ofFields (fields : List (String × Value)) : Except ReadError Manifest := do
  let draft ← fields.foldlM (fun d field => Draft.read d field.1 field.2) Draft.blank
  pure draft.finish

def annotated (m : Manifest) : Kind → List Declaration
  | .module => m.modules.map ModuleEntry.toDeclaration
  | .core => m.cores.map CoreEntry.toDeclaration

/-- A manifest takes the place of a search for annotated classes. -/
def discovery (m : Manifest) : Discovery where
  annotated := m.annotated

/-- The declarations in the order of generation. -/
def declarations (m : Manifest) : List Declaration :=
  Kind.all.flatMap m.annotated

theorem declarations_eq (m : Manifest) : m.declarations =
    m.modules.map ModuleEntry.toDeclaration ++ m.cores.map CoreEntry.toDeclaration := by
  simp [declarations, Kind.all, annotated]

/-- Why a text is not a manifest. -/
inductive ParseError where
  | notToml
  | notManifest (cause : ReadError)

def parse (text : String) : Except ParseError Manifest :=
  match Toml.read? text with
  | none => .error .notToml
  | some fields => (ofFields fields).mapError .notManifest

/-- Why a manifest was not loaded from its path. -/
inductive LoadError where
  | unreadable (path : String) (cause : IoError)
  | unparsable (path : String) (cause : ParseError)

def LoadError.message : LoadError → String
  | .unreadable path _ => "Failed to read manifest: " ++ path
  | .unparsable path _ => "Failed to parse " ++ path

def load (tree : FileTree) (path : String) : Except LoadError Manifest := do
  let text ← (tree.readFile path.toList).mapError (.unreadable path)
  (parse text).mapError (.unparsable path)

end Manifest

end PluginWrapper
