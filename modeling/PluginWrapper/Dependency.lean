import PluginWrapper.Value

/-!
Requirements of one plugin on another, and how a document states them.
-/

namespace PluginWrapper

/-- One requirement on the plugin `id`; the version expression is kept as written. -/
structure Dependency where
  id : String
  version : String
  optional : Bool
  deriving DecidableEq

namespace Dependency

def coreId : String := "cubeengine-core"

def onCore (loaderVersion : String) : Dependency :=
  ⟨coreId, loaderVersion, false⟩

def recordName : String := "DependencyDescriptor"

/-- The fields of a dependency read so far. -/
structure Draft where
  id : Option String
  version : Option String
  optional : Option Bool

def Draft.blank : Draft := ⟨none, none, none⟩

/-- Reads one more field. `value` is another name for `id`, and unknown fields do not matter. -/
def Draft.read (d : Draft) (key : String) (v : Value) : Except ReadError Draft := do
  if key = "id" ∨ key = "value" then pure { d with id := ← once "id" d.id v.asString }
  else if key = "version" then pure { d with version := ← once key d.version v.asString }
  else if key = "optional" then pure { d with optional := ← once key d.optional v.asBool }
  else pure d

def Draft.finish (d : Draft) : Except ReadError Dependency :=
  match d.id with
  | some id => .ok ⟨id, d.version.getD "", d.optional.getD false⟩
  | none => .error (.missingField "id")

/-- A dependency given field by field, read in order; only the id is required. -/
def ofFields (fields : List (String × Value)) : Except ReadError Dependency := do
  let draft ← fields.foldlM (fun d field => Draft.read d field.1 field.2) Draft.blank
  draft.finish

/-- A dependency given by position: id, version, optional. What is left off takes its default. -/
def ofItems : List Value → Except ReadError Dependency
  | [] => .error (.tooFew 0 recordName 3)
  | [id] => do pure ⟨← id.asString, "", false⟩
  | [id, version] => do pure ⟨← id.asString, ← version.asString, false⟩
  | id :: version :: optional :: _ => do
    pure ⟨← id.asString, ← version.asString, ← optional.asBool⟩

/-- Items past the last field are ignored. -/
def ofValue : Value → Except ReadError Dependency
  | .map fields => ofFields fields
  | .seq items => ofItems items
  | v => .error (.wrongKind v (.record recordName))

/-- As `ofValue`, but items past the last field are an error. -/
def ofValueStrict (v : Value) : Except ReadError Dependency := do
  let d ← ofValue v
  match v with
  | .seq items => if 3 < items.length then throw (.tooMany items.length) else pure d
  | _ => pure d

def toValue (d : Dependency) : Value :=
  .map [("id", .str d.id), ("version", .str d.version), ("optional", .bool d.optional)]

end Dependency

end PluginWrapper
