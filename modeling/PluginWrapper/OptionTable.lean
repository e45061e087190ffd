import Std.Data.ExtTreeMap.Lemmas
import PluginWrapper.Text.Case

/-!
Build options: a table from option names to values. Reading an option never fails, since every
option has a fallback.
-/

namespace PluginWrapper

namespace OptionKey

def version : String := "cubeengine.module.version"
def id : String := "cubeengine.module.id"
def name : String := "cubeengine.module.name"
def description : String := "cubeengine.module.description"
def team : String := "cubeengine.module.team"
def url : String := "cubeengine.module.url"
def revision : String := "cubeengine.module.sourceversion"
def loaderVersion : String := "cubeengine.module.libcube.version"
def platformVersion : String := "cubeengine.module.sponge.version"

def supported : List String :=
  [version, id, name, description, team, url, revision, loaderVersion, platformVersion]

end OptionKey

def unknown : String := "unknown"

def revisionPlaceholder : String := "$\x7bgithead.branch\x7d-$\x7bgithead.commit\x7d"

/-- Values by option name, in the order of the names. -/
structure OptionTable where
  entries : Std.ExtTreeMap String String
  deriving Inhabited

/-- The option values that apply to one declaration. -/
structure Metadata where
  version : String
  id : String
  name : String
  description : String
  team : String
  url : String
  revision : String
  loaderVersion : String
  deriving DecidableEq

namespace OptionTable

def empty : OptionTable := ⟨∅⟩

def get? (t : OptionTable) (key : String) : Option String :=
  t.entries[key]?

def insert (t : OptionTable) (key value : String) : OptionTable :=
  ⟨t.entries.insert key value⟩

/-- As `insert`, and tells the value that was there before. -/
def replace (t : OptionTable) (key value : String) : Option String × OptionTable :=
  (t.get? key, t.insert key value)

/-- Later entries replace earlier ones of the same name. -/
def insertAll (t : OptionTable) (entries : List (String × String)) : OptionTable :=
  entries.foldl (fun t (key, value) => t.insert key value) t

def ofList (entries : List (String × String)) : OptionTable :=
  empty.insertAll entries

def toList (t : OptionTable) : List (String × String) :=
  t.entries.toList

def keys (t : OptionTable) : List String :=
  t.entries.keys

def size (t : OptionTable) : Nat :=
  t.entries.size

def isEmpty (t : OptionTable) : Bool :=
  t.entries.isEmpty

def unsupportedKeys (t : OptionTable) : List String :=
  t.keys.filter fun key => !OptionKey.supported.contains key

/-- The value of an option, or the fallback if there is none. An unfilled source revision counts as
unknown. -/
def resolve (t : OptionTable) (key fallback : String) : String :=
  match t.get? key with
  | some value =>
    if key = OptionKey.revision ∧ value = revisionPlaceholder then unknown else value
  | none => fallback

def version (t : OptionTable) : String :=
  t.resolve OptionKey.version unknown

/-- The id of a module that names none is its own name in lower case. -/
def id (t : OptionTable) (simpleName : String) : String :=
  t.resolve OptionKey.id (Text.lower simpleName)

def name (t : OptionTable) : String :=
  t.resolve OptionKey.name unknown

def description (t : OptionTable) : String :=
  t.resolve OptionKey.description unknown

def team (t : OptionTable) : String :=
  t.resolve OptionKey.team unknown

def url (t : OptionTable) : String :=
  t.resolve OptionKey.url ""

def revision (t : OptionTable) : String :=
  t.resolve OptionKey.revision unknown

def loaderVersion (t : OptionTable) : String :=
  t.resolve OptionKey.loaderVersion unknown

def metadata (t : OptionTable) (simpleName : String) : Metadata where
  version := t.version
  id := t.id simpleName
  name := t.name
  description := t.description
  team := t.team
  url := t.url
  revision := t.revision
  loaderVersion := t.loaderVersion

@[simp] theorem get?_empty (k : String) : empty.get? k = none := by
  simp [empty, get?]

theorem get?_insert (t : OptionTable) (key value k : String) :
    (t.insert key value).get? k = if key = k then some value else t.get? k := by
  simp [insert, get?, Std.ExtTreeMap.getElem?_insert]

end OptionTable

end PluginWrapper
