import PluginWrapper.Declaration
import PluginWrapper.OptionTable

/-!
Everything that is written about one declaration, resolved from it and the options.
-/

namespace PluginWrapper

/-- The names made from a declaration's simple name. -/
structure Names where
  className : String
  /-- The simple name in upper case, which the generated constants begin with. -/
  constantStem : String
  pluginId : String
  displayName : String
  deriving DecidableEq

namespace Names

def classPrefix : String := "Plugin"
def idPrefix : String := "cubeengine-"
def displayPrefix : String := "CubeEngine - "

def ofMetadata (simpleName : String) (m : Metadata) : Names where
  className := classPrefix ++ simpleName
  constantStem := Text.upper simpleName
  pluginId := idPrefix ++ m.id
  displayName := displayPrefix ++ m.name

def derive (simpleName : String) (options : OptionTable) : Names :=
  ofMetadata simpleName (options.metadata simpleName)

def idConstant (n : Names) : String :=
  n.constantStem ++ "_ID"

def versionConstant (n : Names) : String :=
  n.constantStem ++ "_VERSION"

end Names

/-- The dependencies of a class of the given kind: those declared, and for a module one more on the
core, even if the core is declared already. -/
def Dependency.complete (declared : List Dependency) (kind : Kind) (loaderVersion : String) :
    List Dependency :=
  match kind with
  | .module => declared ++ [onCore loaderVersion]
  | .core => declared

structure Descriptor where
  kind : Kind
  package : String
  simpleName : String
  names : Names
  version : String
  description : String
  url : String
  authors : String
  revision : String
  dependencies : List Dependency
  deriving DecidableEq

namespace Descriptor

def ofMetadata (d : Declaration) (m : Metadata) : Descriptor where
  kind := d.kind
  package := d.package
  simpleName := d.name
  names := .ofMetadata d.name m
  version := m.version
  description := m.description
  url := m.url
  authors := m.team ++ " Team"
  revision := m.revision
  dependencies := Dependency.complete d.dependencies d.kind m.loaderVersion

def resolve (d : Declaration) (options : OptionTable) : Descriptor :=
  ofMetadata d (options.metadata d.name)

def sourceName (e : Descriptor) : String :=
  e.package ++ "." ++ e.names.className

def toValue (e : Descriptor) : Value :=
  .map [("kind", .str e.kind.text), ("package", .str e.package),
    ("simple_name", .str e.simpleName), ("class_name", .str e.names.className),
    ("upper_name", .str e.names.constantStem), ("qualified_id", .str e.names.pluginId),
    ("display_name", .str e.names.displayName), ("version", .str e.version),
    ("description", .str e.description), ("url", .str e.url), ("authors", .str e.authors),
    ("source_version", .str e.revision),
    ("dependencies", .seq (e.dependencies.map Dependency.toValue))]

end Descriptor

end PluginWrapper
