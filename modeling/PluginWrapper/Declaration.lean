import PluginWrapper.Dependency

/-!
Declared plugin classes: the modules, and the core that they build on.
-/

namespace PluginWrapper

/-- What a class was declared as. -/
inductive Kind where
  | module
  | core
  deriving DecidableEq

namespace Kind

/-- The kinds in the order of generation. -/
def all : List Kind := [.module, .core]

def text : Kind → String
  | .module => "module"
  | .core => "core"

def ofText? (s : String) : Option Kind :=
  all.find? (·.text == s)

def annotation : Kind → String
  | .module => "org.cubeengine.processor.Module"
  | .core => "org.cubeengine.processor.Core"

end Kind

/-- A declared class. Neither name is checked for being one. -/
structure Declaration where
  name : String
  package : String
  kind : Kind
  dependencies : List Dependency
  deriving DecidableEq

namespace Declaration

def qualifiedName (d : Declaration) : String :=
  d.package ++ "." ++ d.name

/-- The declarations in the order of generation: each kind in turn, in the given order. -/
def generationOrder (ds : List Declaration) : List Declaration :=
  Kind.all.flatMap fun k => ds.filter (·.kind = k)

end Declaration

/-- What a round is run over: the classes that are annotated as of each kind, in the order in which
they were found. When the processing is over, a last round tells so. -/
structure Discovery where
  annotated : Kind → List Declaration
  isOver : Bool := false

/-- Declarations of all kinds in one list. -/
def Discovery.ofList (ds : List Declaration) (isOver : Bool) : Discovery :=
  ⟨fun k => ds.filter (·.kind = k), isOver⟩

end PluginWrapper
