import Std.Data.ExtTreeMap.Lemmas
import PluginWrapper.Sink

/-!
A sink that keeps every artifact in memory.
-/

namespace PluginWrapper

/-- Sources by qualified name, and resources by path. -/
structure Memory where
  sources : Std.ExtTreeMap String Bytes
  resources : Std.ExtTreeMap String Bytes
  deriving Inhabited

namespace Memory

/-- The place of one artifact. -/
inductive Slot where
  | source (name : String)
  | resource (path : String)
  deriving DecidableEq

def empty : Memory := ⟨∅, ∅⟩

def contents? (m : Memory) : Slot → Option Bytes
  | .source name => m.sources[name]?
  | .resource path => m.resources[path]?

def put (m : Memory) (slot : Slot) (bytes : Bytes) : Memory :=
  match slot with
  | .source name => { m with sources := m.sources.insert name bytes }
  | .resource path => { m with resources := m.resources.insert path bytes }

def append (m : Memory) (slot : Slot) (bytes : Bytes) : Memory :=
  m.put slot ((m.contents? slot).getD [] ++ bytes)

def resourceSlot (package name : String) : Slot :=
  .resource (package ++ "/" ++ name)

def sourceText? (m : Memory) (name : String) : Option String :=
  (m.contents? (.source name)).bind Bytes.toString?

/-- Opening an artifact empties it. Writes take everything and nothing fails. -/
def sink : Sink Memory Slot where
  openSource name m := (.ok (.source name), m.put (.source name) [])
  openResource package name m :=
    (.ok (resourceSlot package name), m.put (resourceSlot package name) [])
  write slot bytes m := (.ok bytes.length, slot, m.append slot bytes)
  flush slot m := (.ok (), slot, m)

theorem contents?_put (m : Memory) (slot other : Slot) (bytes : Bytes) :
    (m.put slot bytes).contents? other =
      if slot = other then some bytes else m.contents? other := by
  cases slot <;> cases other <;> simp [put, contents?, Std.ExtTreeMap.getElem?_insert]

theorem ext_contents? {m n : Memory} (h : ∀ slot, m.contents? slot = n.contents? slot) : m = n := by
  cases m
  cases n
  congr
  · exact Std.ExtTreeMap.ext_getElem? fun k => h (.source k)
  · exact Std.ExtTreeMap.ext_getElem? fun k => h (.resource k)

end Memory

end PluginWrapper
