import PluginWrapper.Toml.Statement

/-!
TOML documents, version 1.0.
-/

namespace PluginWrapper.Toml

/-- Errors show doubles in positional notation, with a point; a tie goes up. -/
def numberStyle : Number.Style := ⟨.up, true, none⟩

/-- A document while it is read: what is known so far, and the table that pairs are added to. -/
structure Draft where
  root : Table
  current : List String

def Draft.blank : Draft := ⟨.empty, []⟩

def Draft.add (d : Draft) : Statement → Option Draft
  | .pair path v => do
    let root ← d.root.alter false (·.insert path v) d.current
    pure { d with root }
  | .table path => do pure ⟨← d.root.define path, path⟩
  | .element path => do pure ⟨← d.root.extend path, path⟩

/-- The fields of a document. Nothing tells one fault in it from another. -/
def read? (text : String) : Option (List (String × Value)) := do
  let s := match text.toList with
    | '\ufeff' :: rest => rest
    | s => s
  let d ← (← statements? (s.length + 1) s).foldlM Draft.add .blank
  pure (fields d.root.entries)

end PluginWrapper.Toml
