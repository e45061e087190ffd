import Mathlib.Tactic.SplitIfs
import PluginWrapper.FileTree
import PluginWrapper.Proofs.Except

/-! Trees of one shape, with files and directories at the same places but other contents in the
files. Where paths lead and what can be made there depends on the shape alone, so that the same is
made in both trees. -/
namespace PluginWrapper

def Node.bare : Node → Node
  | .file _ => .file []
  | .directory => .directory

private theorem Node.bare_eq_directory {node : Node} :
    node.bare = .directory ↔ node = .directory := by
  cases node <;> simp [bare]

namespace FileTree

structure SameShape (t t' : FileTree) : Prop where
  workingDirectory : t'.workingDirectory = t.workingDirectory
  nodes : ∀ here : Location, t'.nodes[here]?.map Node.bare = t.nodes[here]?.map Node.bare

variable {t t' u u' : FileTree} {here : Location} {path : List Char}

namespace SameShape

private theorem node? (h : t.SameShape t') (here : Location) :
    (t'.node? here).map Node.bare = (t.node? here).map Node.bare := by
  rw [FileTree.node?, FileTree.node?]
  split
  · rfl
  · exact h.nodes here

private theorem directory_iff (h : t.SameShape t') (here : Location) :
    t'.node? here = some .directory ↔ t.node? here = some .directory := by
  have hiff (node : Option Node) :
      node = some .directory ↔ node.map Node.bare = some .directory := by
    cases node with
    | none => simp
    | some node => simp [Node.bare_eq_directory]
  rw [hiff, h.node?, ← hiff]

private theorem isSome_node? (h : t.SameShape t') (here : Location) :
    (t'.node? here).isSome = (t.node? here).isSome := by
  have hsome := congrArg Option.isSome (h.node? here)
  rwa [Option.isSome_map, Option.isSome_map] at hsome

private theorem isNone_node? (h : t.SameShape t') (here : Location) :
    (t'.node? here).isNone = (t.node? here).isNone := by
  rw [← Option.not_isSome, ← Option.not_isSome, h.isSome_node?]

private theorem walk (h : t.SameShape t') (here : Location) (names : List (List Char)) :
    t'.walk here names = t.walk here names := by
  induction names generalizing here with
  | nil => rfl
  | cons name names ih =>
    simp only [FileTree.walk, ne_eq, h.directory_iff, h.isNone_node?, ih]

theorem start (h : t.SameShape t') (path : List Char) : t'.start path = t.start path := by
  rw [FileTree.start, FileTree.start, h.workingDirectory]

theorem locate (h : t.SameShape t') (path : List Char) : t'.locate path = t.locate path := by
  simp only [FileTree.locate, h.start, h.walk, ne_eq, h.directory_iff]

theorem hasPath (h : t.SameShape t') (path : List Char) : t'.hasPath path = t.hasPath path := by
  rw [FileTree.hasPath, FileTree.hasPath, h.locate]

private theorem isDirectory (h : t.SameShape t') (path : List Char) :
    t'.isDirectory path = t.isDirectory path := by
  simp only [FileTree.isDirectory, h.locate, h.directory_iff]

theorem isFile (h : t.SameShape t') (path : List Char) : t'.isFile path = t.isFile path := by
  have hany (node : Option Node) :
      node.any (· != .directory) = (node.map Node.bare).any (· != .directory) := by
    rcases node with _ | _ | _ <;> rfl
  rw [FileTree.isFile, FileTree.isFile, h.locate]
  cases t.locate path with
  | error e => rfl
  | ok here =>
    dsimp only
    rw [hany, h.node?, ← hany]

private theorem locateNew (h : t.SameShape t') (path : List Char) :
    t'.locateNew path = t.locateNew path := by
  simp only [FileTree.locateNew, h.start, h.walk, ne_eq, h.directory_iff]

/-- A directory is made at the same place in both trees, or in neither. -/
theorem makeDirectory (h : t.SameShape t') (path : List Char) :
    ∃ made : Except IoError Location, t.makeDirectory path = made.map (t.put · .directory) ∧
      t'.makeDirectory path = made.map (t'.put · .directory) := by
  rw [FileTree.makeDirectory, FileTree.makeDirectory, h.locateNew]
  rcases t.locateNew path with e | ⟨parent, _ | name⟩
  · exact ⟨.error e, rfl, rfl⟩
  · exact ⟨.error .fileExists, rfl, rfl⟩
  · simp only [ok_bind, throw_bind, h.isSome_node?]
    split_ifs
    · exact ⟨.error .nameTooLong, rfl, rfl⟩
    · exact ⟨.error .fileExists, rfl, rfl⟩
    · exact ⟨.ok (parent ++ [String.ofList name]), rfl, rfl⟩

/-- A file is emptied or made at the same place in both trees, or in neither. -/
theorem createFile (h : t.SameShape t') (path : List Char) :
    ∃ made : Except IoError Location,
      t.createFile path = made.map (fun here => (here, t.put here (.file []))) ∧
      t'.createFile path = made.map fun here => (here, t'.put here (.file [])) := by
  rw [FileTree.createFile, FileTree.createFile, h.locateNew]
  rcases t.locateNew path with e | ⟨parent, _ | name⟩
  · exact ⟨.error e, rfl, rfl⟩
  · exact ⟨.error .isDirectory, rfl, rfl⟩
  · simp only [ok_bind, throw_bind, h.directory_iff]
    split_ifs
    · exact ⟨.error .isDirectory, rfl, rfl⟩
    · exact ⟨.error .nameTooLong, rfl, rfl⟩
    · exact ⟨.error .isDirectory, rfl, rfl⟩
    · exact ⟨.ok (parent ++ [String.ofList name]), rfl, rfl⟩

end SameShape

/-- What has been written to two trees of one shape: wherever anything was, the trees look the same
now, and all else is as it was. -/
structure SameWritten (t t' u u' : FileTree) : Prop where
  shape : u.SameShape u'
  node : ∀ here : Location, u'.nodes[here]? = u.nodes[here]? ∨
    u.nodes[here]? = t.nodes[here]? ∧ u'.nodes[here]? = t'.nodes[here]?

namespace SameWritten

theorem nothing (h : t.SameShape t') : SameWritten t t' t t' :=
  ⟨h, fun _ => .inr ⟨rfl, rfl⟩⟩

private theorem put (h : SameWritten t t' u u') (here : Location) (node : Node) :
    SameWritten t t' (u.put here node) (u'.put here node) where
  shape.workingDirectory := h.shape.workingDirectory
  shape.nodes there := by
    simp only [FileTree.put, Std.ExtTreeMap.getElem?_insert]
    split
    · rfl
    · exact h.shape.nodes there
  node there := by
    simp only [FileTree.put, Std.ExtTreeMap.getElem?_insert]
    split
    · exact .inl rfl
    · exact h.node there

theorem append (h : SameWritten t t' u u') (hhere : u'.node? here = u.node? here)
    (bytes : Bytes) : SameWritten t t' (u.append here bytes) (u'.append here bytes) := by
  rw [FileTree.append, FileTree.append, hhere]
  split
  · exact h.put here _
  · exact h

private theorem makeDirectories (h : SameWritten t t' u u') (paths : List (List Char)) :
    (u'.makeDirectories paths).1 = (u.makeDirectories paths).1 ∧
      SameWritten t t' (u.makeDirectories paths).2 (u'.makeDirectories paths).2 := by
  induction paths generalizing u u' with
  | nil => exact ⟨rfl, h⟩
  | cons path above ih =>
    have hfails (e : IoError) {u u' : FileTree} (h : SameWritten t t' u u') :
        let failed (u : FileTree) : Except IoError Unit × FileTree :=
          if e = .fileExists ∧ u.isDirectory path then (.ok (), u) else (.error e, u)
        (failed u').1 = (failed u).1 ∧ SameWritten t t' (failed u).2 (failed u').2 := by
      intro failed
      simp only [failed, h.shape.isDirectory]
      split
      · exact ⟨rfl, h⟩
      · exact ⟨rfl, h⟩
    obtain ⟨made, hmade, hmade'⟩ := h.shape.makeDirectory path
    rw [FileTree.makeDirectories, FileTree.makeDirectories, hmade, hmade']
    cases made with
    | ok here => exact ⟨rfl, h.put here .directory⟩
    | error e =>
      simp only [Except.map]
      -- Only a missing directory above leads to another attempt.
      cases e
      case noSuchFile =>
        dsimp only
        obtain ⟨hresult, hleft⟩ := ih h
        generalize u.makeDirectories above = done at hresult hleft ⊢
        generalize u'.makeDirectories above = done' at hresult hleft ⊢
        obtain ⟨result, v⟩ := done
        obtain ⟨result', v'⟩ := done'
        obtain rfl : result' = result := hresult
        change SameWritten t t' v v' at hleft
        cases result' with
        | error e => exact ⟨rfl, hleft⟩
        | ok _ =>
          obtain ⟨again, hagain, hagain'⟩ := hleft.shape.makeDirectory path
          simp only [hagain, hagain']
          cases again with
          | ok here => exact ⟨rfl, hleft.put here .directory⟩
          | error e => exact hfails e hleft
      all_goals exact hfails _ h

theorem createFileWithParents (h : SameWritten t t' u u') (path : List Char) :
    let opened := u.createFileWithParents path
    ∃ v', u'.createFileWithParents path = (opened.1, v') ∧ SameWritten t t' opened.2 v' ∧
      ∀ here, opened.1 = .ok here → v'.node? here = opened.2.node? here := by
  obtain ⟨hresult, hleft⟩ := h.makeDirectories (Path.ancestors path).tail
  rw [FileTree.createFileWithParents, FileTree.createFileWithParents]
  generalize u.makeDirectories (Path.ancestors path).tail = done at hresult hleft ⊢
  generalize u'.makeDirectories (Path.ancestors path).tail = done' at hresult hleft ⊢
  obtain ⟨result, v⟩ := done
  obtain ⟨result', v'⟩ := done'
  obtain rfl : result' = result := hresult
  change SameWritten t t' v v' at hleft
  cases result' with
  | error e => exact ⟨v', rfl, hleft, nofun⟩
  | ok _ =>
    obtain ⟨made, hmade, hmade'⟩ := hleft.shape.createFile path
    simp only [hmade, hmade']
    cases made with
    | error e => exact ⟨v', rfl, hleft, nofun⟩
    | ok there =>
      simp only [Except.map]
      refine ⟨_, rfl, hleft.put there (.file []), fun here hhere => ?_⟩
      obtain rfl := Except.ok.inj hhere
      simp [FileTree.node?, FileTree.put]

end SameWritten

/-- On trees that were the same nothing but the same can have been written. -/
theorem SameWritten.eq (h : SameWritten t t u u') : u' = u := by
  have hnodes : u'.nodes = u.nodes := Std.ExtTreeMap.ext_getElem? fun here => by
    rcases h.node here with hsame | ⟨hold, hold'⟩
    · exact hsame
    · rw [hold', hold]
  have hworking := h.shape.workingDirectory
  obtain ⟨nodes, workingDirectory⟩ := u
  obtain ⟨nodes', workingDirectory'⟩ := u'
  obtain rfl : nodes' = nodes := hnodes
  obtain rfl : workingDirectory' = workingDirectory := hworking
  rfl

end FileTree

end PluginWrapper
