import PluginWrapper.Proofs.Except
import PluginWrapper.Proofs.FileTree.Plant

/-! When paths are found and when something new can be made at them: one equivalence for each
operation on a tree, which later proofs use in place of its definition. -/
namespace PluginWrapper

/-- The name that a path ends in. A dot names nothing new. -/
def Path.newName? (path : List Char) : Option (List Char) :=
  (Path.names path).getLast?.filter fun name => name ≠ ['.'] ∧ name ≠ ['.', '.']

private theorem Path.newName?_eq_some {path name : List Char} :
    Path.newName? path = some name ↔
      (∃ above, Path.names path = above ++ [name]) ∧ name ≠ ['.'] ∧ name ≠ ['.', '.'] := by
  simp [newName?, Option.filter_eq_some_iff, List.getLast?_eq_some_iff]

namespace FileTree
variable {t : FileTree} {path : List Char} {here parent : Location} {name : List Char}
  {names : List (List Char)}

theorem walk_cons_ok {there : Location} :
    t.walk here (name :: names) = .ok there ↔ t.node? here = some .directory ∧
      (name = ['.'] ∧ t.walk here names = .ok there ∨
        name = ['.', '.'] ∧ t.walk here.dropLast names = .ok there ∨
        name ≠ ['.'] ∧ name ≠ ['.', '.'] ∧ isTooLong name = false ∧
          (∃ node, t.node? (here.down [name]) = some node) ∧
          t.walk (here.down [name]) names = .ok there) := by
  rw [walk, ← Option.isSome_iff_exists]
  by_cases hdirectory : t.node? here = some .directory
  · by_cases hdot : name = ['.']
    · simp [hdirectory, hdot]
    · by_cases hdots : name = ['.', '.']
      · simp [hdirectory, hdots]
      · cases hlong : isTooLong name
        · cases hnode : t.node? (here.down [name]) <;>
            simp_all [Location.down]
        · simp [hdirectory, hdot, hdots]
  · simp [hdirectory]

/-- What can be walked can still be walked when directories stay directories and nothing goes. -/
theorem walk_mono {t' : FileTree} {there : Location}
    (hdirectory : ∀ location, t.node? location = some .directory →
      t'.node? location = some .directory)
    (hsome : ∀ location node, t.node? location = some node →
      ∃ node', t'.node? location = some node')
    (h : t.walk here names = .ok there) : t'.walk here names = .ok there := by
  induction names generalizing here with
  | nil => exact h
  | cons name names ih =>
    obtain ⟨hhere, hstep⟩ := walk_cons_ok.mp h
    refine walk_cons_ok.mpr ⟨hdirectory here hhere, ?_⟩
    rcases hstep with ⟨hdot, h⟩ | ⟨hdots, h⟩ | ⟨hdot, hdots, hlong, ⟨node, hnode⟩, h⟩
    · exact .inl ⟨hdot, ih h⟩
    · exact .inr (.inl ⟨hdots, ih h⟩)
    · exact .inr (.inr ⟨hdot, hdots, hlong, hsome _ node hnode, ih h⟩)

theorem walk_of_subset {t' : FileTree} {there : Location}
    (hsubset : ∀ location node, t.node? location = some node → t'.node? location = some node)
    (h : t.walk here names = .ok there) : t'.walk here names = .ok there :=
  walk_mono (fun location => hsubset location _)
    (fun location node hnode => ⟨node, hsubset location node hnode⟩) h

theorem walk_append (t : FileTree) (here : Location) (names rest : List (List Char)) :
    t.walk here (names ++ rest) = t.walk here names >>= fun there => t.walk there rest := by
  induction names generalizing here with
  | nil => rfl
  | cons name names ih =>
    rw [List.cons_append, walk, walk]
    split_ifs
    · rfl
    · exact ih here
    · exact ih here.dropLast
    · rfl
    · rfl
    · exact ih _

theorem walk_append_of_ok {there : Location} (h : t.walk here names = .ok there)
    (rest : List (List Char)) : t.walk here (names ++ rest) = t.walk there rest := by
  rw [walk_append, h]
  rfl

theorem walk_append_eq_ok {there : Location} {rest : List (List Char)} :
    t.walk here (names ++ rest) = .ok there ↔
      ∃ mid, t.walk here names = .ok mid ∧ t.walk mid rest = .ok there := by
  rw [walk_append, bind_eq_ok]

/-- A directory that was walked to stands in a directory, unless the walk went nowhere. -/
private theorem exists_walk_dropLast {there : Location}
    (h : t.walk here names = .ok there) (hdirectory : t.node? there = some .directory) :
    ∃ parent, t.walk here names.dropLast = .ok parent ∧ t.node? parent = some .directory := by
  rcases List.eq_nil_or_concat' names with rfl | ⟨above, name, rfl⟩
  · exact ⟨there, h, hdirectory⟩
  · obtain ⟨parent, hparent, hlast⟩ := walk_append_eq_ok.mp h
    rw [List.dropLast_concat]
    exact ⟨parent, hparent, (walk_cons_ok.mp hlast).1⟩

theorem pathError?_eq_none : pathError? path = none ↔ '\x00' ∉ path ∧ path ≠ [] ∧
    (Bytes.ofString (String.ofList path)).length < maxPathBytes := by
  rw [pathError?]
  split_ifs <;> simp_all

theorem locate_eq_ok : t.locate path = .ok here ↔
    pathError? path = none ∧ t.walk (t.start path) (Path.names path) = .ok here ∧
      (path.getLast? = some '/' → t.node? here = some .directory) := by
  rw [locate]
  cases pathError? path with
  | some e => simp
  | none =>
    simp only [bind_eq_ok, check_eq_ok, pure_eq_ok, true_and, not_and, ne_eq, not_not]
    constructor
    · rintro ⟨there, hwalk, hslash, rfl⟩
      exact ⟨hwalk, hslash⟩
    · rintro ⟨hwalk, hslash⟩
      exact ⟨here, hwalk, hslash, rfl⟩

theorem isDirectory_iff : t.isDirectory path = true ↔
    ∃ here, t.locate path = .ok here ∧ t.node? here = some .directory := by
  rw [isDirectory]
  cases t.locate path <;> simp

theorem isFile_iff : t.isFile path = true ↔
    ∃ here contents, t.locate path = .ok here ∧ t.node? here = some (.file contents) := by
  rw [isFile]
  cases t.locate path with
  | error e => simp
  | ok here =>
    cases hnode : t.node? here with
    | none => simp [hnode]
    | some node => cases node <;> simp [hnode]

theorem readFile_of_locate {contents : Bytes} (hlocate : t.locate path = .ok here)
    (hnode : t.node? here = some (.file contents)) :
    t.readFile path = (Bytes.toString? contents).elim (.error .notUtf8) .ok := by
  rw [readFile, hlocate]
  simp only [bind, Except.bind, hnode]
  cases Bytes.toString? contents <;> rfl

private theorem isFile_of_readFile {text : String} (h : t.readFile path = .ok text) :
    t.isFile path = true := by
  obtain ⟨here, hlocate, hread⟩ := bind_eq_ok.mp h
  refine isFile_iff.mpr ⟨here, ?_⟩
  cases hnode : t.node? here with
  | none => simp [hnode, throw, throwThe, MonadExceptOf.throw] at hread
  | some node =>
    cases node with
    | file contents => exact ⟨contents, hlocate, rfl⟩
    | directory => simp [hnode, throw, throwThe, MonadExceptOf.throw] at hread

theorem readFile_eq_ok {text : String} : t.readFile path = .ok text ↔
    ∃ here contents, t.locate path = .ok here ∧ t.node? here = some (.file contents) ∧
      Bytes.toString? contents = some text := by
  constructor
  · intro h
    obtain ⟨here, contents, hlocate, hnode⟩ := isFile_iff.mp (isFile_of_readFile h)
    refine ⟨here, contents, hlocate, hnode, ?_⟩
    rw [readFile_of_locate hlocate hnode] at h
    cases htext : Bytes.toString? contents <;> simp_all
  · rintro ⟨here, contents, hlocate, hnode, htext⟩
    rw [readFile_of_locate hlocate hnode, htext]
    rfl

theorem locateNew_eq_ok {new : Option (List Char)} : t.locateNew path = .ok (parent, new) ↔
    pathError? path = none ∧ t.walk (t.start path) (Path.names path).dropLast = .ok parent ∧
      t.node? parent = some .directory ∧ Path.newName? path = new := by
  rw [locateNew, Path.newName?]
  cases pathError? path with
  | some e => simp
  | none =>
    simp only [bind_eq_ok, check_eq_ok, true_and, ne_eq, not_not]
    cases (Path.names path).getLast? with
    | none =>
      simp only [pure_eq_ok, Prod.mk.injEq, Option.filter_none]
      grind
    | some name =>
      by_cases hdots : name = ['.'] ∨ name = ['.', '.']
      · simp only [if_pos hdots, pure_eq_ok, Prod.mk.injEq, Option.filter_some]
        grind
      · simp only [if_neg hdots, pure_eq_ok, Prod.mk.injEq, Option.filter_some]
        grind

theorem makeDirectory_eq_ok {t' : FileTree} : t.makeDirectory path = .ok t' ↔
    ∃ parent name, t.locateNew path = .ok (parent, some name) ∧ isTooLong name = false ∧
      t.node? (parent.down [name]) = none ∧ t' = t.put (parent.down [name]) .directory := by
  rw [makeDirectory]
  simp only [bind_eq_ok]
  constructor
  · rintro ⟨⟨parent, _ | name⟩, hnew, h⟩
    · cases h
    · simp only [check_eq_ok, pure_eq_ok] at h
      obtain ⟨hlong, hnode, rfl⟩ := h
      exact ⟨parent, name, hnew, by simpa using hlong, by simpa [Location.down] using hnode, rfl⟩
  · rintro ⟨parent, name, hnew, hlong, hnode, rfl⟩
    refine ⟨_, hnew, ?_⟩
    simp only [check_eq_ok, pure_eq_ok]
    exact ⟨by simp [hlong], by simpa [Location.down] using hnode, rfl⟩

theorem createFile_eq_ok {t' : FileTree} : t.createFile path = .ok (here, t') ↔
    ∃ parent name, t.locateNew path = .ok (parent, some name) ∧ path.getLast? ≠ some '/' ∧
      isTooLong name = false ∧ t.node? (parent.down [name]) ≠ some .directory ∧
      here = parent.down [name] ∧ t' = t.put here (.file []) := by
  rw [createFile]
  simp only [bind_eq_ok]
  constructor
  · rintro ⟨⟨parent, _ | name⟩, hnew, h⟩
    · cases h
    · simp only [check_eq_ok, pure_eq_ok, Prod.mk.injEq] at h
      obtain ⟨hslash, hlong, hnode, rfl, rfl⟩ := h
      exact ⟨parent, name, hnew, hslash, by simpa using hlong, hnode, rfl, rfl⟩
  · rintro ⟨parent, name, hnew, hslash, hlong, hnode, rfl, rfl⟩
    refine ⟨_, hnew, ?_⟩
    simp only [check_eq_ok, pure_eq_ok, Prod.mk.injEq]
    exact ⟨hslash, by simp [hlong], hnode, rfl, rfl⟩

/-- A directory that is there cannot be made. -/
theorem makeDirectory_of_isDirectory (h : t.isDirectory path = true) :
    t.makeDirectory path = .error .fileExists := by
  obtain ⟨here, hlocate, hdirectory⟩ := isDirectory_iff.mp h
  obtain ⟨herror, hwalk, -⟩ := locate_eq_ok.mp hlocate
  obtain ⟨parent, hparent, hholds⟩ := exists_walk_dropLast hwalk hdirectory
  have hnew := locateNew_eq_ok.mpr ⟨herror, hparent, hholds, rfl⟩
  rw [makeDirectory, hnew]
  cases hname : Path.newName? path with
  | none => rfl
  | some name =>
    obtain ⟨⟨above, habove⟩, hdot, hdots⟩ := Path.newName?_eq_some.mp hname
    rw [habove, List.dropLast_concat] at hparent
    rw [habove, walk_append_of_ok hparent] at hwalk
    rcases (walk_cons_ok.mp hwalk).2 with ⟨h, -⟩ | ⟨h, -⟩ | ⟨-, -, hlong, ⟨node, hnode⟩, -⟩
    · exact absurd h hdot
    · exact absurd h hdots
    · have hsome : t.node? (parent ++ [String.ofList name]) = some node := hnode
      simp [bind, Except.bind, throw, throwThe, MonadExceptOf.throw, hlong, hsome]

/-- What stands under a new name is found there. -/
theorem locate_of_locateNew {node : Node} (hnew : t.locateNew path = .ok (parent, some name))
    (hlong : isTooLong name = false) (hnode : t.node? (parent.down [name]) = some node)
    (hslash : path.getLast? = some '/' → node = .directory) :
    t.locate path = .ok (parent.down [name]) := by
  obtain ⟨herror, hwalk, hdirectory, hname⟩ := locateNew_eq_ok.mp hnew
  obtain ⟨⟨above, habove⟩, hdot, hdots⟩ := Path.newName?_eq_some.mp hname
  refine locate_eq_ok.mpr ⟨herror, ?_, fun hend => hslash hend ▸ hnode⟩
  rw [habove, List.dropLast_concat] at hwalk
  rw [habove, walk_append_of_ok hwalk]
  exact walk_cons_ok.mpr ⟨hdirectory, .inr (.inr ⟨hdot, hdots, hlong, ⟨node, hnode⟩, rfl⟩)⟩

end FileTree

end PluginWrapper
