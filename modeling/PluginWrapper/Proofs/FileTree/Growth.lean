import PluginWrapper.Proofs.FileTree.Lookup

/-! Trees that grow: directories stay directories and files stay files, so that what was found once
is found again. Opening a file makes a tree grow, and opening it again changes nothing but the
contents of that file. -/
namespace PluginWrapper.FileTree

/-- Nothing goes or changes into the other kind. -/
structure Grows (t t' : FileTree) : Prop where
  workingDirectory : t'.workingDirectory = t.workingDirectory
  directory : ∀ here, t.node? here = some .directory → t'.node? here = some .directory
  file : ∀ here contents, t.node? here = some (.file contents) →
    ∃ contents', t'.node? here = some (.file contents')

theorem Grows.refl (t : FileTree) : t.Grows t :=
  ⟨rfl, fun _ h => h, fun _ contents h => ⟨contents, h⟩⟩

variable {t t' t'' : FileTree} {path : List Char} {paths : List (List Char)} {here : Location}

theorem Grows.trans (h : t.Grows t') (h' : t'.Grows t'') : t.Grows t'' where
  workingDirectory := h'.workingDirectory.trans h.workingDirectory
  directory here hnode := h'.directory here (h.directory here hnode)
  file here contents hnode := by
    obtain ⟨contents', hnode'⟩ := h.file here contents hnode
    exact h'.file here contents' hnode'

theorem Grows.exists_node (h : t.Grows t') {node : Node} (hnode : t.node? here = some node) :
    ∃ node', t'.node? here = some node' := by
  cases node with
  | file contents =>
    obtain ⟨contents', hnode'⟩ := h.file here contents hnode
    exact ⟨_, hnode'⟩
  | directory => exact ⟨_, h.directory here hnode⟩

private theorem Grows.of_subset (hworking : t'.workingDirectory = t.workingDirectory)
    (hsubset : ∀ here node, t.node? here = some node → t'.node? here = some node) :
    t.Grows t' :=
  ⟨hworking, fun here => hsubset here _, fun here contents h => ⟨contents, hsubset here _ h⟩⟩

theorem ne_nil_of_not_directory (h : t.node? here ≠ some .directory) : here ≠ [] := by
  rintro rfl
  exact h rfl

private theorem ne_nil_of_none (h : t.node? here = none) : here ≠ [] :=
  ne_nil_of_not_directory (t := t) (by simp [h])

theorem Grows.put_file (h : t.node? here ≠ some .directory) (contents : Bytes) :
    t.Grows (t.put here (.file contents)) where
  workingDirectory := rfl
  directory there hnode := by
    have hne : here ≠ there := fun heq => h (heq ▸ hnode)
    rw [node?_put _ (ne_nil_of_not_directory h), if_neg hne, hnode]
  file there contents' hnode := by
    rw [node?_put _ (ne_nil_of_not_directory h)]
    split
    · exact ⟨contents, rfl⟩
    · exact ⟨contents', hnode⟩

private theorem Grows.put_directory (h : t.node? here = none) :
    t.Grows (t.put here .directory) := by
  refine .of_subset rfl fun there node hnode => ?_
  have hne : here ≠ there := by
    rintro rfl
    rw [h] at hnode
    cases hnode
  rw [node?_put _ (ne_nil_of_none h), if_neg hne, hnode]

theorem Grows.append (t : FileTree) (here : Location) (bytes : Bytes) :
    t.Grows (t.append here bytes) := by
  rw [FileTree.append]
  split
  · rename_i contents hnode
    exact .put_file (by simp [hnode]) _
  · exact .refl t

/-- Adding to a file changes no other one. -/
theorem node?_append_of_ne {there : Location} (hne : here ≠ there) (bytes : Bytes) :
    (t.append here bytes).node? there = t.node? there := by
  rw [FileTree.append]
  split
  · rename_i contents hnode
    have hfile : t.node? here ≠ some .directory := by simp [hnode]
    rw [node?_put _ (ne_nil_of_not_directory hfile), if_neg hne]
  · rfl

theorem Grows.walk (h : t.Grows t') {names : List (List Char)} {there : Location}
    (hwalk : t.walk here names = .ok there) : t'.walk here names = .ok there :=
  walk_mono h.directory (fun _ _ => h.exists_node) hwalk

theorem Grows.start (h : t.Grows t') (path : List Char) : t'.start path = t.start path := by
  rw [FileTree.start, FileTree.start, h.workingDirectory]

theorem Grows.locate (h : t.Grows t') (hlocate : t.locate path = .ok here) :
    t'.locate path = .ok here := by
  obtain ⟨herror, hwalk, hslash⟩ := locate_eq_ok.mp hlocate
  refine locate_eq_ok.mpr ⟨herror, ?_, fun hend => h.directory here (hslash hend)⟩
  rw [h.start]
  exact h.walk hwalk

private theorem Grows.isDirectory (h : t.Grows t') (hpath : t.isDirectory path = true) :
    t'.isDirectory path = true := by
  obtain ⟨here, hlocate, hdirectory⟩ := isDirectory_iff.mp hpath
  exact isDirectory_iff.mpr ⟨here, h.locate hlocate, h.directory here hdirectory⟩

private theorem Grows.locateNew (h : t.Grows t') {parent : Location} {new : Option (List Char)}
    (hnew : t.locateNew path = .ok (parent, new)) : t'.locateNew path = .ok (parent, new) := by
  obtain ⟨herror, hwalk, hdirectory, hname⟩ := locateNew_eq_ok.mp hnew
  refine locateNew_eq_ok.mpr ⟨herror, ?_, h.directory parent hdirectory, hname⟩
  rw [h.start]
  exact h.walk hwalk

/-- All that is new are directories at some of the paths. -/
structure GainsDirectories (t t' : FileTree) (paths : List (List Char)) : Prop where
  workingDirectory : t'.workingDirectory = t.workingDirectory
  kept : ∀ here node, t.node? here = some node → t'.node? here = some node
  gained : ∀ here node, t'.node? here = some node → t.node? here = some node ∨
    node = .directory ∧ ∃ path ∈ paths, t'.locate path = .ok here
  root : t'.nodes[([] : Location)]? = t.nodes[([] : Location)]?

theorem GainsDirectories.refl (t : FileTree) (paths : List (List Char)) :
    t.GainsDirectories t paths :=
  ⟨rfl, fun _ _ h => h, fun _ _ h => .inl h, rfl⟩

theorem GainsDirectories.grows (h : t.GainsDirectories t' paths) : t.Grows t' :=
  .of_subset h.workingDirectory h.kept

/-- Files are neither new nor different. -/
theorem GainsDirectories.file (h : t.GainsDirectories t' paths) {contents : Bytes} :
    t'.node? here = some (.file contents) ↔ t.node? here = some (.file contents) := by
  refine ⟨fun hnode => ?_, h.kept here _⟩
  rcases h.gained here _ hnode with hold | ⟨hdirectory, -⟩
  · exact hold
  · cases hdirectory

theorem GainsDirectories.trans (h : t.GainsDirectories t' paths)
    (h' : t'.GainsDirectories t'' paths) : t.GainsDirectories t'' paths where
  workingDirectory := h'.workingDirectory.trans h.workingDirectory
  kept here node hnode := h'.kept here node (h.kept here node hnode)
  gained here node hnode := by
    rcases h'.gained here node hnode with hnode' | hnew
    · rcases h.gained here node hnode' with hold | ⟨hdirectory, path, hpath, hlocate⟩
      · exact .inl hold
      · exact .inr ⟨hdirectory, path, hpath, h'.grows.locate hlocate⟩
    · exact .inr hnew
  root := h'.root.trans h.root

theorem GainsDirectories.mono {paths' : List (List Char)} (h : t.GainsDirectories t' paths)
    (hpaths : ∀ path ∈ paths, path ∈ paths') : t.GainsDirectories t' paths' where
  workingDirectory := h.workingDirectory
  kept := h.kept
  gained here node hnode := by
    rcases h.gained here node hnode with hold | ⟨hdirectory, path, hpath, hlocate⟩
    · exact .inl hold
    · exact .inr ⟨hdirectory, path, hpaths path hpath, hlocate⟩
  root := h.root

theorem nodes_put_root (t : FileTree) (hne : here ≠ []) (node : Node) :
    (t.put here node).nodes[([] : Location)]? = t.nodes[([] : Location)]? := by
  simp [put, Std.ExtTreeMap.getElem?_insert, hne]

/-- A directory that was made is there. -/
private theorem makeDirectory_made (h : t.makeDirectory path = .ok t') :
    t.GainsDirectories t' [path] ∧ t'.isDirectory path = true := by
  obtain ⟨parent, name, hnew, hlong, hnone, rfl⟩ := makeDirectory_eq_ok.mp h
  have hne := parent.down_ne_nil (List.cons_ne_nil name [])
  have hgrows : t.Grows (t.put (parent.down [name]) .directory) := .put_directory hnone
  have hnode : (t.put (parent.down [name]) .directory).node? (parent.down [name]) =
      some .directory := by
    rw [node?_put _ hne, if_pos rfl]
  have hlocate := locate_of_locateNew (hgrows.locateNew hnew) hlong hnode fun _ => rfl
  refine ⟨⟨rfl, ?_, ?_, nodes_put_root t hne _⟩, isDirectory_iff.mpr ⟨_, hlocate, hnode⟩⟩
  · intro here node hold
    rw [node?_put _ hne, if_neg, hold]
    rintro rfl
    rw [hnone] at hold
    cases hold
  · intro here node hafter
    by_cases hhere : parent.down [name] = here
    · subst hhere
      rw [hnode] at hafter
      exact .inr ⟨(Option.some.inj hafter).symm, path, List.mem_singleton_self path, hlocate⟩
    · rw [node?_put _ hne, if_neg hhere] at hafter
      exact .inl hafter

theorem makeDirectories_gains (t : FileTree) (paths : List (List Char)) :
    t.GainsDirectories (t.makeDirectories paths).2 paths := by
  induction paths generalizing t with
  | nil => exact .refl t []
  | cons path above ih =>
    have hmade {t t' : FileTree} (h : t.makeDirectory path = .ok t') :
        t.GainsDirectories t' (path :: above) :=
      (makeDirectory_made h).1.mono (by simp)
    have habove := (ih t).mono fun _ => List.mem_cons_of_mem path
    rw [makeDirectories]
    split
    · rename_i hmake
      exact hmade hmake
    · split
      · rename_i hmake
        rw [hmake] at habove
        exact habove
      · rename_i hmake
        rw [hmake] at habove
        split
        · rename_i hagain
          exact habove.trans (hmade hagain)
        · split <;> exact habove
    · split <;> exact .refl t _

/-- The first of the directories is there in the end. -/
theorem isDirectory_of_makeDirectories {above : List (List Char)}
    (h : t.makeDirectories (path :: above) = (.ok (), t')) : t'.isDirectory path = true := by
  have hexists {t : FileTree} {e : IoError} (h : (if e = .fileExists ∧ t.isDirectory path = true
      then ((.ok () : Except IoError Unit), t) else (.error e, t)) = (.ok (), t')) :
      t'.isDirectory path = true := by
    split at h
    · rename_i hthere
      cases h
      exact hthere.2
    · cases h
  rw [makeDirectories] at h
  split at h
  · rename_i hmake
    cases h
    exact (makeDirectory_made hmake).2
  · split at h
    · cases h
    · split at h
      · rename_i hagain
        cases h
        exact (makeDirectory_made hagain).2
      · exact hexists h
  · exact hexists h

/-- What was made once is not made again. -/
theorem makeDirectories_again {u : FileTree} (h : t.makeDirectories paths = (.ok (), t'))
    (hgrows : t'.Grows u) : u.makeDirectories paths = (.ok (), u) := by
  cases paths with
  | nil => rfl
  | cons path above =>
    have hthere := hgrows.isDirectory (isDirectory_of_makeDirectories h)
    rw [makeDirectories, makeDirectory_of_isDirectory hthere]
    simp [hthere]

theorem createFile_made {t' : FileTree} (h : t.createFile path = .ok (here, t')) :
    t.node? here ≠ some .directory ∧ t' = t.put here (.file []) ∧ t'.locate path = .ok here := by
  obtain ⟨parent, name, hnew, hslash, hlong, hnode, rfl, rfl⟩ := createFile_eq_ok.mp h
  refine ⟨hnode, rfl, ?_⟩
  have hfile : (t.put (parent.down [name]) (.file [])).node? (parent.down [name]) =
      some (.file []) := by
    rw [node?_put _ (ne_nil_of_not_directory hnode), if_pos rfl]
  exact locate_of_locateNew ((Grows.put_file hnode []).locateNew hnew) hlong hfile
    fun hend => absurd hend hslash

private theorem createFile_again {u : FileTree} (h : t.createFile path = .ok (here, t'))
    (hgrows : t'.Grows u) : u.createFile path = .ok (here, u.put here (.file [])) := by
  obtain ⟨parent, name, hnew, hslash, hlong, hnode, rfl, rfl⟩ := createFile_eq_ok.mp h
  have hgrows' := (Grows.put_file hnode []).trans hgrows
  refine createFile_eq_ok.mpr ⟨parent, name, hgrows'.locateNew hnew, hslash, hlong, ?_, rfl, rfl⟩
  obtain ⟨contents, hfile⟩ := hgrows.file (parent.down [name]) [] (by
    rw [node?_put _ (ne_nil_of_not_directory hnode), if_pos rfl])
  rw [hfile]
  nofun

/-- What comes of opening a file: an error, or an empty file after the directories above it. -/
inductive Opened (t : FileTree) (path : List Char) :
    Except IoError Location × FileTree → Prop where
  | error (e : IoError) (t' : FileTree) :
    t.GainsDirectories t' (Path.ancestors path).tail → Opened t path (.error e, t')
  | ok (here : Location) (t' : FileTree) :
    t.makeDirectories (Path.ancestors path).tail = (.ok (), t') →
    t'.createFile path = .ok (here, t'.put here (.file [])) →
    Opened t path (.ok here, t'.put here (.file []))

theorem opened_createFileWithParents (t : FileTree) (path : List Char) :
    t.Opened path (t.createFileWithParents path) := by
  have hgains := t.makeDirectories_gains (Path.ancestors path).tail
  rw [createFileWithParents]
  split
  · rename_i hmake
    rw [hmake] at hgains
    exact .error _ _ hgains
  · rename_i t₁ hmake
    split
    · rename_i here t₂ hcreate
      obtain rfl := (createFile_made hcreate).2.1
      exact .ok here t₁ hmake hcreate
    · rw [hmake] at hgains
      exact .error _ _ hgains

theorem grows_createFileWithParents (t : FileTree) (path : List Char) :
    t.Grows (t.createFileWithParents path).2 := by
  have hgains := t.makeDirectories_gains (Path.ancestors path).tail
  have hopened := t.opened_createFileWithParents path
  generalize t.createFileWithParents path = opened at *
  cases hopened with
  | error e t' hgains => exact hgains.grows
  | ok here t' hmake hcreate =>
    rw [hmake] at hgains
    exact hgains.grows.trans (.put_file (createFile_made hcreate).1 [])

/-- What is there after an opening was there before, is the file that was opened, or is a directory
above it. -/
theorem node_of_createFileWithParents {node : Node}
    (h : (t.createFileWithParents path).2.node? here = some node) :
    t.node? here = some node ∨ (t.createFileWithParents path).1 = .ok here ∨
      node = .directory ∧ ∃ above ∈ (Path.ancestors path).tail,
        (t.createFileWithParents path).2.locate above = .ok here := by
  have hopened := t.opened_createFileWithParents path
  generalize t.createFileWithParents path = opened at *
  cases hopened with
  | error e t' hgains => exact (hgains.gained here node h).imp_right .inr
  | ok there t' hmake hcreate =>
    have hthere := (createFile_made hcreate).1
    have hgains := t.makeDirectories_gains (Path.ancestors path).tail
    rw [hmake] at hgains
    dsimp only at h
    rw [node?_put _ (ne_nil_of_not_directory hthere)] at h
    split at h
    · rename_i heq
      exact .inr (.inl (congrArg Except.ok heq))
    · rcases hgains.gained here node h with hold | ⟨hdirectory, above, habove, hlocate⟩
      · exact .inl hold
      · exact .inr (.inr ⟨hdirectory, above, habove, (Grows.put_file hthere []).locate hlocate⟩)

theorem locate_of_createFileWithParents (h : (t.createFileWithParents path).1 = .ok here) :
    (t.createFileWithParents path).2.locate path = .ok here := by
  have hopened := t.opened_createFileWithParents path
  generalize t.createFileWithParents path = opened at *
  cases hopened with
  | error e t' hgains => cases h
  | ok there t' hmake hcreate =>
    cases h
    exact (createFile_made hcreate).2.2

/-- A file that was opened once is opened again at the same place. -/
theorem createFileWithParents_again {u : FileTree}
    (h : t.createFileWithParents path = (.ok here, t')) (hgrows : t'.Grows u) :
    u.createFileWithParents path = (.ok here, u.put here (.file [])) := by
  have hopened := t.opened_createFileWithParents path
  rw [h] at hopened
  cases hopened with
  | ok _ t₁ hmake hcreate =>
    have hgrows₁ : t₁.Grows u := (Grows.put_file (createFile_made hcreate).1 []).trans hgrows
    rw [createFileWithParents, makeDirectories_again hmake hgrows₁]
    dsimp only
    rw [createFile_again hcreate hgrows]

end PluginWrapper.FileTree
