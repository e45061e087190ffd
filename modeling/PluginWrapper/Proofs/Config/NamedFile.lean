import PluginWrapper.Config
import PluginWrapper.Proofs.FileTree.Create

/-! Configurations from a file that is named. Where the path leads to a file, the text of that file
and the environment make up the configuration, and no other file has a part in it. -/
namespace PluginWrapper.Config

/-- The configuration of a text over the defaults and below the environment. Errors show the text
under the given name. -/
def layered (shown : String) (env : Environment) (text : String) : Except Error Config :=
  match Toml.read? text with
  | none => .error (.malformed shown)
  | some fields =>
    if Setting.isReadable fields then do
      let document := Setting.ofDocument (.file shown) fields
      let draft ← (ConfigDraft.ofSetting (document.overlay env.layer)).mapError .fault
      let level ← checkLevel draft.logging.level
      pure ⟨level, draft.logging.format, draft.options.insertAll env.options⟩
    else .error (.malformed shown)

def rooted (here : Location) (path : String) : List Char :=
  Path.push here.path path.toList

private theorem head?_candidates (here : Location) (path : String) :
    (candidates here path).head? = some (rooted here path) := by
  rw [candidates, rooted]
  split
  · rename_i habsolute
    rw [Path.push, if_pos habsolute, List.head?_cons]
  · rw [List.range_succ, List.reverse_append, List.reverse_singleton, List.singleton_append,
      List.map_cons, List.head?_cons, List.take_length]

/-- The working directory is where its path leads, and the path from the root is not too long. -/
structure Stands (tree : FileTree) (path : String) : Prop where
  roots : tree.Roots tree.workingDirectory.path tree.workingDirectory
  short : (Bytes.ofString (String.ofList (rooted tree.workingDirectory path))).length <
    FileTree.maxPathBytes

variable {tree : FileTree} {path : String} {here : Location}

private theorem getLast?_rooted (h : path.toList ≠ []) (wd : Location) :
    (rooted wd path).getLast? = path.toList.getLast? := by
  have hlast := List.getLast?_eq_some_getLast h
  rw [rooted, Path.push]
  split_ifs
  · rfl
  · rw [List.getLast?_append, hlast, Option.some_or]
  · rw [List.getLast?_append, List.getLast?_cons_of_ne_nil h, hlast, Option.some_or]

/-- From the root a path leads to the same place. -/
theorem locate_rooted (hstands : Stands tree path) (h : tree.locate path.toList = .ok here) :
    tree.locate (rooted tree.workingDirectory path) = .ok here := by
  obtain ⟨herror, hwalk, hslash⟩ := FileTree.locate_eq_ok.mp h
  obtain ⟨hnul, hne, -⟩ := FileTree.pathError?_eq_none.mp herror
  by_cases habsolute : Path.isAbsolute path.toList
  · rwa [rooted, Path.push, if_pos habsolute]
  · rw [Bool.not_eq_true] at habsolute
    have hroot : Path.isAbsolute tree.workingDirectory.path = true := rfl
    refine FileTree.locate_eq_ok.mpr ⟨FileTree.pathError?_eq_none.mpr
      ⟨Path.nul_not_mem_push hstands.roots.no_nul hnul,
        Path.push_ne_nil hstands.roots.ne_nil habsolute, hstands.short⟩, ?_, ?_⟩
    · have hstart := hstands.roots.walk
      rw [FileTree.start, if_pos hroot] at hstart
      rw [FileTree.start, habsolute, if_neg Bool.false_ne_true] at hwalk
      rw [FileTree.start, rooted, Path.isAbsolute_push habsolute, if_pos hroot,
        Path.names_push habsolute, FileTree.walk_append_of_ok hstart, hwalk]
    · rwa [getLast?_rooted hne]

/-- The file that a path leads to is the first that is found when it is looked for. -/
theorem find?_candidates (hstands : Stands tree path) (h : tree.isFile path.toList = true) :
    (candidates tree.workingDirectory path).find? tree.isFile =
      some (rooted tree.workingDirectory path) := by
  obtain ⟨here, contents, hlocate, hnode⟩ := FileTree.isFile_iff.mp h
  have hfirst : tree.isFile (rooted tree.workingDirectory path) = true :=
    FileTree.isFile_iff.mpr ⟨here, contents, locate_rooted hstands hlocate, hnode⟩
  obtain ⟨rest, hrest⟩ := List.head?_eq_some_iff.mp (head?_candidates tree.workingDirectory path)
  rw [hrest, List.find?_cons_of_pos hfirst]

def shown (here : Location) (path : String) : String :=
  String.ofList (shownPath here (rooted here path))

private theorem load_eq_layered (hstands : Stands tree path) (h : tree.isFile path.toList = true)
    (env : Environment) : load tree env (some path) =
      (tree.readFile path.toList).mapError (.unreadable (shown tree.workingDirectory path)) >>=
        layered (shown tree.workingDirectory path) env := by
  obtain ⟨here, contents, hlocate, -⟩ := FileTree.isFile_iff.mp h
  have hpath : tree.hasPath path.toList = true := by rw [FileTree.hasPath, hlocate]
  have hread : tree.readFile (rooted tree.workingDirectory path) = tree.readFile path.toList := by
    rw [FileTree.readFile, FileTree.readFile, locate_rooted hstands hlocate, hlocate]
  rw [load, baseLayer, if_pos hpath, fileLayer, find?_candidates hstands h]
  dsimp only
  rw [hread, ← shown]
  cases tree.readFile path.toList with
  | error e => rfl
  | ok text =>
    simp only [Except.mapError, bind, Except.bind, layered]
    cases Toml.read? text with
    | none => rfl
    | some fields => by_cases hreadable : Setting.isReadable fields <;> simp [hreadable]

private theorem load_of_not_hasPath (h : tree.hasPath path.toList = false) (env : Environment) :
    load tree env (some path) = .error (.fileNotFound path) := by
  rw [load, baseLayer, h]
  rfl

/-- Where a path leads to a file or nowhere, a configuration is loaded from it only if it leads to a
readable file, and then is that of the text in this file. A tree that has the same file there gives
the same result, whatever else is in it. -/
theorem load_named_file (hstands : Stands tree path)
    (hfile : tree.hasPath path.toList = true → tree.isFile path.toList = true)
    (env : Environment) :
    (∀ c, load tree env (some path) = .ok c ↔
      ∃ here contents text, tree.locate path.toList = .ok here ∧
        tree.node? here = some (.file contents) ∧ Bytes.toString? contents = some text ∧
        layered (shown tree.workingDirectory path) env text = .ok c) ∧
    (tree.hasPath path.toList = false →
      load tree env (some path) = .error (.fileNotFound path)) ∧
    ∀ tree' here, tree'.workingDirectory = tree.workingDirectory → Stands tree' path →
      tree.locate path.toList = .ok here → tree'.locate path.toList = .ok here →
      tree'.node? here = tree.node? here →
      load tree' env (some path) = load tree env (some path) := by
  refine ⟨fun c => ?_, fun h => load_of_not_hasPath h env, ?_⟩
  · cases hpath : tree.hasPath path.toList with
    | false =>
      rw [load_of_not_hasPath hpath]
      refine ⟨nofun, ?_⟩
      rintro ⟨here, contents, text, hlocate, -⟩
      rw [FileTree.hasPath, hlocate] at hpath
      cases hpath
    | true =>
      rw [load_eq_layered hstands (hfile hpath), bind_eq_ok]
      simp only [mapError_eq_ok, FileTree.readFile_eq_ok]
      constructor
      · rintro ⟨text, ⟨here, contents, hlocate, hnode, htext⟩, hlayered⟩
        exact ⟨here, contents, text, hlocate, hnode, htext, hlayered⟩
      · rintro ⟨here, contents, text, hlocate, hnode, htext, hlayered⟩
        exact ⟨text, ⟨here, contents, hlocate, hnode, htext⟩, hlayered⟩
  · intro tree' here hworking hstands' hlocate hlocate' hnode
    have hpath : tree.hasPath path.toList = true := by rw [FileTree.hasPath, hlocate]
    obtain ⟨there, contents, hthere, hcontents⟩ := FileTree.isFile_iff.mp (hfile hpath)
    obtain rfl := Except.ok.inj (hlocate.symm.trans hthere)
    have hfile' : tree'.isFile path.toList = true :=
      FileTree.isFile_iff.mpr ⟨here, contents, hlocate', hnode.trans hcontents⟩
    have hread : tree'.readFile path.toList = tree.readFile path.toList := by
      rw [FileTree.readFile_of_locate hlocate' (hnode.trans hcontents),
        FileTree.readFile_of_locate hlocate hcontents]
    rw [load_eq_layered hstands' hfile', load_eq_layered hstands (hfile hpath), hread, hworking]

private def teamText : String := "[options]\n\"cubeengine.module.team\" = \"File\"\n"

/-- A file named `conf` in the working directory, and one of that name above it. -/
private def twoFiles : FileTree :=
  ((FileTree.inside ["work"]).put ["work", "conf"] (.file (Bytes.ofString teamText))).put ["conf"]
    (.file (Bytes.ofString "[logging]\nlevel = \"warn\"\n"))

private theorem stands_twoFiles : Stands twoFiles "conf" :=
  ⟨⟨by decide, by decide, by decide +kernel, by decide +kernel⟩, by decide +kernel⟩

/-- The file in the working directory is read, and the one above it has no part in that. -/
theorem load_named_file_team :
    Stands twoFiles "conf" ∧
    (twoFiles.hasPath "conf".toList = true → twoFiles.isFile "conf".toList = true) ∧
    ∃ c, load twoFiles [] (some "conf") = .ok c ∧ c.level = .info ∧
      c.options.get? "cubeengine.module.team" = some "File" := by
  have hfile : twoFiles.hasPath "conf".toList = true → twoFiles.isFile "conf".toList = true :=
    fun _ => by decide +kernel
  have hlayered : (layered (shown ["work"] "conf") [] teamText).toOption.map
      (fun c => (c.level, c.options.get? "cubeengine.module.team")) =
        some (.info, some "File") := by
    decide +kernel
  obtain ⟨c, hc, hboth⟩ := Option.map_eq_some_iff.mp hlayered
  obtain ⟨hlevel, hteam⟩ := Prod.mk.inj hboth
  refine ⟨stands_twoFiles, hfile, c, ?_, hlevel, hteam⟩
  exact ((load_named_file stands_twoFiles hfile []).1 c).mpr ⟨["work", "conf"],
    Bytes.ofString teamText, teamText, by decide +kernel, by decide +kernel,
    Bytes.toString?_ofString teamText, toOption_eq_some.mp hc⟩

private def directoryOnly : FileTree := (FileTree.inside ["work"]).put ["work", "conf"] .directory

/-- Where the path leads to a directory, the defaults are loaded, or what a file of that name
further up sets. -/
theorem load_named_directory :
    let above := directoryOnly.put ["conf"] (.file (Bytes.ofString "[logging]\nlevel = \"warn\"\n"))
    (directoryOnly.isFile "conf".toList = false ∧
      ∃ c, load directoryOnly [] (some "conf") = .ok c ∧ c.level = .info ∧ c.options.isEmpty) ∧
    above.isFile "conf".toList = false ∧
      ∃ c, load above [] (some "conf") = .ok c ∧ c.level = .warn := by
  intro above
  have hdefault : (load directoryOnly [] (some "conf")).toOption.map
      (fun c => (c.level, c.options.isEmpty)) = some (.info, true) := by decide +kernel
  have habove : (load above [] (some "conf")).toOption.map (·.level) = some .warn := by
    decide +kernel
  obtain ⟨c, hc, hboth⟩ := Option.map_eq_some_iff.mp hdefault
  obtain ⟨hlevel, hempty⟩ := Prod.mk.inj hboth
  obtain ⟨c', hc', hwarn⟩ := Option.map_eq_some_iff.mp habove
  exact ⟨⟨by decide +kernel, c, toOption_eq_some.mp hc, hlevel, hempty⟩, by decide +kernel, c',
    toOption_eq_some.mp hc', hwarn⟩

end PluginWrapper.Config
