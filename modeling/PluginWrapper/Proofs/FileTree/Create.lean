import PluginWrapper.Proofs.FileTree.Lookup

/-! Making a file below a directory that exists, and looking it up again. -/
namespace PluginWrapper.FileTree

/-- The path is that of a directory. -/
structure Roots (t : FileTree) (root : List Char) (here : Location) : Prop where
  ne_nil : root ≠ []
  no_nul : '\x00' ∉ root
  walk : t.walk (t.start root) (Path.names root) = .ok here
  directory : t.node? here = some .directory

/-- The names lead down, and neither they nor their path are too long. -/
structure Fits (root : List Char) (names : List (List Char)) : Prop where
  path : (Bytes.ofString (String.ofList (Path.pushAll root names))).length < maxPathBytes
  descends : ∀ name ∈ names, Path.Descends name
  name : ∀ name ∈ names, isTooLong name = false

/-- Nothing but directories is in the way. -/
def IsClear (t : FileTree) (here : Location) (names : List (List Char)) : Prop :=
  ∀ level ∈ here.levels names, t.node? level = none ∨ t.node? level = some .directory

variable {t : FileTree} {root : List Char} {here : Location} {names : List (List Char)}
  {name : List Char}

theorem roots_of_locate (h : t.locate root = .ok here)
    (hdirectory : t.node? here = some .directory) : Roots t root here := by
  obtain ⟨herror, hwalk, -⟩ := locate_eq_ok.mp h
  obtain ⟨hnul, hne, -⟩ := pathError?_eq_none.mp herror
  exact ⟨hne, hnul, hwalk, hdirectory⟩

theorem Roots.of_subset {t' : FileTree} (h : Roots t root here)
    (hstart : t'.workingDirectory = t.workingDirectory)
    (hsubset : ∀ location node, t.node? location = some node → t'.node? location = some node) :
    Roots t' root here where
  ne_nil := h.ne_nil
  no_nul := h.no_nul
  walk := by
    have hwalk := walk_of_subset hsubset h.walk
    rwa [start, ← hstart] at hwalk
  directory := hsubset here _ h.directory

/-- The end of a walk is not looked at. -/
private theorem walk_step {node : Node} (hdirectory : t.node? here = some .directory)
    (hname : Path.Descends name) (hlong : isTooLong name = false)
    (hnode : t.node? (here.down [name]) = some node) :
    t.walk here [name] = .ok (here.down [name]) :=
  walk_cons_ok.mpr
    ⟨hdirectory, .inr (.inr ⟨hname.ne_dot, hname.ne_dots, hlong, ⟨node, hnode⟩, rfl⟩)⟩

private theorem walk_down (hdirectory : t.node? here = some .directory)
    (hname : ∀ name ∈ names, Path.Descends name) (hlong : ∀ name ∈ names, isTooLong name = false)
    (hlevels : ∀ level ∈ here.levels names, t.node? level = some .directory) :
    t.walk here names = .ok (here.down names) ∧ t.node? (here.down names) = some .directory := by
  induction names generalizing here with
  | nil => exact ⟨by simp [walk], by simpa using hdirectory⟩
  | cons name names ih =>
    have hfirst := hlevels _ List.mem_cons_self
    obtain ⟨hwalk, hend⟩ := ih hfirst (fun x hx => hname x (List.mem_cons_of_mem name hx))
      (fun x hx => hlong x (List.mem_cons_of_mem name hx))
      fun level hlevel => hlevels level (List.mem_cons_of_mem _ hlevel)
    have hstep := walk_step hdirectory (hname name List.mem_cons_self)
      (hlong name List.mem_cons_self) hfirst
    have happend := walk_append_of_ok hstep names
    rw [List.singleton_append, hwalk, ← Location.down_append] at happend
    rw [← Location.down_append] at hend
    exact ⟨happend, hend⟩

/-- On a clear way a walk arrives or something is still missing. -/
theorem walk_of_isClear (hdirectory : t.node? here = some .directory)
    (hname : ∀ name ∈ names, Path.Descends name) (hlong : ∀ name ∈ names, isTooLong name = false)
    (hclear : t.IsClear here names) :
    (∀ level ∈ here.levels names, t.node? level = some .directory) ∨
      t.walk here names = .error .noSuchFile := by
  induction names generalizing here with
  | nil => exact .inl fun level hlevel => absurd hlevel List.not_mem_nil
  | cons name names ih =>
    have hdescends := hname name List.mem_cons_self
    rcases hclear _ List.mem_cons_self with hnone | hfirst
    · right
      rw [Location.down, List.map_singleton] at hnone
      rw [walk, if_neg (Decidable.not_not.mpr hdirectory), if_neg hdescends.ne_dot,
        if_neg hdescends.ne_dots, if_neg (by simp [hlong name List.mem_cons_self]), hnone]
      rfl
    · rcases ih hfirst (fun x hx => hname x (List.mem_cons_of_mem name hx))
        (fun x hx => hlong x (List.mem_cons_of_mem name hx))
        (fun level hlevel => hclear level (List.mem_cons_of_mem _ hlevel)) with hall | herror
      · left
        intro level hlevel
        rcases List.mem_cons.mp hlevel with rfl | hlevel
        · exact hfirst
        · exact hall level hlevel
      · right
        have hstep := walk_step hdirectory hdescends (hlong name List.mem_cons_self) hfirst
        exact (walk_append_of_ok hstep names).trans herror

private theorem byteLength_mono {first second : List Char} (h : first <+: second) :
    (Bytes.ofString (String.ofList first)).length ≤
      (Bytes.ofString (String.ofList second)).length := by
  obtain ⟨rest, rfl⟩ := h
  simp [Bytes.ofString]

private theorem Fits.front {rest : List (List Char)} (hne : root ≠ [])
    (h : Fits root (names ++ rest)) :
    Fits root names where
  path := by
    have hnames (name : List Char) (hname : name ∈ names) : Path.Descends name :=
      h.descends name (List.mem_append_left rest hname)
    have hpre := Path.prefix_pushAll (Path.pushAll_ne_nil hne hnames) fun name hname =>
      h.descends name (List.mem_append_right names hname)
    rw [← Path.pushAll_append] at hpre
    exact Nat.lt_of_le_of_lt (byteLength_mono hpre) h.path
  descends name hname := h.descends name (List.mem_append_left rest hname)
  name name hname := h.name name (List.mem_append_left rest hname)

private theorem pathError?_pushAll (hroots : Roots t root here) (hfits : Fits root names) :
    pathError? (Path.pushAll root names) = none :=
  pathError?_eq_none.mpr ⟨Path.nul_not_mem_pushAll hroots.no_nul hfits.descends,
    Path.pushAll_ne_nil hroots.ne_nil hfits.descends, hfits.path⟩

private theorem start_pushAll (t : FileTree) (hfits : Fits root names) :
    t.start (Path.pushAll root names) = t.start root := by
  rw [start, start,
    Path.isAbsolute_pushAll fun name hname => (hfits.descends name hname).isAbsolute]

private theorem walk_pushAll (hroots : Roots t root here) (names : List (List Char)) :
    t.walk (t.start root) (Path.names root ++ names) = t.walk here names :=
  walk_append_of_ok hroots.walk names

private theorem locateNew_pushAll (hroots : Roots t root here)
    (hfits : Fits root (names ++ [name])) :
    t.locateNew (Path.pushAll root (names ++ [name])) = (do
      let parent ← t.walk here names
      if t.node? parent ≠ some .directory then throw .notDirectory
      pure (parent, some name)) := by
  have hname := hfits.descends name (by simp)
  rw [locateNew, pathError?_pushAll hroots hfits, start_pushAll t hfits,
    Path.names_pushAll_of_descends hfits.descends, ← List.append_assoc]
  dsimp only
  rw [List.dropLast_concat, List.getLast?_concat, walk_pushAll hroots]
  simp only [hname.ne_dot, hname.ne_dots, or_self, if_false]

theorem locate_pushAll {node : Node} (hroots : Roots t root here)
    (hfits : Fits root (names ++ [name]))
    (hlevels : ∀ level ∈ here.levels names, t.node? level = some .directory)
    (hnode : t.node? (here.down (names ++ [name])) = some node) :
    t.locate (Path.pushAll root (names ++ [name])) = .ok (here.down (names ++ [name])) := by
  have hname := hfits.descends name (by simp)
  have hfront := hfits.front hroots.ne_nil
  obtain ⟨hwalk, hend⟩ := walk_down hroots.directory hfront.descends hfront.name hlevels
  rw [Location.down_append] at hnode ⊢
  have hstep := walk_step hend hname (hfits.name name (by simp)) hnode
  have hslash := Path.getLast?_pushAll_concat hroots.ne_nil hfits.descends
  refine locate_eq_ok.mpr ⟨pathError?_pushAll hroots hfits, ?_, fun hend => absurd hend hslash⟩
  rw [start_pushAll t hfits, Path.names_pushAll_of_descends hfits.descends, walk_pushAll hroots,
    walk_append_of_ok hwalk, hstep]

private theorem locateNew_of_levels (hroots : Roots t root here)
    (hfits : Fits root (names ++ [name]))
    (hlevels : ∀ level ∈ here.levels names, t.node? level = some .directory) :
    t.locateNew (Path.pushAll root (names ++ [name])) = .ok (here.down names, some name) := by
  have hfront := hfits.front hroots.ne_nil
  obtain ⟨hwalk, hend⟩ := walk_down hroots.directory hfront.descends hfront.name hlevels
  rw [locateNew_pushAll hroots hfits, hwalk]
  simp [bind, Except.bind, pure, Except.pure, hend]

/-- The last directory of a way is made, or it is there already. -/
private theorem makeDirectory_cases (hroots : Roots t root here)
    (hfits : Fits root (names ++ [name]))
    (hlevels : ∀ level ∈ here.levels names, t.node? level = some .directory)
    (hlast : t.node? (here.down (names ++ [name])) = none ∨
      t.node? (here.down (names ++ [name])) = some .directory) :
    t.makeDirectory (Path.pushAll root (names ++ [name])) =
        .ok (t.makeWay here (names ++ [name])) ∨
      t.makeDirectory (Path.pushAll root (names ++ [name])) = .error .fileExists ∧
        t.isDirectory (Path.pushAll root (names ++ [name])) ∧
        t.makeWay here (names ++ [name]) = t := by
  have hnew := locateNew_of_levels hroots hfits hlevels
  have hway : t.makeWay here (names ++ [name]) =
      t.put (here.down (names ++ [name])) .directory := by
    rw [makeWay_concat, makeWay_eq_self hlevels]
  rcases hlast with hnone | hdirectory
  · left
    rw [hway]
    rw [Location.down_append] at hnone ⊢
    exact makeDirectory_eq_ok.mpr
      ⟨here.down names, name, hnew, hfits.name name (by simp), hnone, rfl⟩
  · right
    have hlocate := locate_pushAll hroots hfits hlevels hdirectory
    have hthere := isDirectory_iff.mpr ⟨_, hlocate, hdirectory⟩
    refine ⟨makeDirectory_of_isDirectory hthere, hthere, ?_⟩
    rw [hway]
    exact put_of_node? (here.down_ne_nil (by simp)) hdirectory

private theorem makeDirectory_missing (hroots : Roots t root here)
    (hfits : Fits root (names ++ [name])) (h : t.walk here names = .error .noSuchFile) :
    t.makeDirectory (Path.pushAll root (names ++ [name])) = .error .noSuchFile := by
  rw [makeDirectory, locateNew_pushAll hroots hfits, h]
  rfl

private theorem subset_makeWay (hclear : t.IsClear here names) (location : Location) (node : Node)
    (h : t.node? location = some node) : (t.makeWay here names).node? location = some node := by
  rw [node?_makeWay]
  split
  · rename_i hlevel
    rcases hclear location hlevel with hnone | hdirectory
    · rw [hnone] at h
      cases h
    · rw [← h, hdirectory]
  · exact h

private theorem IsClear.front {rest : List (List Char)} (h : t.IsClear here (names ++ rest)) :
    t.IsClear here names := by
  intro level hlevel
  obtain ⟨front, hne, hfront, rfl⟩ := Location.mem_levels.mp hlevel
  have hlonger := hfront.trans (List.prefix_append names rest)
  exact h _ (Location.mem_levels.mpr ⟨front, hne, hlonger, rfl⟩)

/-- Every directory of a clear way exists afterwards, and nothing else was made. -/
theorem makeDirectories_ancestors (hroots : Roots t root here) (hfits : Fits root names)
    (hclear : t.IsClear here names) (hne : names ≠ []) :
    t.makeDirectories (Path.ancestors (Path.pushAll root names)) =
      (.ok (), t.makeWay here names) := by
  induction names using List.reverseRecOn with
  | nil => exact absurd rfl hne
  | append_singleton names name ih =>
    have hfront := hfits.front hroots.ne_nil
    have hlast := hclear (here.down (names ++ [name])) (by simp [Location.levels_concat])
    rw [Path.ancestors_pushAll_concat hroots.ne_nil hfits.descends, makeDirectories]
    rcases walk_of_isClear hroots.directory hfront.descends hfront.name hclear.front with
      hlevels | hmissing
    · rcases makeDirectory_cases hroots hfits hlevels hlast with hmade | ⟨hexists, hthere, hway⟩
      · rw [hmade]
      · rw [hexists]
        simp [hthere, hway]
    · have hnames : names ≠ [] := by
        rintro rfl
        cases hmissing
      have hlevels := t.node?_level_makeWay here names
      have hroots' := hroots.of_subset (makeWay_workingDirectory t here names)
        (subset_makeWay hclear.front)
      have hlast' : (t.makeWay here names).node? (here.down (names ++ [name])) = none ∨
          (t.makeWay here names).node? (here.down (names ++ [name])) = some .directory := by
        rw [node?_makeWay]
        split
        · exact .inr rfl
        · exact hlast
      have hagain : (t.makeWay here names).makeWay here (names ++ [name]) =
          t.makeWay here (names ++ [name]) := by
        rw [makeWay_concat, makeWay_eq_self hlevels, makeWay_concat]
      rw [makeDirectory_missing hroots hfits hmissing, ih hfront hclear.front hnames]
      rcases makeDirectory_cases hroots' hfits hlevels hlast' with hmade | ⟨hexists, hthere, hway⟩
      · simp [hmade, hagain]
      · simp [hexists, hthere, ← hagain, hway]

private theorem createFile_pushAll (hroots : Roots t root here)
    (hfits : Fits root (names ++ [name]))
    (hlevels : ∀ level ∈ here.levels names, t.node? level = some .directory)
    (hfile : t.node? (here.down (names ++ [name])) ≠ some .directory) :
    t.createFile (Path.pushAll root (names ++ [name])) =
      .ok (here.down (names ++ [name]), t.put (here.down (names ++ [name])) (.file [])) := by
  have hslash := Path.getLast?_pushAll_concat hroots.ne_nil hfits.descends
  have hnew := locateNew_of_levels hroots hfits hlevels
  rw [Location.down_append] at hfile ⊢
  exact createFile_eq_ok.mpr
    ⟨here.down names, name, hnew, hslash, hfits.name name (by simp), hfile, rfl, rfl⟩

/-- The file of a route is made, and the directories that are missing on the way to it. -/
theorem createFileWithParents_pushAll (hroots : Roots t root here)
    (hfits : Fits root (names ++ [name])) (hne : names ≠ []) (hclear : t.IsClear here names)
    (hfile : t.node? (here.down (names ++ [name])) ≠ some .directory) :
    t.createFileWithParents (Path.pushAll root (names ++ [name])) =
      (.ok (here.down (names ++ [name])), t.plant here (names ++ [name]) []) := by
  have hfront := hfits.front hroots.ne_nil
  have hroots' := hroots.of_subset (makeWay_workingDirectory t here names) (subset_makeWay hclear)
  have hlevels := t.node?_level_makeWay here names
  have hfile' : (t.makeWay here names).node? (here.down (names ++ [name])) ≠ some .directory := by
    rw [node?_makeWay, if_neg (Location.down_concat_not_mem_levels here names name)]
    exact hfile
  rw [createFileWithParents, Path.ancestors_pushAll_concat hroots.ne_nil hfits.descends,
    List.tail_cons, makeDirectories_ancestors hroots hfront hclear hne]
  dsimp only
  rw [createFile_pushAll hroots' hfits hlevels hfile', plant, List.dropLast_concat]

end PluginWrapper.FileTree
