import PluginWrapper.Proofs.Round.Memory
import PluginWrapper.Proofs.Sink.Directory

/-! A round into an empty directory leaves below it what it leaves in an empty memory, one file for
each slot. -/
namespace PluginWrapper.Round
open Declaration Directory FileTree

/-- The tree holds a file for each slot of the memory, below what was an empty directory, and
nothing else is different from before. -/
structure Mirrors (options : OptionTable) (root : List Char) (before : FileTree) (here : Location)
    (t : FileTree) (m : Memory) : Prop where
  workingDirectory : t.workingDirectory = before.workingDirectory
  outside : ∀ location, ¬ (∃ names, names ≠ [] ∧ location = here.down names) →
    t.node? location = before.node? location
  artifact : ∀ slot bytes, m.contents? slot = some bytes → IsArtifact options slot
  fits : ∀ slot bytes, m.contents? slot = some bytes → Fits root (route slot)
  file : ∀ slot bytes, m.contents? slot = some bytes →
    t.node? (here.down (route slot)) = some (.file bytes)
  way : ∀ slot bytes, m.contents? slot = some bytes →
    ∀ level ∈ here.levels (route slot).dropLast, t.node? level = some .directory
  only : ∀ names node, names ≠ [] → t.node? (here.down names) = some node →
    ∃ slot bytes, m.contents? slot = some bytes ∧ names <+: route slot

variable {options : OptionTable} {before t : FileTree} {root : List Char} {here : Location}
  {m : Memory} {slot : Memory.Slot} {bytes : Bytes}

private theorem route_ne_nil (h : IsArtifact options slot) : route slot ≠ [] := by
  obtain ⟨names, name, hroute, -⟩ := exists_route h
  simp [hroute]

/-- What stands at or above the file of a slot is the file or a directory on the way. -/
private theorem prefix_route {names : List (List Char)} (h : IsArtifact options slot)
    (hne : names ≠ []) (hpre : names <+: route slot) :
    names = route slot ∨ here.down names ∈ here.levels (route slot).dropLast := by
  obtain ⟨front, name, hroute, -⟩ := exists_route h
  rw [hroute] at hpre ⊢
  rw [List.dropLast_concat]
  rcases List.prefix_concat_iff.mp hpre with heq | hpre
  · exact .inl heq
  · exact .inr (Location.mem_levels.mpr ⟨names, hne, hpre, rfl⟩)

private theorem route_not_on_way {other : Memory.Slot} (h : IsArtifact options slot)
    (hother : IsArtifact options other) :
    here.down (route slot) ∉ here.levels (route other).dropLast := by
  intro hmem
  obtain ⟨front, hne, hpre, heq⟩ := Location.mem_levels.mp hmem
  rw [← Location.down_inj.mp heq] at hpre
  obtain rfl := eq_of_prefix_route h hother (hpre.trans (List.dropLast_prefix _))
  obtain ⟨names, name, hroute, -⟩ := exists_route h
  rw [hroute, List.dropLast_concat] at hmem
  exact here.down_concat_not_mem_levels names name hmem

private theorem Mirrors.put (h : Mirrors options root before here t m)
    (hslot : IsArtifact options slot) (hfits : Fits root (route slot)) (bytes : Bytes) :
    Mirrors options root before here (t.plant here (route slot) bytes) (m.put slot bytes) where
  workingDirectory := by
    rw [plant, FileTree.put, makeWay_workingDirectory, h.workingDirectory]
  outside location hlocation := by
    have hfile : here.down (route slot) ≠ location := fun heq =>
      hlocation ⟨route slot, route_ne_nil hslot, heq.symm⟩
    have hlevel : location ∉ here.levels (route slot).dropLast := fun hmem => by
      obtain ⟨front, hne, -, heq⟩ := Location.mem_levels.mp hmem
      exact hlocation ⟨front, hne, heq⟩
    rw [node?_plant _ _ (route_ne_nil hslot), if_neg hfile, if_neg hlevel, h.outside _ hlocation]
  artifact other contents hother := by
    rcases Memory.contents?_put_eq_some.mp hother with ⟨rfl, -⟩ | ⟨-, hother⟩
    · exact hslot
    · exact h.artifact other contents hother
  fits other contents hother := by
    rcases Memory.contents?_put_eq_some.mp hother with ⟨rfl, -⟩ | ⟨-, hother⟩
    · exact hfits
    · exact h.fits other contents hother
  file other contents hother := by
    rw [node?_plant _ _ (route_ne_nil hslot)]
    rcases Memory.contents?_put_eq_some.mp hother with ⟨rfl, rfl⟩ | ⟨hne, hother⟩
    · rw [if_pos rfl]
    · have hartifact := h.artifact other contents hother
      have hfile : here.down (route slot) ≠ here.down (route other) := fun heq =>
        hne (eq_of_prefix_route hslot hartifact (Location.down_inj.mp heq ▸ List.prefix_refl _))
      rw [if_neg hfile, if_neg (route_not_on_way hartifact hslot)]
      exact h.file other contents hother
  way other contents hother level hlevel := by
    rw [node?_plant _ _ (route_ne_nil hslot)]
    rcases Memory.contents?_put_eq_some.mp hother with ⟨rfl, -⟩ | ⟨-, hother⟩
    · have hfile : here.down (route slot) ≠ level := fun heq =>
        route_not_on_way hslot hslot (heq ▸ hlevel)
      rw [if_neg hfile, if_pos hlevel]
    · have hfile : here.down (route slot) ≠ level := fun heq =>
        route_not_on_way hslot (h.artifact other contents hother) (heq ▸ hlevel)
      rw [if_neg hfile, h.way other contents hother level hlevel, ite_self]
  only names node hne hnode := by
    rw [node?_plant _ _ (route_ne_nil hslot)] at hnode
    have hself : (m.put slot bytes).contents? slot = some bytes :=
      Memory.contents?_put_eq_some.mpr (.inl ⟨rfl, rfl⟩)
    split at hnode
    · rename_i heq
      exact ⟨slot, bytes, hself, Location.down_inj.mp heq ▸ List.prefix_refl _⟩
    · split at hnode
      · rename_i hlevel
        obtain ⟨front, -, hpre, heq⟩ := Location.mem_levels.mp hlevel
        obtain rfl := Location.down_inj.mp heq
        exact ⟨slot, bytes, hself, hpre.trans (List.dropLast_prefix _)⟩
      · obtain ⟨other, contents, hother, hpre⟩ := h.only names node hne hnode
        by_cases heq : slot = other
        · exact ⟨slot, bytes, hself, heq ▸ hpre⟩
        · exact ⟨other, contents, Memory.contents?_put_eq_some.mpr (.inr ⟨heq, hother⟩), hpre⟩

def IsEmpty (t : FileTree) (here : Location) : Prop :=
  ∀ names, names ≠ [] → t.node? (here.down names) = none

theorem Mirrors.start (hempty : IsEmpty before here) :
    Mirrors options root before here before Memory.empty where
  workingDirectory := rfl
  outside _ _ := rfl
  artifact slot _ hslot := by cases slot <;> simp [Memory.empty, Memory.contents?] at hslot
  fits slot _ hslot := by cases slot <;> simp [Memory.empty, Memory.contents?] at hslot
  file slot _ hslot := by cases slot <;> simp [Memory.empty, Memory.contents?] at hslot
  way slot _ hslot := by cases slot <;> simp [Memory.empty, Memory.contents?] at hslot
  only names node hne hnode := by
    rw [hempty names hne] at hnode
    cases hnode

private theorem Mirrors.roots (h : Mirrors options root before here t m)
    (hempty : IsEmpty before here) (hroots : Roots before root here) : Roots t root here := by
  refine hroots.of_subset h.workingDirectory fun location node hnode => ?_
  rw [h.outside, hnode]
  rintro ⟨names, hne, rfl⟩
  rw [hempty names hne] at hnode
  cases hnode

private theorem Mirrors.isClear (h : Mirrors options root before here t m)
    (hslot : IsArtifact options slot) : t.IsClear here (route slot).dropLast := by
  intro level hlevel
  cases hnode : t.node? level with
  | none => exact .inl rfl
  | some node =>
    obtain ⟨front, hne, hpre, rfl⟩ := Location.mem_levels.mp hlevel
    obtain ⟨other, contents, hother, hfront⟩ := h.only front node hne hnode
    have hartifact := h.artifact other contents hother
    rcases prefix_route hartifact hne hfront with rfl | hway
    · exact absurd hlevel (route_not_on_way hartifact hslot)
    · exact .inr (hnode.symm.trans (h.way other contents hother _ hway))

private theorem Mirrors.not_directory (h : Mirrors options root before here t m)
    (hslot : IsArtifact options slot) : t.node? (here.down (route slot)) ≠ some .directory := by
  intro hnode
  obtain ⟨other, contents, hother, hpre⟩ := h.only _ _ (route_ne_nil hslot) hnode
  obtain rfl := eq_of_prefix_route hslot (h.artifact other contents hother) hpre
  rw [h.file slot contents hother] at hnode
  cases hnode

/-- Opening an artifact empties its file. -/
private theorem Mirrors.createFile (h : Mirrors options root before here t m)
    (hempty : IsEmpty before here)
    (hroots : Roots before root here) (hslot : IsArtifact options slot)
    (hfits : Fits root (route slot)) :
    t.createFileWithParents (Path.pushAll root (route slot)) =
      (.ok (here.down (route slot)), t.plant here (route slot) []) := by
  have hclear := h.isClear hslot
  have hfile := h.not_directory hslot
  obtain ⟨names, name, hroute, hne⟩ := exists_route hslot
  rw [hroute] at hfits hclear hfile ⊢
  rw [List.dropLast_concat] at hclear
  exact createFileWithParents_pushAll (h.roots hempty hroots) hfits hne hclear hfile

/-- A path within the limits of the operating system. -/
structure IsShort (path : List Char) : Prop where
  length : (Bytes.ofString (String.ofList path)).length < maxPathBytes
  names : ∀ name ∈ Path.names path, isTooLong name = false

instance (path : List Char) : Decidable (IsShort path) :=
  decidable_of_iff ((Bytes.ofString (String.ofList path)).length < maxPathBytes ∧
      ∀ name ∈ Path.names path, isTooLong name = false)
    ⟨fun ⟨hlength, hnames⟩ => ⟨hlength, hnames⟩, fun ⟨hlength, hnames⟩ => ⟨hlength, hnames⟩⟩

/-- Both artifacts of the declaration can be written below the root. -/
structure IsWritable (options : OptionTable) (root : List Char) (d : Declaration) : Prop where
  routes : HasRoutes options d
  source : IsShort (sourcePath root d.sourceName)
  resource : IsShort (resourcePath root resourcePackage (languageResource (d.pluginId options)))

instance (options : OptionTable) (root : List Char) (d : Declaration) :
    Decidable (IsWritable options root d) :=
  decidable_of_iff (HasRoutes options d ∧ IsShort (sourcePath root d.sourceName) ∧
      IsShort (resourcePath root resourcePackage (languageResource (d.pluginId options))))
    ⟨fun ⟨hroutes, hsource, hresource⟩ => ⟨hroutes, hsource, hresource⟩,
      fun ⟨hroutes, hsource, hresource⟩ => ⟨hroutes, hsource, hresource⟩⟩

private theorem fits_of_isShort (hslot : IsArtifact options slot)
    (h : IsShort (Path.pushAll root (route slot))) : Fits root (route slot) where
  path := h.length
  descends := descends_route hslot
  name name hname := by
    have hnames := h.names
    rw [Path.names_pushAll_of_descends (descends_route hslot)] at hnames
    exact hnames name (List.mem_append_right _ hname)

variable {d : Declaration}

private theorem IsWritable.isArtifact_source (hd : IsWritable options root d) :
    IsArtifact options (.source d.sourceName) :=
  ⟨d, hd.routes, .inl rfl⟩

private theorem IsWritable.isArtifact_resource (hd : IsWritable options root d) :
    IsArtifact options (.resource (d.resourceName options)) :=
  ⟨d, hd.routes, .inr rfl⟩

private theorem IsWritable.fits_source (hd : IsWritable options root d) :
    Fits root (route (.source d.sourceName)) :=
  fits_of_isShort hd.isArtifact_source (sourcePath_eq hd.routes root ▸ hd.source)

private theorem IsWritable.fits_resource (hd : IsWritable options root d) :
    Fits root (route (.resource (d.resourceName options))) :=
  fits_of_isShort hd.isArtifact_resource (resourcePath_eq hd.routes root ▸ hd.resource)

/-- Writing an artifact plants its file. -/
private theorem Mirrors.writeArtifact (h : Mirrors options root before here t m)
    (hempty : IsEmpty before here) (hroots : Roots before root here)
    (hslot : IsArtifact options slot) (hfits : Fits root (route slot)) (artifact : String)
    (contents : Bytes) (written : Event) :
    writeArtifact (Directory.sink root) artifact
        (t.createFileWithParents (Path.pushAll root (route slot))) contents written =
      ⟨.ok (), [written], t.plant here (route slot) contents⟩ := by
  rw [h.createFile hempty hroots hslot hfits, Round.writeArtifact, plant,
    writeBuffered_put root _ (here.down_ne_nil (route_ne_nil hslot))]
  rfl

private theorem Mirrors.writeSource (h : Mirrors options root before here t m)
    (hempty : IsEmpty before here) (hroots : Roots before root here)
    (hd : IsWritable options root d) :
    writeSource (Directory.sink root) options d t =
      ⟨.ok (), [.wroteSource d.sourceName (d.wrapper options).length],
        t.plant here (route (.source d.sourceName)) (d.wrapper options)⟩ := by
  rw [Round.writeSource, openSource_eq, sourcePath_eq hd.routes]
  exact h.writeArtifact hempty hroots hd.isArtifact_source hd.fits_source _ _ _

private theorem Mirrors.writeResource (h : Mirrors options root before here t m)
    (hempty : IsEmpty before here) (hroots : Roots before root here)
    (hd : IsWritable options root d) :
    writeResource (Directory.sink root) options d t =
      ⟨.ok (), [.wroteResource (d.resourceName options)],
        t.plant here (route (.resource (d.resourceName options))) []⟩ := by
  rw [Round.writeResource, openResource_eq, resourcePath_eq hd.routes]
  exact h.writeArtifact hempty hroots hd.isArtifact_resource hd.fits_resource _ _ _

private theorem Mirrors.generateAll {ds : List Declaration}
    (h : Mirrors options root before here t m)
    (hempty : IsEmpty before here) (hroots : Roots before root here)
    (hds : ∀ d ∈ ds, IsWritable options root d) :
    (generateAll (Directory.sink root) options ds t).result = .ok (ds.map (reported options)) ∧
      Mirrors options root before here (generateAll (Directory.sink root) options ds t).state
        (m.putAll (ds.flatMap (Declaration.entries options))) := by
  induction ds generalizing t m with
  | nil => exact ⟨rfl, h⟩
  | cons d ds ih =>
    have hd := hds d List.mem_cons_self
    have hsource := h.put hd.isArtifact_source hd.fits_source (d.wrapper options)
    have hresource := hsource.put hd.isArtifact_resource hd.fits_resource []
    have hgenerate := generateAll_cons_ok ds (generate_ok (h.writeSource hempty hroots hd)
      (hsource.writeResource hempty hroots hd))
    obtain ⟨hresult, hstate⟩ := ih hresource fun x hx => hds x (List.mem_cons_of_mem d hx)
    rw [hgenerate]
    constructor
    · rw [hresult]
      rfl
    · exact hstate

/-- The file of a slot below the output root. -/
inductive FileOf (root : List Char) : Memory.Slot → List Char → Prop where
  | source (name : String) : FileOf root (.source name) (sourcePath root name)
  | resource (name : String) : FileOf root (Memory.resourceSlot resourcePackage name)
      (resourcePath root resourcePackage name)

private theorem fileOf_route (root : List Char) (hslot : IsArtifact options slot) :
    FileOf root slot (Path.pushAll root (route slot)) := by
  obtain ⟨d, hd, rfl | rfl⟩ := hslot
  · rw [← sourcePath_eq hd]
    exact .source d.sourceName
  · rw [← resourcePath_eq hd, ← resourceName_resolve]
    exact .resource _

private theorem eq_of_fileOf {path : List Char} (hslot : IsArtifact options slot)
    (h : FileOf root slot path) :
    path = Path.pushAll root (route slot) := by
  obtain ⟨d, hd, rfl | rfl⟩ := hslot
  · cases h
    exact sourcePath_eq hd root
  · rw [← resourcePath_eq hd]
    generalize hslot : Memory.Slot.resource (d.resourceName options) = slot at h
    cases h with
    | source name => cases hslot
    | resource name =>
      have hname := congrArg String.toList (Memory.Slot.resource.inj hslot)
      rw [← resourceName_resolve] at hname
      simp only [String.toList_append] at hname
      rw [String.toList_inj.mp (List.append_cancel_left hname)]

private theorem Mirrors.locate (h : Mirrors options root before here t m)
    (hempty : IsEmpty before here)
    (hroots : Roots before root here) (hslot : m.contents? slot = some bytes) :
    t.locate (Path.pushAll root (route slot)) = .ok (here.down (route slot)) := by
  have hfits := h.fits slot bytes hslot
  have hway := h.way slot bytes hslot
  have hfile := h.file slot bytes hslot
  obtain ⟨names, name, hroute, -⟩ := exists_route (h.artifact slot bytes hslot)
  rw [hroute] at hfits hway hfile ⊢
  rw [List.dropLast_concat] at hway
  exact locate_pushAll (h.roots hempty hroots) hfits hway hfile

/-- Each file below the directory is that of a slot. -/
private theorem Mirrors.exists_slot (h : Mirrors options root before here t m)
    {names : List (List Char)} (hne : names ≠ [])
    (hnode : t.node? (here.down names) = some (.file bytes)) :
    ∃ slot, m.contents? slot = some bytes ∧ names = route slot := by
  obtain ⟨slot, contents, hslot, hpre⟩ := h.only names _ hne hnode
  rcases prefix_route (h.artifact slot contents hslot) hne hpre with rfl | hway
  · rw [h.file slot contents hslot] at hnode
    cases hnode
    exact ⟨slot, hslot, rfl⟩
  · rw [h.way slot contents hslot _ hway] at hnode
    cases hnode

/-- A round into an empty directory succeeds as one into an empty memory does, and the files below
the directory are those of the slots: each has its own, and none is in the way of another. -/
theorem directory_refines_memory (t : FileTree) (root : List Char) (here : Location)
    (options : OptionTable) (ds : List Declaration) (hroot : t.locate root = .ok here)
    (hdirectory : t.node? here = some .directory)
    (hempty : ∀ below, below ≠ [] → t.node? (here ++ below) = none)
    (hds : ∀ d ∈ ds, IsWritable options root d) :
    let disk := run (Directory.sink root) options ds t
    let memory := run Memory.sink options ds Memory.empty
    (∃ report, disk.result = .ok report ∧ memory.result = .ok report) ∧
    (∀ slot path bytes, FileOf root slot path → memory.state.contents? slot = some bytes →
      ∃ below, below ≠ [] ∧ disk.state.locate path = .ok (here ++ below) ∧
        disk.state.node? (here ++ below) = some (.file bytes)) ∧
    (∀ below bytes, below ≠ [] → disk.state.node? (here ++ below) = some (.file bytes) →
      ∃ slot path, FileOf root slot path ∧ memory.state.contents? slot = some bytes ∧
        disk.state.locate path = .ok (here ++ below)) ∧
    (∀ slot slot' path path' location location', FileOf root slot path → FileOf root slot' path' →
      memory.state.contents? slot ≠ none → memory.state.contents? slot' ≠ none →
      disk.state.locate path = .ok location → disk.state.locate path' = .ok location' →
      location <+: location' → slot = slot') ∧
    ∀ location, ¬ (∃ below, below ≠ [] ∧ location = here ++ below) →
      disk.state.node? location = t.node? location := by
  intro disk memory
  have hroots := roots_of_locate hroot hdirectory
  have hbelow : IsEmpty t here := fun names hne => hempty _ (by simpa using hne)
  have horder : ∀ d ∈ generationOrder ds, IsWritable options root d := fun d hd =>
    hds d ((generationOrder_perm ds).mem_iff.mp hd)
  obtain ⟨hresult, hmirrors⟩ := (Mirrors.start hbelow).generateAll hbelow hroots horder
  obtain ⟨hresult', hstate⟩ := generateAll_memory options (generationOrder ds) Memory.empty
  rw [← hstate, ← run_state, ← run_state] at hmirrors
  have hlocation {slot : Memory.Slot} {path : List Char} {bytes : Bytes}
      (hpath : FileOf root slot path) (hslot : memory.state.contents? slot = some bytes) :
      disk.state.locate path = .ok (here.down (route slot)) := by
    rw [eq_of_fileOf (hmirrors.artifact slot bytes hslot) hpath]
    exact hmirrors.locate hbelow hroots hslot
  refine ⟨⟨_, run_ok hresult, run_ok hresult'⟩, ?_, ?_, ?_, ?_⟩
  · intro slot path bytes hpath hslot
    refine ⟨_, ?_, hlocation hpath hslot, hmirrors.file slot bytes hslot⟩
    simpa using route_ne_nil (hmirrors.artifact slot bytes hslot)
  · intro below bytes hne hnode
    have hdown : here ++ below = here.down (below.map String.toList) := by
      simp [Location.down, Function.comp_def]
    rw [hdown] at hnode ⊢
    obtain ⟨slot, hslot, hroute⟩ := hmirrors.exists_slot (by simpa using hne) hnode
    have hartifact := hmirrors.artifact slot bytes hslot
    exact ⟨slot, _, fileOf_route root hartifact, hslot,
      hroute ▸ hmirrors.locate hbelow hroots hslot⟩
  · intro slot slot' path path' location location' hpath hpath' hslot hslot' hloc hloc' hpre
    obtain ⟨bytes, hslot⟩ := Option.ne_none_iff_exists'.mp hslot
    obtain ⟨bytes', hslot'⟩ := Option.ne_none_iff_exists'.mp hslot'
    rw [hlocation hpath hslot] at hloc
    rw [hlocation hpath' hslot'] at hloc'
    cases hloc
    cases hloc'
    exact eq_of_prefix_route (hmirrors.artifact slot bytes hslot)
      (hmirrors.artifact slot' bytes' hslot') (Location.prefix_of_down hpre)
  · intro location hlocation
    apply hmirrors.outside location
    rintro ⟨names, hne, hdown⟩
    exact hlocation ⟨_, by simpa using hne, hdown⟩

private def output : Location := ["home", "user", "project", "work", "out"]

private def outputTree : FileTree := fresh.put output .directory

private theorem isEmpty_output (below : Location) (hne : below ≠ []) :
    outputTree.node? (output ++ below) = none := by
  rw [outputTree, node?_put _ (by decide), if_neg (by simpa using hne)]
  simp [fresh, inside, node?, output, List.range_succ, Std.ExtTreeMap.mem_insert]

private def declared : List Declaration :=
  [⟨"Core", "org.cubeengine", .core, []⟩, ⟨"Travel", "org.cubeengine.travel", .module, []⟩]

theorem directory_refines_memory_output :
    (∀ d ∈ declared, IsWritable .empty "out".toList d) ∧
    ∃ report,
      (run (Directory.sink "out".toList) .empty declared outputTree).result = .ok report ∧
      (run Memory.sink .empty declared Memory.empty).result = .ok report := by
  have hwritable : ∀ d ∈ declared, IsWritable .empty "out".toList d := by decide +kernel
  have hlocate : outputTree.locate "out".toList = .ok output := by decide +kernel
  have hdirectory : outputTree.node? output = some .directory := by decide +kernel
  exact ⟨hwritable, (directory_refines_memory outputTree "out".toList output .empty declared hlocate
    hdirectory isEmpty_output hwritable).1⟩

end PluginWrapper.Round
