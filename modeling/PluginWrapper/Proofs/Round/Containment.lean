import PluginWrapper.Manifest
import PluginWrapper.Proofs.Path.Names
import PluginWrapper.Proofs.Round.Rerun

/-! Where a round into a directory makes changes: below the output root, as long as no name leads
away from it, and somewhere else if one does. -/
namespace PluginWrapper

namespace FileTree
/-- The location is the output root or below it, or the path of the root leads through it. -/
def IsWithin (t : FileTree) (root : List Char) (here : Location) : Prop :=
  (∃ names, names <+: Path.names root ∧ t.walk (t.start root) names = .ok here) ∨
    ∃ there, t.walk (t.start root) (Path.names root) = .ok there ∧ there <+: here

variable {t t' : FileTree} {root : List Char} {here there : Location} {names : List (List Char)}

/-- Without double dots a walk never leaves the place where it begins. -/
private theorem prefix_of_walk (hdots : ['.', '.'] ∉ names) (h : t.walk here names = .ok there) :
    here <+: there := by
  induction names generalizing here with
  | nil =>
    cases h
    exact List.prefix_refl _
  | cons name names ih =>
    have hrest : ['.', '.'] ∉ names := fun hmem => hdots (List.mem_cons_of_mem name hmem)
    rcases (walk_cons_ok.mp h).2 with ⟨-, h⟩ | ⟨hname, -⟩ | ⟨-, -, -, -, h⟩
    · exact ih hrest h
    · exact absurd (hname ▸ List.mem_cons_self) hdots
    · exact (List.prefix_append here _).trans (ih hrest h)

private theorem Grows.isWithin (hgrows : t.Grows t') (h : t.IsWithin root here) :
    t'.IsWithin root here := by
  rw [IsWithin, hgrows.start]
  rcases h with ⟨names, hpre, hwalk⟩ | ⟨there, hwalk, hpre⟩
  · exact .inl ⟨names, hpre, hgrows.walk hwalk⟩
  · exact .inr ⟨there, hgrows.walk hwalk, hpre⟩

end FileTree

namespace Path

/-- The path goes on from that of the root and does not turn back. -/
structure GoesOn (root path : List Char) : Prop where
  start : isAbsolute path = isAbsolute root
  more : ∃ more, names path = names root ++ more ∧ ['.', '.'] ∉ more

variable {root path above : List Char}

private theorem not_mem_of_mem_names {name : List Char} {c : Char} (h : name ∈ names path)
    (hc : c ∉ path) :
    c ∉ name :=
  fun hmem => hc (Text.mem_of_mem_split (List.mem_filter.mp h).1 hmem)

/-- What the path or one above it leads to is within the root. -/
private theorem GoesOn.isWithin {t : FileTree} {here : Location} (h : GoesOn root path)
    (habove : names above <+: names path) (hstart : isAbsolute above = isAbsolute path)
    (hlocate : t.locate above = .ok here) : t.IsWithin root here := by
  obtain ⟨-, hwalk, -⟩ := FileTree.locate_eq_ok.mp hlocate
  obtain ⟨more, hmore, hdots⟩ := h.more
  have hroot : t.start above = t.start root := by
    rw [FileTree.start, FileTree.start, hstart, h.start]
  rw [hroot] at hwalk
  rw [hmore] at habove
  rcases List.prefix_or_prefix_of_prefix habove (List.prefix_append (names root) more) with
    hfront | ⟨below, hbelow⟩
  · exact .inl ⟨_, hfront, hwalk⟩
  · rw [← hbelow] at hwalk habove
    have hpre := (List.prefix_append_right_inj _).mp habove
    obtain ⟨there, hthere, hwalk⟩ := FileTree.walk_append_eq_ok.mp hwalk
    exact .inr ⟨there, hthere, FileTree.prefix_of_walk (fun hmem => hdots (hpre.mem hmem)) hwalk⟩

end Path

namespace Directory
open FileTree

/-- From one tree to a later one that differs only within the root. -/
structure Confined (root : List Char) (t t' : FileTree) : Prop where
  grows : t.Grows t'
  within : ∀ here, t'.node? here ≠ t.node? here → t'.IsWithin root here

theorem Confined.refl (root : List Char) (t : FileTree) : Confined root t t :=
  ⟨.refl t, fun _ hnode => absurd rfl hnode⟩

theorem Confined.trans {root : List Char} {t t' t'' : FileTree} (h : Confined root t t')
    (h' : Confined root t' t'') : Confined root t t'' where
  grows := h.grows.trans h'.grows
  within here hnode := by
    by_cases hmid : t''.node? here = t'.node? here
    · exact h'.grows.isWithin (h.within here (hmid ▸ hnode))
    · exact h'.within here hmid

private theorem confined_createFileWithParents {root path : List Char}
    (hpath : Path.GoesOn root path) (t : FileTree) :
    Confined root t (t.createFileWithParents path).2 := by
  have hgrows := t.grows_createFileWithParents path
  refine ⟨hgrows, fun here hnode => ?_⟩
  cases hafter : (t.createFileWithParents path).2.node? here with
  | none =>
    cases hbefore : t.node? here with
    | none => exact absurd (hafter.trans hbefore.symm) hnode
    | some node =>
      obtain ⟨node', hnode'⟩ := hgrows.exists_node hbefore
      rw [hafter] at hnode'
      cases hnode'
  | some node =>
    rcases node_of_createFileWithParents hafter with hold | hresult | ⟨-, above, habove, hlocate⟩
    · exact absurd (hafter.trans hold.symm) hnode
    · exact hpath.isWithin (List.prefix_refl _) rfl (locate_of_createFileWithParents hresult)
    · obtain ⟨hnames, hstart⟩ := Path.names_of_mem_ancestors (List.mem_of_mem_tail habove)
      exact hpath.isWithin hnames hstart hlocate

/-- All changes are within the root when the paths that are opened go on from it. -/
private theorem keeps_confined (root : List Char) :
    (sink root).Keeps (fun opening => Path.GoesOn root (path root opening)) (Confined root)
      (fun here t => t.IsWithin root here) where
  refl := .refl root
  trans := .trans
  opens opening t hpath := by
    rw [openArtifact_eq]
    exact confined_createFileWithParents hpath t
  held opening t here t' hpath h := by
    rw [openArtifact_eq] at h
    have hlocate := locate_of_createFileWithParents (congrArg Prod.fst h)
    rw [h] at hlocate
    exact hpath.isWithin (List.prefix_refl _) rfl hlocate
  write here bytes t hheld := by
    have hgrows : t.Grows (t.append here bytes) := .append t here bytes
    refine ⟨⟨hgrows, fun there hnode => ?_⟩, hgrows.isWithin hheld⟩
    by_cases hhere : here = there
    · exact hhere ▸ hgrows.isWithin hheld
    · exact absurd (node?_append_of_ne hhere bytes) hnode
  flush here t hheld := ⟨.refl root t, hheld⟩

variable {root : List Char}

private theorem exists_name {piece : List Char} {c : Char} (hc : c ∈ piece) (hslash : c ≠ '/') :
    ∃ name, name ∈ Path.names piece := by
  obtain ⟨name, hname, hmem⟩ := Text.exists_mem_split hc hslash
  exact ⟨name, List.mem_filter.mpr ⟨hname, by simpa using List.ne_nil_of_mem hmem⟩⟩

/-- The pieces between dots hold no dot, so only one that begins with a slash leads away. -/
private theorem goesOn_sourcePath {name : String} {c : Char} (hc : c ∈ name.toList) (hdot : c ≠ '.')
    (hslash : c ≠ '/') (h : ∀ piece ∈ Text.split '.' name.toList, Path.isAbsolute piece = false) :
    Path.GoesOn root (sourcePath root name) := by
  have hnames : Path.names (Path.pushAll root _) = _ := Path.names_pushAll h
  have hnodot : ∀ s ∈ (Text.split '.' name.toList).flatMap Path.names, '.' ∉ s := by
    intro s hs
    obtain ⟨piece, hpiece, hs⟩ := List.mem_flatMap.mp hs
    exact Path.not_mem_of_mem_names hs (Text.not_mem_of_mem_split hpiece)
  obtain ⟨piece, hpiece, hmem⟩ := Text.exists_mem_split hc hdot
  obtain ⟨s, hs⟩ := exists_name hmem hslash
  have hs' := List.mem_flatMap.mpr ⟨piece, hpiece, hs⟩
  generalize (Text.split '.' name.toList).flatMap Path.names = more at *
  rcases List.eq_nil_or_concat more with rfl | ⟨front, last, rfl⟩
  · cases hs'
  · rw [List.concat_eq_append, ← List.append_assoc] at hnames
    have hjava : '/' ∉ "java".toList := by decide
    obtain ⟨hpath, hstart⟩ := Path.names_withExtension hnames (hnodot last (by simp)) hjava
    refine ⟨hstart.trans (Path.isAbsolute_pushAll h), _, hpath.trans (List.append_assoc ..), ?_⟩
    intro hmem
    rcases List.mem_append.mp hmem with hmem | hmem
    · exact hnodot ['.', '.'] (by simp [hmem]) (by simp)
    · have hlength := congrArg List.length (List.mem_singleton.mp hmem)
      simp at hlength

private theorem goesOn_resourcePath {name : String} (h : Path.isAbsolute name.toList = false)
    (hdots : ['.', '.'] ∉ Path.names name.toList) :
    Path.GoesOn root (resourcePath root Round.resourcePackage name) := by
  have hpackage : resourcePath root Round.resourcePackage name =
      Path.push (Path.push root "assets".toList) name.toList := rfl
  have hassets : Path.isAbsolute "assets".toList = false := rfl
  rw [hpackage]
  refine ⟨(Path.isAbsolute_push h).trans (Path.isAbsolute_push hassets), "assets".toList ::
    Path.names name.toList, ?_, ?_⟩
  · rw [Path.names_push h, Path.names_push hassets, List.append_assoc]
    rfl
  · simpa using hdots

end Directory

namespace Declaration

/-- No piece of the source name begins with a slash, and the plugin id does not lead upwards. -/
structure StaysBelow (options : OptionTable) (d : Declaration) : Prop where
  source : ∀ piece ∈ Text.split '.' d.sourceName.toList, Path.isAbsolute piece = false
  resource : ['.', '.'] ∉ Path.names (d.pluginId options).toList

private theorem StaysBelow.goesOn {options : OptionTable} {d : Declaration}
    (h : StaysBelow options d) (root : List Char) :
    ∀ opening ∈ Use.openings (.resolve d options),
      Path.GoesOn root (Directory.path root opening) := by
  intro opening hopening
  simp only [Use.openings, sourceName_resolve, pluginId_resolve, List.mem_cons, List.not_mem_nil,
    or_false] at hopening
  rcases hopening with rfl | rfl
  · have hc : 'P' ∈ d.sourceName.toList := by simp [sourceName]
    exact Directory.goesOn_sourcePath hc (by decide) (by decide) h.source
  · have htext : (Round.languageResource (d.pluginId options)).toList =
        (d.pluginId options).toList ++ '/' :: "lang/en_us.lang".toList := by
      simp [Round.languageResource]
    have hlang : Path.names "lang/en_us.lang".toList = ["lang".toList, "en_us.lang".toList] := by
      decide
    refine Directory.goesOn_resourcePath ?_ ?_
    · simp [Round.languageResource, pluginId, Path.isAbsolute]
    · rw [htext, Path.names_append_cons, hlang]
      simpa using h.resource

end Declaration

namespace Round
open Directory FileTree

/-- All that a round adds or changes is at the output root or below it, or is a directory on the
way to it that was missing. -/
theorem directory_changes_within (root : List Char) (options : OptionTable)
    (ds : List Declaration) (t : FileTree) (hds : ∀ d ∈ ds, Declaration.StaysBelow options d) :
    let after := (run (sink root) options ds t).state
    ∀ here, after.node? here ≠ t.node? here → after.IsWithin root here :=
  ((keeps_confined root).run (fun d hd => (hds d hd).goesOn root) t).within

private def nested : OptionTable := .ofList [(OptionKey.id, "/./eco//nomy")]

private def economy : List Declaration := [⟨"Economy/", "org/example.shop", .module, []⟩]

/-- Slashes and single dots lead further down at most. -/
theorem directory_changes_within_economy :
    (∀ d ∈ economy, Declaration.StaysBelow nested d) ∧
    (let after := (run (sink "../out".toList) nested economy .fresh).state
    ∀ here, after.node? here ≠ FileTree.fresh.node? here →
      after.IsWithin "../out".toList here) := by
  have hds : ∀ d ∈ economy, Declaration.StaysBelow nested d := by
    intro d hd
    obtain rfl := List.mem_singleton.mp hd
    exact ⟨by decide +kernel, by decide +kernel⟩
  exact ⟨hds, directory_changes_within "../out".toList nested economy .fresh hds⟩

private def upwards : OptionTable := .ofList [(OptionKey.id, "/../../../x")]

private def voyage : List Declaration := [⟨"Travel", "org", .core, []⟩]

private def harbour : FileTree := (FileTree.inside ["work"]).put ["work", "out"] .directory

private def beside : Location := ["work", "x", "lang", "en_us.lang"]

private theorem parse_voyage :
    (Manifest.parse "[[core]]\nname=\"Travel\"\npackage=\"org\"\n").toOption.map
      Manifest.declarations = some voyage := by
  decide +kernel

private theorem node?_beside :
    (run (sink "out".toList) upwards voyage harbour).state.node? beside = some (.file []) := by
  have horder : Declaration.generationOrder voyage = [⟨"Travel", "org", .core, []⟩] := by decide
  simp only [run_eq, horder, generateAll, generate, emit, openSource_eq, openResource_eq,
    writeArtifact_directory]
  decide +kernel

/-- The root stays where it is. -/
private theorem not_isWithin_beside {after : FileTree} (hgrows : harbour.Grows after) :
    ¬ after.IsWithin "out".toList beside := by
  have hbefore : harbour.walk ["work"] ["out".toList] = .ok ["work", "out"] := by decide +kernel
  have hwalk := hgrows.walk hbefore
  have hstart : after.start "out".toList = ["work"] := hgrows.start "out".toList
  have hnames : Path.names "out".toList = ["out".toList] := by decide
  rw [IsWithin, hstart, hnames]
  generalize "out".toList = out at hwalk
  rintro (⟨names, hpre, hhere⟩ | ⟨there, hthere, hpre⟩)
  · rcases List.prefix_cons_iff.mp hpre with rfl | ⟨rest, rfl, hrest⟩
    · cases hhere
    · rw [List.prefix_nil.mp hrest, hwalk] at hhere
      exact absurd (Except.ok.inj hhere) (by decide)
  · obtain rfl := Except.ok.inj (hwalk.symm.trans hthere)
    exact absurd hpre (by decide)

/-- An id can lead out of the output root. -/
theorem directory_changes_outside : ¬ ∀ (root : List Char) (text : String) (m : Manifest)
    (options : OptionTable) (t : FileTree) (here : Location), Manifest.parse text = .ok m →
    let after := (process (sink root) options m.discovery t).state
    after.node? here ≠ t.node? here → after.IsWithin root here := by
  intro hall
  have hparse := parse_voyage
  cases hm : Manifest.parse "[[core]]\nname=\"Travel\"\npackage=\"org\"\n" with
  | error e =>
    rw [hm] at hparse
    cases hparse
  | ok m =>
    rw [hm] at hparse
    have hwithin := hall "out".toList _ m upwards harbour beside hm
    rw [process_discovery, Option.some.inj hparse] at hwithin
    have hbefore : harbour.node? beside = none := by decide +kernel
    have hgrows := (repeats_run (repeats_writeArtifact "out".toList) upwards voyage).grows harbour
    refine not_isWithin_beside hgrows (hwithin ?_)
    rw [node?_beside, hbefore]
    nofun

end Round

end PluginWrapper
