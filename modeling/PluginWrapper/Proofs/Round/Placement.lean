import PluginWrapper.Proofs.Descriptor
import PluginWrapper.Proofs.Round.Distinct
import PluginWrapper.Proofs.Sink.Directory
import PluginWrapper.Proofs.Text.Case
import PluginWrapper.Proofs.Wrapper.Place

/-! Sources and their places. However many rounds have written to a memory, each source in it says
under which name it is stored, and a directory sink makes its file from that name. -/
namespace PluginWrapper
open Wrapper

/-- A package parted by dots becomes directories parted by slashes, and the class a file in them. -/
private theorem Directory.sourcePath_of_class {package className : String}
    (hslash : '/' ∉ package.toList)
    (hpieces : ∀ piece ∈ Text.split '.' package.toList, piece ≠ [])
    (hclass : className ≠ "") (hdot : '.' ∉ className.toList) (hslash' : '/' ∉ className.toList)
    (root : List Char) :
    sourcePath root (package ++ "." ++ className) =
      Path.push root (package.toList.map (fun c => if c = '.' then '/' else c) ++
        '/' :: (className.toList ++ ".java".toList)) := by
  have hsplit : Text.split '.' (package ++ "." ++ className).toList =
      Text.split '.' package.toList ++ [className.toList] := by
    have htext : (package ++ "." ++ className).toList =
        package.toList ++ '.' :: className.toList := by simp
    rw [htext, Text.split_append_cons, Text.split_of_not_mem hdot]
  have hempty : [] ∉ Text.split '.' (package ++ "." ++ className).toList := by
    rw [hsplit, List.mem_append, List.mem_singleton]
    rintro (hmem | hnil)
    · exact hpieces [] hmem rfl
    · exact hclass (String.toList_inj.mp hnil.symm)
  have hsegments := (segments_eq_split hempty).trans hsplit
  have hno : '/' ∉ (package ++ "." ++ className).toList := by simp [hslash, hslash']
  rw [(sourcePath_eq_push hno (by simp [hsegments]) root).2, hsegments,
    Text.join_concat (Text.split_ne_nil _ _), Text.join_split_map, List.append_assoc,
    List.cons_append]

/-- The text says that it is the source of the wrapper of a class of this name in this package. -/
structure Wrapper.Says (text package name : String) : Prop where
  belongs : (lines text).head? = some ("package " ++ package ++ ";")
  declares : linesAt "public class " text =
    ["public class " ++ ("Plugin" ++ name) ++ " extends CubeEnginePlugin"]
  imports : (linesAt "import " text).getLast? = some ("import " ++ package ++ "." ++ name ++ ";")
  wraps : linesAt "         super(" text = ["         super(" ++ name ++ ".class);"]

namespace Round

/-- No value that a round writes breaks a line. -/
structure OnLines (options : OptionTable) (ds : List Declaration) : Prop where
  options : ∀ key value, options.get? key = some value → IsLine value
  names : ∀ d ∈ ds, IsLine d.package ∧ IsLine d.name
  dependencies : ∀ d ∈ ds, ∀ x ∈ d.dependencies, IsLine x.id ∧ IsLine x.version

variable {options : OptionTable} {ds : List Declaration} {d : Declaration}

private theorem OnLines.values (h : OnLines options ds) (hd : d ∈ ds) :
    ∀ v ∈ values d (.resolve d options), IsLine v := by
  obtain ⟨hpackage, hname⟩ := h.names d hd
  have hresolve (key : String) {fallback : String} (hfallback : IsLine fallback) :
      IsLine (options.resolve key fallback) :=
    OptionTable.resolve_of_forall h.options (by decide) hfallback key
  have hunknown (key : String) : IsLine (options.resolve key unknown) := hresolve key (by decide)
  have hdependencies : ∀ x ∈ (Descriptor.resolve d options).dependencies,
      IsLine x.id ∧ IsLine x.version := by
    have hcore : IsLine "cubeengine-core" := by decide
    cases hkind : d.kind with
    | module =>
      rw [Descriptor.dependencies_resolve_module hkind, List.forall_mem_append,
        List.forall_mem_singleton]
      exact ⟨h.dependencies d hd, hcore, hunknown _⟩
    | core =>
      rw [Descriptor.dependencies_resolve_core hkind]
      exact h.dependencies d hd
  have hid : IsLine (options.id d.name) := hresolve _ (Text.newline_not_mem_lower hname)
  rw [Wrapper.values, List.forall_mem_append]
  simp only [List.forall_mem_cons]
  refine ⟨⟨hpackage, hname, isLine_append.mpr ⟨by decide, hname⟩, Text.newline_not_mem_upper hname,
    isLine_append.mpr ⟨by decide, hid⟩, isLine_append.mpr ⟨by decide, hunknown _⟩, hunknown _,
    hunknown _, hresolve _ (by decide), isLine_append.mpr ⟨hunknown _, by decide⟩, hunknown _,
    fun _ hv => absurd hv List.not_mem_nil⟩, ?_⟩
  rintro v hv
  obtain ⟨x, hx, hmem⟩ := List.mem_flatMap.mp hv
  simp only [List.mem_cons, List.not_mem_nil, or_false] at hmem
  rcases hmem with rfl | rfl
  · exact (hdependencies x hx).1
  · exact (hdependencies x hx).2

private theorem says_source (h : OnLines options ds) (hd : d ∈ ds) :
    Says (source d (.resolve d options)) d.package d.name where
  belongs := head?_lines_source (h.values hd)
  declares := linesAt_class (h.values hd)
  imports := by
    rw [linesAt_import (h.values hd), imports, List.map_append, List.map_cons, List.map_singleton,
      List.getLast?_append]
    rfl
  wraps := linesAt_super (h.values hd)

/-- Every source in the memory is stored under the name that it says. -/
def InPlace (m : Memory) : Prop :=
  ∀ key contents, m.contents? (.source key) = some contents →
    ∃ text package name, Bytes.toString? contents = some text ∧
      key = package ++ "." ++ ("Plugin" ++ name) ∧ Says text package name

private theorem inPlace_empty : InPlace Memory.empty := by
  intro key contents h
  simp [Memory.contents?, Memory.empty] at h

/-- What a round overwrites it overwrites with a source that says the same name. -/
private theorem InPlace.run {m : Memory} (hm : InPlace m) (h : OnLines options ds) :
    InPlace (run Memory.sink options ds m).state := by
  intro key contents hcontents
  rw [(run_memory options ds m).2, contents?_source_entries] at hcontents
  cases hlast : ((Declaration.generationOrder ds).filter (·.sourceName = key)).getLast? with
  | none =>
    rw [hlast, Option.map_none, Option.none_or] at hcontents
    exact hm key contents hcontents
  | some d =>
    rw [hlast, Option.map_some, Option.some_or] at hcontents
    cases hcontents
    obtain ⟨horder, hname⟩ := List.mem_filter.mp (List.mem_of_getLast? hlast)
    have hd : d ∈ ds := (generationOrder_perm ds).mem_iff.mp horder
    have hkey : d.sourceName = key := of_decide_eq_true hname
    exact ⟨_, d.package, d.name, Bytes.toString?_ofString _,
      hkey.symm.trans (Declaration.sourceName_resolve d options).symm, says_source h hd⟩

private theorem InPlace.foldl_run {rounds : List (OptionTable × List Declaration)} {m : Memory}
    (hm : InPlace m) (h : ∀ round ∈ rounds, OnLines round.1 round.2) :
    InPlace (rounds.foldl (fun m round => (Round.run Memory.sink round.1 round.2 m).state) m) := by
  induction rounds generalizing m with
  | nil => exact hm
  | cons round rounds ih =>
    exact ih (hm.run (h round List.mem_cons_self)) fun r hr => h r (List.mem_cons_of_mem round hr)

/-- After any rounds into an empty memory, each of which succeeds, every source is stored under the
name that its own text says: its package line, its one class, and the class that it imports last and
wraps. A directory sink makes its file in the directories of the package. -/
theorem sources_in_place (rounds : List (OptionTable × List Declaration))
    (h : ∀ round ∈ rounds, OnLines round.1 round.2) :
    let m := rounds.foldl (fun m round => (run Memory.sink round.1 round.2 m).state) Memory.empty
    (∀ round ∈ rounds, ∀ m', ∃ report,
      (run Memory.sink round.1 round.2 m').result = .ok report) ∧
    ∀ key, (m.contents? (.source key)).isSome → ∃ text package name,
      let className := "Plugin" ++ name
      m.sourceText? key = some text ∧ key = package ++ "." ++ className ∧
      (lines text).head? = some ("package " ++ package ++ ";") ∧
      linesAt "public class " text =
        ["public class " ++ className ++ " extends CubeEnginePlugin"] ∧
      (linesAt "import " text).getLast? = some ("import " ++ package ++ "." ++ name ++ ";") ∧
      linesAt "         super(" text = ["         super(" ++ name ++ ".class);"] ∧
      ('/' ∉ package.toList → (∀ piece ∈ Text.split '.' package.toList, piece ≠ []) →
        '/' ∉ className.toList → '.' ∉ className.toList →
        ∀ (root : List Char) (tree : FileTree),
          let directories := package.toList.map fun c => if c = '.' then '/' else c
          let file := Path.push root (directories ++ '/' :: (className.toList ++ ".java".toList))
          Directory.sourcePath root key = file ∧
            (Directory.sink root).openSource key tree = tree.createFileWithParents file) := by
  intro m
  refine ⟨fun round _ m' => ⟨_, (run_memory round.1 round.2 m').1⟩, fun key hkey => ?_⟩
  obtain ⟨contents, hcontents⟩ := Option.isSome_iff_exists.mp hkey
  obtain ⟨text, package, name, htext, hname, htold⟩ :=
    inPlace_empty.foldl_run h key contents hcontents
  refine ⟨text, package, name, ?_, hname, htold.belongs, ?_, htold.imports, htold.wraps, ?_⟩
  · rw [Memory.sourceText?, hcontents, Option.bind_some, htext]
  · exact htold.declares
  · intro hslash hpieces hslash' hdot root tree directories file
    have hpath := Directory.sourcePath_of_class hslash hpieces (by simp) hdot hslash' root
    rw [← hname] at hpath
    exact ⟨hpath, (Directory.openSource_eq root key tree).trans (congrArg _ hpath)⟩

private def trip : Declaration := ⟨"Travel", "org.example", .core, []⟩

private def onTeam : OptionTable := .ofList [("cubeengine.module.team", "Land")]

private def mixed : List Declaration :=
  [⟨"Travel", "org.example", .module, [⟨"roles", "1.0", true⟩, ⟨"chat", "", false⟩]⟩,
    ⟨"Lib", "org.lib", .core, []⟩]

private def twice : List (OptionTable × List Declaration) :=
  [(.empty, mixed), (onTeam, [trip])]

private theorem onLines_twice : ∀ round ∈ twice, OnLines round.1 round.2 := by
  have hempty (key value : String) : OptionTable.empty.get? key = some value → IsLine value := by
    rw [OptionTable.get?_empty]
    nofun
  have hteam (key value : String) : onTeam.get? key = some value → IsLine value := by
    intro hvalue
    rw [onTeam, OptionTable.get?_ofList (by decide), lookup_cons_eq_ite] at hvalue
    split at hvalue
    · cases hvalue
      decide
    · cases hvalue
  simp only [twice, List.forall_mem_cons]
  exact ⟨⟨hempty, by decide, by decide⟩, ⟨hteam, by decide, by decide⟩, nofun⟩

/-- A module whose source a second round replaces by that of a core. -/
theorem sources_in_place_replaced :
    (∀ round ∈ twice, OnLines round.1 round.2) ∧
    ∃ text,
      (twice.foldl (fun m round => (run Memory.sink round.1 round.2 m).state)
        Memory.empty).sourceText? "org.example.PluginTravel" = some text ∧
      linesAt "public class " text = ["public class PluginTravel extends CubeEnginePlugin"] ∧
      Directory.sourcePath "out".toList "org.example.PluginTravel" =
        "out/org/example/PluginTravel.java".toList := by
  have hstored : (twice.foldl (fun m round => (run Memory.sink round.1 round.2 m).state)
      Memory.empty).contents? (.source trip.sourceName) = some (trip.wrapper onTeam) := by
    rw [twice, List.foldl_cons, List.foldl_cons, List.foldl_nil]
    exact contents?_source_of_only (by decide) onTeam _
  have htold : Says (source trip (.resolve trip onTeam)) trip.package trip.name :=
    says_source (onLines_twice (onTeam, [trip]) (by simp [twice])) List.mem_cons_self
  obtain ⟨-, hplaces⟩ := sources_in_place twice onLines_twice
  obtain ⟨text, package, name, htext, hkey, hhead, hclass, -, -, hfile⟩ :=
    hplaces trip.sourceName (Option.isSome_iff_exists.mpr ⟨_, hstored⟩)
  -- The stored text is that of the core, so its first line names the package.
  have hsource : some text = some (source trip (.resolve trip onTeam)) := by
    rw [← htext, Memory.sourceText?, hstored, Option.bind_some, Declaration.wrapper,
      Bytes.toString?_ofString]
  obtain rfl := Option.some.inj hsource
  have hpackage : trip.package = package := by
    have hline := Option.some.inj (htold.belongs.symm.trans hhead)
    rwa [String.append_left_inj, String.append_right_inj] at hline
  subst hpackage
  have hname : trip.name = name := by
    have hclassName := (Declaration.sourceName_resolve trip onTeam).trans hkey
    exact (String.append_right_inj _).mp ((String.append_right_inj _).mp hclassName)
  subst hname
  exact ⟨onLines_twice, _, htext, hclass,
    (hfile (by decide) (by decide) (by decide) (by decide) _ (.inside [])).1⟩

end Round

end PluginWrapper
