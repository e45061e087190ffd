import PluginWrapper.Proofs.Descriptor
import PluginWrapper.Proofs.Manifest.Grammar
import PluginWrapper.Proofs.Round.Distinct
import PluginWrapper.Proofs.Round.Prediction
import PluginWrapper.Proofs.Wrapper.Source

/-! Dependencies on their way from a document to the annotation of a wrapper class: nothing is lost,
changed or moved, and a module gains one more, on the core. -/
namespace PluginWrapper

namespace CommandLine
variable {m : Manifest}

private theorem getElem?_descriptors (options : OptionTable) (m : Manifest) (i : Nat) :
    (descriptors options m)[i]? = (m.declarations[i]?).map (Descriptor.resolve · options) :=
  List.getElem?_map

private theorem descriptor_of_module {i : Nat} {entry : ModuleEntry}
    (h : m.modules[i]? = some entry) (options : OptionTable) :
    (descriptors options m)[i]? = some (.resolve entry.toDeclaration options) := by
  have hlt : i < m.modules.length := (List.getElem?_eq_some_iff.mp h).1
  rw [getElem?_descriptors, Manifest.declarations_eq,
    List.getElem?_append_left (by simpa using hlt), List.getElem?_map, h]
  rfl

private theorem descriptor_of_core {i : Nat} {entry : CoreEntry} (h : m.cores[i]? = some entry)
    (options : OptionTable) : (descriptors options m)[m.modules.length + i]? =
      some (.resolve entry.toDeclaration options) := by
  rw [getElem?_descriptors, Manifest.declarations_eq, List.getElem?_append_right (by simp)]
  simp [h]

end CommandLine

namespace Round

/-- In the source of a wrapper the annotations of its dependencies stand between the braces. -/
private theorem stored_text (options : OptionTable) {ds : List Declaration} {d : Declaration}
    (h : ds.filter (·.sourceName = d.sourceName) = [d]) (memory : Memory) :
    let e := Descriptor.resolve d options
    (run Memory.sink options ds memory).state.sourceText? d.sourceName =
      some (Wrapper.unlines (Wrapper.front d e) ++ "        dependencies = \x7b" ++
        Dependency.annotations e.dependencies ++ "\x7d)\n" ++
        Wrapper.unlines (Wrapper.classBody d e)) := by
  intro e
  have hend : "\x7d)\n" = "\x7d" ++ ")\n" := rfl
  rw [Memory.sourceText?, contents?_source_of_only h, Option.bind_some, Declaration.wrapper,
    Bytes.toString?_ofString, Wrapper.source_eq, hend]
  simp only [String.append_assoc, e]

/-- The descriptor of a module has the dependencies that its entry in the document lists, in their
order and each as often as there, and then the one on the core; that of a core has none. The source
that a round stores shows just these, unless another declaration has the same name. -/
theorem dependencies_reach_source {text : String} {m : Manifest}
    (hparse : Manifest.parse text = .ok m) (options : OptionTable) (memory : Memory) :
    let described := CommandLine.descriptors options m
    let core : Dependency := ⟨"cubeengine-core",
      options.resolve "cubeengine.module.libcube.version" "unknown", false⟩
    let fragment (x : Dependency) := "@Dependency(id = \"" ++ x.id ++ "\", version = \"" ++
      x.version ++ "\", optional = " ++ (if x.optional then "true" else "false") ++ ")"
    let out := process Memory.sink options m.discovery memory
    (∃ fields, Toml.read? text = some fields ∧ IsManifest fields m) ∧
    described.length = m.modules.length + m.cores.length ∧
    (∀ (i : Nat) (entry : ModuleEntry), m.modules[i]? = some entry →
      ∃ e : Descriptor, described[i]? = some e ∧ e.kind = .module ∧
        e.dependencies = entry.dependencies ++ [core]) ∧
    (∀ (i : Nat) (entry : CoreEntry), m.cores[i]? = some entry →
      ∃ e : Descriptor, described[m.modules.length + i]? = some e ∧ e.kind = .core ∧
        e.dependencies = []) ∧
    (∃ report, out.result = .ok report) ∧
    ∀ (i : Nat) (d : Declaration) (e : Descriptor),
      m.declarations[i]? = some d → described[i]? = some e →
      (∀ (j : Nat) (d' : Declaration), m.declarations[j]? = some d' →
        d'.package ++ ".Plugin" ++ d'.name = d.package ++ ".Plugin" ++ d.name → j = i) →
      out.state.sourceText? (d.package ++ ".Plugin" ++ d.name) =
        some (Wrapper.unlines (Wrapper.front d e) ++ "        dependencies = \x7b" ++
          ",\n".intercalate (e.dependencies.map fragment) ++ "\x7d)\n" ++
          Wrapper.unlines (Wrapper.classBody d e)) := by
  intro described core fragment out
  have hrun : out = run Memory.sink options m.declarations memory :=
    process_discovery Memory.sink options m memory
  refine ⟨Manifest.parse_eq_ok.mp hparse, ?_, fun i entry hentry => ?_, fun i entry hentry => ?_,
    ⟨_, hrun ▸ (run_memory options _ memory).1⟩, fun i d e hd he honly => ?_⟩
  · simp [described, CommandLine.descriptors, Manifest.declarations_eq]
  · refine ⟨_, CommandLine.descriptor_of_module hentry options, rfl, ?_⟩
    exact Descriptor.dependencies_resolve_module rfl options
  · refine ⟨_, CommandLine.descriptor_of_core hentry options, rfl, ?_⟩
    exact Descriptor.dependencies_resolve_core rfl options
  · have hresolve := CommandLine.getElem?_descriptors options m i
    rw [hd] at hresolve
    obtain rfl : e = Descriptor.resolve d options := Option.some.inj (he.symm.trans hresolve)
    rw [hrun]
    exact stored_text options (filter_of_only hd honly) memory

private def travelText : String :=
  "core = [[\"Lib\", \"org.lib\"]]\n[[module]]\nname = \"Travel\"\npackage = \"org.example\"\n" ++
    "dependencies = [[\"roles\"], " ++
    "\x7bid = \"cubeengine-core\", version = \"3.0\"\x7d, [\"roles\"]]\n"

private def travel : Manifest where
  modules := [⟨"Travel", "org.example",
    [⟨"roles", "", false⟩, ⟨"cubeengine-core", "3.0", false⟩, ⟨"roles", "", false⟩]⟩]
  cores := [⟨"Lib", "org.lib"⟩]

/-- A module that lists one dependency twice and the one on the core by itself. -/
theorem dependencies_reach_source_travel :
    Manifest.parse travelText = .ok travel ∧
    (∃ e : Descriptor, (CommandLine.descriptors .empty travel)[0]? = some e ∧
      e.dependencies = [⟨"roles", "", false⟩, ⟨"cubeengine-core", "3.0", false⟩,
        ⟨"roles", "", false⟩, ⟨"cubeengine-core", "unknown", false⟩]) ∧
    ∃ before after,
      (process Memory.sink .empty travel.discovery Memory.empty).state.sourceText?
        ("org.lib" ++ ".Plugin" ++ "Lib") =
          some (before ++ "        dependencies = \x7b" ++ "" ++ "\x7d)\n" ++ after) := by
  have hparse : Manifest.parse travelText = .ok travel :=
    toOption_eq_some.mp (by decide +kernel)
  obtain ⟨-, -, hmodules, hcores, -, hstored⟩ :=
    dependencies_reach_source hparse .empty Memory.empty
  obtain ⟨e, he, -, hdependencies⟩ := hmodules 0 _ rfl
  obtain ⟨c, hc, -, hnone⟩ := hcores 0 _ rfl
  have honly (j : Nat) (d' : Declaration) (hd' : travel.declarations[j]? = some d')
      (hname : d'.package ++ ".Plugin" ++ d'.name = "org.lib" ++ ".Plugin" ++ "Lib") : j = 1 := by
    match j, hd' with
    | 0, hd' => cases hd'; exact absurd hname (by decide)
    | 1, _ => rfl
    | _ + 2, hd' => cases hd'
  have htext := hstored 1 _ c rfl hc honly
  rw [hnone] at htext
  exact ⟨hparse, ⟨e, he, by rw [hdependencies]; decide +kernel⟩, _, _, htext⟩

end Round

end PluginWrapper
