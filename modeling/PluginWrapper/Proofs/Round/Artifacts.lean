import PluginWrapper.Manifest
import PluginWrapper.Proofs.Outcome
import PluginWrapper.Proofs.Sink.Memory

/-! The two artifacts of a declaration, and a round told from the generation of each declaration,
whether the declarations come in one list or from a manifest. -/
namespace PluginWrapper

namespace Declaration

def sourceName (d : Declaration) : String := d.package ++ ".Plugin" ++ d.name

def pluginId (d : Declaration) (options : OptionTable) : String :=
  "cubeengine-" ++ options.id d.name

def resourceName (d : Declaration) (options : OptionTable) : String :=
  "assets/" ++ d.pluginId options ++ "/lang/en_us.lang"

def wrapper (d : Declaration) (options : OptionTable) : Bytes :=
  Bytes.ofString (Wrapper.source d (.resolve d options))

def entries (options : OptionTable) (d : Declaration) : List (Memory.Slot × Bytes) :=
  [(.source d.sourceName, d.wrapper options), (.resource (d.resourceName options), [])]

theorem sourceName_resolve (d : Declaration) (options : OptionTable) :
    (Descriptor.resolve d options).sourceName = d.sourceName := by
  simp only [Descriptor.sourceName, Descriptor.resolve, Descriptor.ofMetadata, Names.ofMetadata,
    Names.classPrefix, sourceName, String.append_assoc]
  rfl

theorem pluginId_resolve (d : Declaration) (options : OptionTable) :
    (Descriptor.resolve d options).names.pluginId = d.pluginId options := rfl

theorem resourceName_resolve (d : Declaration) (options : OptionTable) :
    Round.resourcePackage ++ "/" ++ Round.languageResource (d.pluginId options) =
      d.resourceName options := by
  simp only [Round.resourcePackage, Round.languageResource, resourceName, String.append_assoc]
  rfl

theorem artifactNames_resolve (d : Declaration) (options : OptionTable) :
    Round.artifactNames (.resolve d options) = ⟨d.sourceName, d.resourceName options⟩ := by
  rw [Round.artifactNames, sourceName_resolve, pluginId_resolve, resourceName_resolve]

end Declaration

namespace Manifest
variable {m : Manifest} {k : Kind} {d : Declaration}

private theorem kind_of_mem_annotated (h : d ∈ m.annotated k) : d.kind = k := by
  cases k <;> obtain ⟨_, -, rfl⟩ := List.mem_map.mp h <;> rfl

theorem filter_declarations (m : Manifest) (k : Kind) :
    m.declarations.filter (·.kind = k) = m.annotated k := by
  have hsame (k : Kind) : (m.annotated k).filter (·.kind = k) = m.annotated k :=
    List.filter_eq_self.mpr fun _ hd => decide_eq_true (kind_of_mem_annotated hd)
  have hother {k k' : Kind} (hne : k ≠ k') : (m.annotated k).filter (·.kind = k') = [] :=
    List.filter_eq_nil_iff.mpr fun _ hd => by simpa [kind_of_mem_annotated hd] using hne
  have hdeclarations : m.declarations = m.annotated .module ++ m.annotated .core :=
    m.declarations_eq
  rw [hdeclarations, List.filter_append]
  cases k with
  | module => rw [hsame, hother (by decide), List.append_nil]
  | core => rw [hsame, hother (by decide), List.nil_append]

end Manifest

namespace Round
variable {σ ω : Type}

def reported (options : OptionTable) (d : Declaration) : Artifact where
  kind := d.kind
  pluginId := d.pluginId options
  source := d.sourceName
  resource := d.resourceName options

theorem artifact_resolve (d : Declaration) (options : OptionTable) :
    artifact d (.resolve d options) = reported options d := by
  rw [artifact, Declaration.artifactNames_resolve, Declaration.pluginId_resolve, reported]

def writeSource (sink : Sink σ ω) (options : OptionTable) (d : Declaration) (s : σ) :
    Outcome σ Unit :=
  writeArtifact sink d.sourceName (sink.openSource d.sourceName s) (d.wrapper options)
    (.wroteSource d.sourceName (d.wrapper options).length)

def writeResource (sink : Sink σ ω) (options : OptionTable) (d : Declaration) (s : σ) :
    Outcome σ Unit :=
  writeArtifact sink (d.resourceName options)
    (sink.openResource resourcePackage (languageResource (d.pluginId options)) s) []
    (.wroteResource (d.resourceName options))

theorem emit_resolve (sink : Sink σ ω) (options : OptionTable) (d : Declaration) (s : σ) :
    emit sink (.resolve d options) (Wrapper.source d (.resolve d options)) s =
      (writeSource sink options d s).andThen fun () s =>
        (writeResource sink options d s).map fun () => ⟨d.sourceName, d.resourceName options⟩ := by
  simp only [emit, Declaration.artifactNames_resolve, Declaration.pluginId_resolve]
  rfl

variable {sink : Sink σ ω} {options : OptionTable} {d : Declaration} {s s₁ s₂ : σ}
  {first second : List Event}

theorem generate_ok (hsource : writeSource sink options d s = ⟨.ok (), first, s₁⟩)
    (hresource : writeResource sink options d s₁ = ⟨.ok (), second, s₂⟩) :
    generate sink options d s = ⟨.ok (reported options d),
      announcement d (.resolve d options) :: (first ++ second), s₂⟩ := by
  simp only [generate, emit_resolve, hsource, hresource, Outcome.andThen, Outcome.map,
    artifact_resolve]
  rfl

theorem generate_source_error {e : GenerationError}
    (hsource : writeSource sink options d s = ⟨.error e, first, s₁⟩) :
    generate sink options d s =
      ⟨.error e, announcement d (.resolve d options) :: first, s₁⟩ := by
  simp only [generate, emit_resolve, hsource, Outcome.andThen, Outcome.map]
  rfl

theorem generate_resource_error {e : GenerationError}
    (hsource : writeSource sink options d s = ⟨.ok (), first, s₁⟩)
    (hresource : writeResource sink options d s₁ = ⟨.error e, second, s₂⟩) :
    generate sink options d s =
      ⟨.error e, announcement d (.resolve d options) :: (first ++ second), s₂⟩ := by
  simp only [generate, emit_resolve, hsource, hresource, Outcome.andThen, Outcome.map]
  rfl

theorem generateAll_cons_ok {a : Artifact} {events : List Event} (ds : List Declaration)
    (h : generate sink options d s = ⟨.ok a, events, s₁⟩) :
    generateAll sink options (d :: ds) s =
      ⟨(generateAll sink options ds s₁).result.map (a :: ·),
        events ++ (generateAll sink options ds s₁).events,
        (generateAll sink options ds s₁).state⟩ := by
  rw [generateAll, h]
  rfl

theorem generateAll_cons_error {e : GenerationError} {events : List Event} (ds : List Declaration)
    (h : generate sink options d s = ⟨.error e, events, s₁⟩) :
    generateAll sink options (d :: ds) s = ⟨.error e, events, s₁⟩ := by
  rw [generateAll, h]
  rfl

/-- Generating what is in two lists is generating the one and then the other. -/
theorem generateAll_append (sink : Sink σ ω) (options : OptionTable) (ds ds' : List Declaration)
    (s : σ) : generateAll sink options (ds ++ ds') s =
      (generateAll sink options ds s).andThen fun as s =>
        (generateAll sink options ds' s).map (as ++ ·) := by
  induction ds generalizing s with
  | nil => exact (Outcome.map_id _).symm
  | cons d ds ih =>
    simp only [List.cons_append, generateAll, ih, Outcome.andThen_assoc, Outcome.map_andThen,
      Outcome.andThen_map, Outcome.map_map]

theorem generateKinds_eq (sink : Sink σ ω) (options : OptionTable)
    (annotated : Kind → List Declaration) (kinds : List Kind) (s : σ) :
    generateKinds sink options annotated kinds s =
      generateAll sink options (kinds.flatMap annotated) s := by
  induction kinds generalizing s with
  | nil => rfl
  | cons k kinds ih => simp only [generateKinds, List.flatMap_cons, generateAll_append, ih]

theorem process_of_isOver {found : Discovery} (h : found.isOver = true) (sink : Sink σ ω)
    (options : OptionTable) (s : σ) :
    process sink options found s = ⟨.ok .empty, [.finalRound], s⟩ := by
  rw [process, if_pos h]

theorem process_eq {found : Discovery} (h : found.isOver = false) (sink : Sink σ ω)
    (options : OptionTable) (s : σ) : process sink options found s =
      (generateAll sink options (Kind.all.flatMap found.annotated) s).andThen complete := by
  rw [process, if_neg (by simp [h]), generateKinds_eq]

theorem run_eq (sink : Sink σ ω) (options : OptionTable) (ds : List Declaration) (s : σ) :
    run sink options ds s =
      (generateAll sink options (Declaration.generationOrder ds) s).andThen complete :=
  process_eq rfl sink options s

theorem run_ok {ds : List Declaration} {as : List Artifact}
    (h : (generateAll sink options (Declaration.generationOrder ds) s).result = .ok as) :
    (run sink options ds s).result = .ok ⟨as⟩ := by
  rw [run_eq]
  exact (Outcome.andThen_of_ok complete h).1

theorem run_error {ds : List Declaration} {e : GenerationError}
    (h : (generateAll sink options (Declaration.generationOrder ds) s).result = .error e) :
    (run sink options ds s).result = .error e := by
  rw [run_eq]
  exact (Outcome.andThen_of_error complete h).1

theorem run_state (sink : Sink σ ω) (options : OptionTable) (ds : List Declaration) (s : σ) :
    (run sink options ds s).state =
      (generateAll sink options (Declaration.generationOrder ds) s).state := by
  simp only [run_eq, Outcome.andThen]
  split <;> rfl

theorem generationOrder_eq (ds : List Declaration) :
    Declaration.generationOrder ds =
      ds.filter (·.kind = .module) ++ ds.filter (·.kind = .core) := by
  simp [Declaration.generationOrder, Kind.all]

theorem generationOrder_perm (ds : List Declaration) :
    (Declaration.generationOrder ds).Perm ds := by
  have h : ds.filter (·.kind = .core) = ds.filter fun d => !decide (d.kind = .module) := by
    apply List.filter_congr
    intro d _
    cases d.kind <;> rfl
  rw [generationOrder_eq, h]
  exact List.filter_append_perm _ ds

/-- A manifest lists its modules first and declares each entry of one kind. -/
theorem generationOrder_declarations (m : Manifest) :
    Declaration.generationOrder m.declarations = m.declarations :=
  congrArg Kind.all.flatMap (funext m.filter_declarations)

theorem process_discovery (sink : Sink σ ω) (options : OptionTable) (m : Manifest) (s : σ) :
    process sink options m.discovery s = run sink options m.declarations s := by
  have hfound : Discovery.ofList m.declarations false = m.discovery :=
    congrArg (Discovery.mk · false) (funext m.filter_declarations)
  rw [run, hfound]

end Round

end PluginWrapper
