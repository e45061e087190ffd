import PluginWrapper.Proofs.Descriptor
import PluginWrapper.Round
import PluginWrapper.Sink.Memory

/-! Rounds under different options. A round reads its options through the descriptors alone, so
tables that lead to the same descriptors lead to the same outcome, with any sink. -/
namespace PluginWrapper.Round
variable {σ ω : Type} {options options' : OptionTable}

private theorem generate_congr (sink : Sink σ ω) (d : Declaration)
    (h : Descriptor.resolve d options = Descriptor.resolve d options') (s : σ) :
    generate sink options d s = generate sink options' d s := by
  simp only [generate, h]

private theorem generateAll_congr (sink : Sink σ ω) (ds : List Declaration)
    (h : ∀ d ∈ ds, Descriptor.resolve d options = Descriptor.resolve d options') (s : σ) :
    generateAll sink options ds s = generateAll sink options' ds s := by
  induction ds generalizing s with
  | nil => rfl
  | cons d ds ih =>
    obtain ⟨hfirst, hrest⟩ := List.forall_mem_cons.mp h
    simp only [generateAll, generate_congr sink d hfirst, ih hrest]

private theorem generateKinds_congr (sink : Sink σ ω) (annotated : Kind → List Declaration)
    (kinds : List Kind) (h : ∀ d, Descriptor.resolve d options = Descriptor.resolve d options')
    (s : σ) : generateKinds sink options annotated kinds s =
      generateKinds sink options' annotated kinds s := by
  induction kinds generalizing s with
  | nil => rfl
  | cons k kinds ih => simp only [generateKinds, generateAll_congr sink _ fun d _ => h d, ih]

/-- Nobody who looks at descriptors, or at what rounds do with a sink, can tell the tables apart. -/
structure Indistinguishable (options options' : OptionTable) : Prop where
  describe : ∀ d, Descriptor.resolve d options = Descriptor.resolve d options'
  process : ∀ {σ ω : Type} (sink : Sink σ ω) (found : Discovery) (s : σ),
    process sink options found s = process sink options' found s

private theorem indistinguishable_of_agrees (h : options.Agrees options') :
    Indistinguishable options options' where
  describe := Descriptor.resolve_congr h
  process sink found s := by
    simp only [Round.process,
      generateKinds_congr sink found.annotated Kind.all fun d => Descriptor.resolve_congr h d]

/-- The descriptor shows what an option is set to, as it is. -/
structure Shows (options : OptionTable) (d : Declaration) (value : String) : Prop where
  version : (Descriptor.resolve d
    (options.insert "cubeengine.module.version" value)).version = value
  id : (Descriptor.resolve d (options.insert "cubeengine.module.id" value)).names.pluginId =
    "cubeengine-" ++ value
  name : (Descriptor.resolve d (options.insert "cubeengine.module.name" value)).names.displayName =
    "CubeEngine - " ++ value
  description : (Descriptor.resolve d
    (options.insert "cubeengine.module.description" value)).description = value
  team : (Descriptor.resolve d (options.insert "cubeengine.module.team" value)).authors =
    value ++ " Team"
  url : (Descriptor.resolve d (options.insert "cubeengine.module.url" value)).url = value
  loaderVersion : d.kind = .module → (Descriptor.resolve d
    (options.insert "cubeengine.module.libcube.version" value)).dependencies =
      d.dependencies ++ [⟨"cubeengine-core", value, false⟩]

private theorem shows_value (options : OptionTable) (d : Declaration) (value : String) :
    Shows options d value := by
  have hverbatim (key fallback : String) (h : key ≠ OptionKey.revision) :
      (options.insert key value).resolve key fallback = value :=
    OptionTable.resolve_insert_verbatim h options value fallback
  constructor
  · exact hverbatim OptionKey.version _ (by decide)
  · exact congrArg ("cubeengine-" ++ ·) (hverbatim OptionKey.id _ (by decide))
  · exact congrArg ("CubeEngine - " ++ ·) (hverbatim OptionKey.name _ (by decide))
  · exact hverbatim OptionKey.description _ (by decide)
  · exact congrArg (· ++ " Team") (hverbatim OptionKey.team _ (by decide))
  · exact hverbatim OptionKey.url _ (by decide)
  · intro hkind
    rw [Descriptor.dependencies_resolve_module hkind, hverbatim _ _ (by decide)]

/-- What a round does depends on eight options. Of seven it takes the value that they resolve to, so
that one which is set to its fallback is as good as none, and so is a source revision that was left
unfilled. The text of such a revision is no different from others in any other option. -/
theorem run_reads_eight_options :
    (∀ options options' : OptionTable,
      (∀ option ∈ OptionTable.fallbacks,
        options.resolve option.1 option.2 = options'.resolve option.1 option.2) →
      options.get? "cubeengine.module.id" = options'.get? "cubeengine.module.id" →
      Indistinguishable options options') ∧
    (∀ options options' : OptionTable,
      (∀ key ∈ OptionTable.effective, options.get? key = options'.get? key) →
      Indistinguishable options options') ∧
    "cubeengine.module.sponge.version" ∉ OptionTable.effective ∧
    (∀ key, key ∉ OptionKey.supported → key ∉ OptionTable.effective) ∧
    (∀ options : OptionTable, ∀ option ∈ OptionTable.fallbacks, options.get? option.1 = none →
      Indistinguishable (options.insert option.1 option.2) options) ∧
    (∀ options : OptionTable, options.get? "cubeengine.module.sourceversion" = none →
      Indistinguishable (options.insert "cubeengine.module.sourceversion"
        "$\x7bgithead.branch\x7d-$\x7bgithead.commit\x7d") options) ∧
    ∀ (options : OptionTable) (d : Declaration),
      Shows options d "$\x7bgithead.branch\x7d-$\x7bgithead.commit\x7d" := by
  refine ⟨fun options options' hresolve hid => ?_, fun options options' h => ?_, by decide,
    fun key hkey heffective => ?_, fun options option hoption hnone => ?_,
    fun options hnone => ?_, fun options d => shows_value options d _⟩
  · exact indistinguishable_of_agrees ⟨hresolve, hid⟩
  · exact indistinguishable_of_agrees (.of_get? h)
  · exact hkey (OptionTable.effective_subset_supported heffective)
  · exact indistinguishable_of_agrees (OptionTable.agrees_insert_fallback hoption hnone)
  · exact indistinguishable_of_agrees (OptionTable.agrees_insert_placeholder hnone)

/-- Options of a build that filled in nothing, and one that nobody reads. -/
private def unfilled : OptionTable :=
  .ofList [("cubeengine.module.sourceversion", revisionPlaceholder),
    ("cubeengine.module.team", "unknown"), ("cubeengine.module.sponge.version", "7.1")]

/-- A build that filled in nothing is like one without options. -/
theorem run_reads_eight_options_unfilled :
    (∀ option ∈ OptionTable.fallbacks,
      unfilled.resolve option.1 option.2 = OptionTable.empty.resolve option.1 option.2) ∧
    unfilled.get? "cubeengine.module.id" = OptionTable.empty.get? "cubeengine.module.id" ∧
    run Memory.sink unfilled [⟨"Travel", "org.example", .module, []⟩] Memory.empty =
      run Memory.sink .empty [⟨"Travel", "org.example", .module, []⟩] Memory.empty := by
  have hresolve : ∀ option ∈ OptionTable.fallbacks,
      unfilled.resolve option.1 option.2 = OptionTable.empty.resolve option.1 option.2 := by
    decide +kernel
  have hid : unfilled.get? "cubeengine.module.id" =
      OptionTable.empty.get? "cubeengine.module.id" := by
    decide +kernel
  obtain ⟨hagree, -⟩ := run_reads_eight_options
  have hprocess := (hagree unfilled .empty hresolve hid).process Memory.sink
    (.ofList [⟨"Travel", "org.example", .module, []⟩] false) Memory.empty
  exact ⟨hresolve, hid, hprocess⟩

end PluginWrapper.Round
