import PluginWrapper.Proofs.Round.Artifacts

/-! Rounds into a memory never fail. The last declaration with a name decides what its source
holds, resources are empty, and nothing else changes. -/
namespace PluginWrapper.Round

private theorem writeSource_memory (options : OptionTable) (d : Declaration) (m : Memory) :
    writeSource Memory.sink options d m =
      ⟨.ok (), [.wroteSource d.sourceName (d.wrapper options).length],
        m.put (.source d.sourceName) (d.wrapper options)⟩ := by
  have h := m.writeBuffered_put (.source d.sourceName) (d.wrapper options)
  simp only [writeSource, writeArtifact, Memory.sink] at h ⊢
  rw [h]

private theorem writeResource_memory (options : OptionTable) (d : Declaration) (m : Memory) :
    writeResource Memory.sink options d m =
      ⟨.ok (), [.wroteResource (d.resourceName options)],
        m.put (.resource (d.resourceName options)) []⟩ := by
  have h := m.writeBuffered_put (.resource (d.resourceName options)) []
  simp only [writeResource, writeArtifact, Memory.sink, Memory.resourceSlot,
    Declaration.resourceName_resolve] at h ⊢
  rw [h]

theorem generateAll_memory (options : OptionTable) (ds : List Declaration) (m : Memory) :
    (generateAll Memory.sink options ds m).result = .ok (ds.map (reported options)) ∧
      (generateAll Memory.sink options ds m).state =
        m.putAll (ds.flatMap (Declaration.entries options)) := by
  induction ds generalizing m with
  | nil => exact ⟨rfl, rfl⟩
  | cons d ds ih =>
    have h := generateAll_cons_ok ds
      (generate_ok (writeSource_memory options d m) (writeResource_memory options d _))
    obtain ⟨hresult, hstate⟩ := ih ((m.put (.source d.sourceName) (d.wrapper options)).put
      (.resource (d.resourceName options)) [])
    rw [h]
    constructor
    · rw [hresult]
      rfl
    · rw [hstate]
      rfl

private theorem filter_source_entries (options : OptionTable) (ds : List Declaration)
    (name : String) :
    (ds.flatMap (Declaration.entries options)).filter (·.1 = .source name) =
      (ds.filter (·.sourceName = name)).map
        fun d => (.source d.sourceName, d.wrapper options) := by
  induction ds with
  | nil => rfl
  | cons d ds ih =>
    rw [List.flatMap_cons, List.filter_append, ih]
    by_cases h : d.sourceName = name <;> simp [Declaration.entries, h]

private theorem filter_resource_entries (options : OptionTable) (ds : List Declaration)
    (path : String) :
    (ds.flatMap (Declaration.entries options)).filter (·.1 = .resource path) =
      (ds.filter (·.resourceName options = path)).map
        fun d => (.resource (d.resourceName options), []) := by
  induction ds with
  | nil => rfl
  | cons d ds ih =>
    rw [List.flatMap_cons, List.filter_append, ih]
    by_cases h : d.resourceName options = path <;> simp [Declaration.entries, h]

theorem contents?_source_entries (options : OptionTable) (ds : List Declaration) (m : Memory)
    (name : String) :
    (m.putAll (ds.flatMap (Declaration.entries options))).contents? (.source name) =
      ((ds.filter (·.sourceName = name)).getLast?.map (·.wrapper options)).or
        (m.contents? (.source name)) := by
  rw [Memory.contents?_putAll, filter_source_entries, List.getLast?_map, Option.map_map]
  rfl

theorem contents?_resource_entries (options : OptionTable) (ds : List Declaration) (m : Memory)
    (path : String) :
    (m.putAll (ds.flatMap (Declaration.entries options))).contents? (.resource path) =
      if ∃ d ∈ ds, d.resourceName options = path then some []
      else m.contents? (.resource path) := by
  rw [Memory.contents?_putAll, filter_resource_entries, List.getLast?_map, Option.map_map]
  split
  · rename_i h
    obtain ⟨d, hd, hpath⟩ := h
    have hne : ds.filter (·.resourceName options = path) ≠ [] :=
      List.ne_nil_of_mem (List.mem_filter.mpr ⟨hd, by simpa using hpath⟩)
    rw [List.getLast?_eq_some_getLast hne]
    rfl
  · rename_i h
    have hnil : ds.filter (·.resourceName options = path) = [] :=
      List.filter_eq_nil_iff.mpr fun d hd hpath => h ⟨d, hd, by simpa using hpath⟩
    rw [hnil]
    rfl

theorem run_memory (options : OptionTable) (ds : List Declaration) (m : Memory) :
    (run Memory.sink options ds m).result =
        .ok ⟨(Declaration.generationOrder ds).map (reported options)⟩ ∧
      (run Memory.sink options ds m).state =
        m.putAll ((Declaration.generationOrder ds).flatMap (Declaration.entries options)) := by
  obtain ⟨hresult, hstate⟩ := generateAll_memory options (Declaration.generationOrder ds) m
  exact ⟨run_ok hresult, (run_state Memory.sink options ds m).trans hstate⟩

/-- A round into a memory reports every declaration, the modules first, and each source ends as
its last declaration renders it. The final round reports nothing and touches no sink. -/
theorem memory_last_write_wins (options : OptionTable) (ds : List Declaration) (m : Memory) :
    let order := ds.filter (·.kind = .module) ++ ds.filter (·.kind = .core)
    let name (d : Declaration) := d.package ++ ".Plugin" ++ d.name
    let pluginId (d : Declaration) := "cubeengine-" ++ options.id d.name
    let resource (d : Declaration) := "assets/" ++ pluginId d ++ "/lang/en_us.lang"
    let out := run Memory.sink options ds m
    order.Perm ds ∧
    out.result = .ok ⟨order.map fun d => ⟨d.kind, pluginId d, name d, resource d⟩⟩ ∧
    (∀ key, out.state.contents? (.source key) =
      match (order.filter (name · = key)).getLast? with
      | some d => some (Bytes.ofString (Wrapper.source d (.resolve d options)))
      | none => m.contents? (.source key)) ∧
    (∀ key, out.state.contents? (.resource key) =
      if ∃ d ∈ ds, resource d = key then some [] else m.contents? (.resource key)) ∧
    ∀ (σ ω : Type) (sink : Sink σ ω) (options : OptionTable) (s : σ),
      let last := process sink options (.ofList ds true) s
      last.result = .ok ⟨[]⟩ ∧ last.state = s := by
  intro order name pluginId resource out
  have horder : Declaration.generationOrder ds = order := generationOrder_eq ds
  have hperm : order.Perm ds := horder ▸ generationOrder_perm ds
  obtain ⟨hresult, hstate⟩ := generateAll_memory options order m
  have hout : out.state = m.putAll (order.flatMap (Declaration.entries options)) := by
    rw [← hstate, ← horder]
    exact run_state Memory.sink options ds m
  refine ⟨hperm, ?_, ?_, ?_, fun _ _ sink options s => ?_⟩
  · exact run_ok (by rw [horder, hresult]; rfl)
  · intro key
    rw [hout, contents?_source_entries]
    change ((order.filter (name · = key)).getLast?.map (·.wrapper options)).or _ = _
    cases (order.filter (name · = key)).getLast? <;> rfl
  · intro key
    rw [hout, contents?_resource_entries]
    simp only [hperm.mem_iff]
    rfl
  · rw [process_of_isOver rfl]
    exact ⟨rfl, rfl⟩

end PluginWrapper.Round
