import PluginWrapper.Log.Record
import PluginWrapper.Proofs.Bytes
import PluginWrapper.Proofs.Round.Prediction
import PluginWrapper.Proofs.Sink.Delivery

/-! What a round says about itself while it writes. Each completed declaration leaves the same three
records, and where the round fails the records end with the last artifact that arrived. -/
namespace PluginWrapper

namespace Round
variable {σ ω : Type}

/-- The record that begins a declaration. A module has one dependency more than it declares. -/
def began (options : OptionTable) (d : Declaration) : LogRecord where
  level := .debug
  target := "cubegen_core::processor"
  message := "Generating plugin wrapper"
  fields := [("element", .str (d.package ++ "." ++ d.name)),
    ("annotation", .str d.kind.annotation),
    ("plugin_id", .str ("cubeengine-" ++ options.id d.name)),
    ("dependencies", .int (d.dependencies.length + (if d.kind = .module then 1 else 0)))]

def stored (options : OptionTable) (d : Declaration) : LogRecord where
  level := .debug
  target := "cubegen_core::emit"
  message := "Wrote plugin source"
  fields := [("artifact", .str (d.package ++ ".Plugin" ++ d.name)),
    ("bytes", .int (Wrapper.source d (.resolve d options)).utf8ByteSize)]

def finished (options : OptionTable) (d : Declaration) : LogRecord where
  level := .debug
  target := "cubegen_core::emit"
  message := "Wrote language resource"
  fields := [("artifact", .str ("assets/cubeengine-" ++ options.id d.name ++ "/lang/en_us.lang"))]

def summary (modules cores : Nat) : LogRecord where
  level := .info
  target := "cubegen_core::processor"
  message := "Plugin generation round complete"
  fields := [("modules", .int modules), ("cores", .int cores)]

/-- The text of the wrapper arrived where its source had been opened. -/
def SourceArrives (sink : Sink σ ω) (options : OptionTable) (d : Declaration) (s s' : σ) : Prop :=
  sink.Delivers (Bytes.ofString (Wrapper.source d (.resolve d options)))
    (sink.openSource (d.package ++ ".Plugin" ++ d.name) s) s'

def events (options : OptionTable) (d : Declaration) : List Event :=
  [announcement d (.resolve d options), .wroteSource d.sourceName (d.wrapper options).length,
    .wroteResource (d.resourceName options)]

private theorem record_announcement (options : OptionTable) (d : Declaration) :
    (announcement d (.resolve d options)).record = began options d := by
  have hid : (Descriptor.resolve d options).names.pluginId = "cubeengine-" ++ options.id d.name :=
    rfl
  have hdependencies : (Descriptor.resolve d options).dependencies =
      Dependency.complete d.dependencies d.kind options.loaderVersion := rfl
  rw [announcement, hid, hdependencies, began]
  cases d.kind <;> simp [Event.record, Declaration.qualifiedName, Dependency.complete]

private theorem record_wroteSource (options : OptionTable) (d : Declaration) :
    (Event.wroteSource d.sourceName (d.wrapper options).length).record = stored options d := by
  rw [Declaration.wrapper, Bytes.length_ofString]
  rfl

private theorem record_wroteResource (options : OptionTable) (d : Declaration) :
    (Event.wroteResource (d.resourceName options)).record = finished options d := by
  have hname : d.resourceName options =
      "assets/cubeengine-" ++ options.id d.name ++ "/lang/en_us.lang" := by
    simp only [Declaration.resourceName, Declaration.pluginId, ← String.append_assoc]
    rfl
  rw [hname]
  rfl

private theorem record_events (options : OptionTable) (d : Declaration) :
    (events options d).map Event.record =
      [began options d, stored options d, finished options d] := by
  rw [events, List.map_cons, List.map_cons, List.map_singleton, record_announcement,
    record_wroteSource, record_wroteResource]

variable {sink : Sink σ ω} {artifact : String} {contents : Bytes} {opened : Except IoError ω × σ}
  {err : GenerationError} {s s' : σ}

private theorem wrote_iff_delivers :
    Wrote sink contents opened s' ↔ sink.Delivers contents opened s' := by
  constructor
  · rintro ⟨hwrite⟩
    exact Sink.writeBuffered_eq_ok.mp hwrite
  · rintro ⟨w, s, w₁, s₁, w₂, rfl, hdelivers⟩
    exact .intro (Sink.writeBuffered_eq_ok.mpr ⟨w, s, w₁, s₁, w₂, rfl, hdelivers⟩)

private theorem Refused.not_wrote (h : Refused sink artifact contents opened err s) :
    ¬ Wrote sink contents opened s' := by
  rintro ⟨hwrite⟩
  cases h with
  | writing herror => rw [hwrite] at herror; cases herror

private theorem writeArtifact_of_wrote (h : Wrote sink contents opened s') (artifact : String)
    (written : Event) :
    writeArtifact sink artifact opened contents written = ⟨.ok (), [written], s'⟩ := by
  obtain ⟨hwrite⟩ := h
  simp only [writeArtifact, hwrite]

private theorem writeArtifact_of_refused (h : Refused sink artifact contents opened err s')
    (written : Event) :
    writeArtifact sink artifact opened contents written = ⟨.error err, [], s'⟩ := by
  cases h with
  | opening e s => rfl
  | writing hwrite => simp only [writeArtifact, hwrite]

variable {options : OptionTable} {d : Declaration}

private theorem writeSource_of_wrote
    (h : Wrote sink (Bytes.ofString (Wrapper.source d (.resolve d options)))
      (sink.openSource (Descriptor.resolve d options).sourceName s) s') :
    writeSource sink options d s =
      ⟨.ok (), [.wroteSource d.sourceName (d.wrapper options).length], s'⟩ := by
  rw [Declaration.sourceName_resolve] at h
  exact writeArtifact_of_wrote h d.sourceName _

/-- A completed declaration has its three events. -/
private theorem generate_of_completes
    (h : Completes sink (.resolve d options) (Wrapper.source d (.resolve d options)) s s') :
    generate sink options d s = ⟨.ok (reported options d), events options d, s'⟩ := by
  obtain ⟨hsource, hresource⟩ := h
  exact generate_ok (writeSource_of_wrote hsource)
    (writeArtifact_of_wrote hresource (d.resourceName options) _)

/-- A declaration that fails is announced, and its source is told of if it arrived. -/
private theorem generate_of_fails
    (h : Fails sink (.resolve d options) (Wrapper.source d (.resolve d options)) s err s') :
    ∃ tail, generate sink options d s =
        ⟨.error err, announcement d (.resolve d options) :: tail, s'⟩ ∧
      ((∃ mid, SourceArrives sink options d s mid) ∧
          tail = [.wroteSource d.sourceName (d.wrapper options).length] ∨
        (¬ ∃ mid, SourceArrives sink options d s mid) ∧ tail = []) := by
  have hname : (Descriptor.resolve d options).package ++ "." ++
      (Descriptor.resolve d options).names.className = d.sourceName :=
    Declaration.sourceName_resolve d options
  cases h with
  | source hrefused =>
    rw [hname] at hrefused
    refine ⟨[], generate_source_error (writeArtifact_of_refused hrefused _), .inr ⟨?_, rfl⟩⟩
    rintro ⟨mid, harrives⟩
    exact hrefused.not_wrote (wrote_iff_delivers.mpr harrives)
  | resource hwrote hrefused =>
    rename_i mid
    refine ⟨_, generate_resource_error (writeSource_of_wrote hwrote)
      (writeArtifact_of_refused hrefused _), .inl ⟨⟨mid, ?_⟩, rfl⟩⟩
    rw [hname] at hwrote
    exact wrote_iff_delivers.mp hwrote

/-- What completed declarations report and tell comes before what the rest does. -/
theorem generateAll_of_completesAll {before : List Declaration} {mid : σ}
    (h : CompletesAll sink (handed options before) s mid) (rest : List Declaration) :
    generateAll sink options (before ++ rest) s =
      ⟨(generateAll sink options rest mid).result.map (before.map (reported options) ++ ·),
        before.flatMap (events options) ++ (generateAll sink options rest mid).events,
        (generateAll sink options rest mid).state⟩ := by
  induction before generalizing s with
  | nil =>
    cases h
    rw [List.nil_append]
    generalize generateAll sink options rest _ = out
    obtain ⟨result, _, _⟩ := out
    cases result <;> rfl
  | cons d before ih =>
    cases h with
    | cons hcompletes hrest =>
      rw [List.cons_append, generateAll_cons_ok _ (generate_of_completes hcompletes), ih hrest,
        List.flatMap_cons, List.append_assoc]
      obtain ⟨result, _, _⟩ := generateAll sink options rest mid
      cases result <;> rfl

/-- Where completed declarations are all there are, they are the whole round. -/
theorem generateAll_of_completesAll_self {ds : List Declaration}
    (h : CompletesAll sink (handed options ds) s s') :
    generateAll sink options ds s =
      ⟨.ok (ds.map (reported options)), ds.flatMap (events options), s'⟩ := by
  have hall := generateAll_of_completesAll h []
  rw [List.append_nil, generateAll] at hall
  rw [hall]
  simp [Except.map]

/-- Nothing is told of what comes after the declaration that fails. -/
theorem generateAll_of_fails {before : List Declaration} {mid : σ}
    (hall : CompletesAll sink (handed options before) s mid)
    (h : Fails sink (.resolve d options) (Wrapper.source d (.resolve d options)) mid err s')
    (after : List Declaration) :
    ∃ tail, generateAll sink options (before ++ d :: after) s =
        ⟨.error err, before.flatMap (events options) ++
          announcement d (.resolve d options) :: tail, s'⟩ ∧
      ((∃ s'', SourceArrives sink options d mid s'') ∧
          tail = [.wroteSource d.sourceName (d.wrapper options).length] ∨
        (¬ ∃ s'', SourceArrives sink options d mid s'') ∧ tail = []) := by
  obtain ⟨tail, hgenerate, htail⟩ := generate_of_fails h
  refine ⟨tail, ?_, htail⟩
  rw [generateAll_of_completesAll hall, generateAll_cons_error after hgenerate]
  rfl

theorem run_events_of_ok {ds : List Declaration} {as : List Artifact}
    (h : (generateAll sink options (Declaration.generationOrder ds) s).result = .ok as) :
    (run sink options ds s).events =
      (generateAll sink options (Declaration.generationOrder ds) s).events ++
        [.roundComplete (Report.count ⟨as⟩ .module) (Report.count ⟨as⟩ .core)] := by
  simp only [run_eq, Outcome.andThen, h, complete]

theorem run_events_of_error {ds : List Declaration}
    (h : (generateAll sink options (Declaration.generationOrder ds) s).result = .error err) :
    (run sink options ds s).events =
      (generateAll sink options (Declaration.generationOrder ds) s).events := by
  simp only [run_eq, Outcome.andThen, h]

/-- A round that succeeds reports each declaration, in the order of generation. -/
theorem artifacts_of_run_ok {ds : List Declaration} {report : Report}
    (h : (run sink options ds s).result = .ok report) :
    report.artifacts = (Declaration.generationOrder ds).map (reported options) := by
  rcases generateAll_told sink options (Declaration.generationOrder ds) s with
    ⟨-, hall⟩ | ⟨err, _, _, _, _, -, hresult, -⟩
  · have hresult := congrArg Outcome.result (generateAll_of_completesAll_self hall)
    rw [run_ok hresult] at h
    cases h
    rfl
  · rw [run_error hresult] at h
    cases h

private theorem count_reported (options : OptionTable) (ds : List Declaration) (kind : Kind) :
    Report.count ⟨(Declaration.generationOrder ds).map (reported options)⟩ kind =
      ds.countP (·.kind = kind) := by
  rw [Report.count, List.countP_map, (generationOrder_perm ds).countP_eq]
  rfl

/-- The records of a round tell exactly what was written, whatever the sink does. A declaration that
was completed has its three records, in the order of generation. A round that succeeds ends with the
numbers of its artifacts. A round that fails ends with the declaration that it fails at, and names
the source of this one if and only if its text was taken to the end and flushed. -/
theorem events_tell_run (sink : Sink σ ω) (options : OptionTable) (ds : List Declaration) (s : σ) :
    let order := ds.filter (·.kind = .module) ++ ds.filter (·.kind = .core)
    let completed (d : Declaration) := [began options d, stored options d, finished options d]
    let out := run sink options ds s
    let records := out.events.map Event.record
    (match out.result with
    | .ok report =>
      CompletesAll sink (handed options order) s out.state ∧
      report.artifacts = order.map (reported options) ∧
      ∃ modules cores, records = order.flatMap completed ++ [summary modules cores] ∧
        modules = ds.countP (·.kind = .module) ∧ cores = ds.countP (·.kind = .core) ∧
        modules + cores = report.artifacts.length
    | .error err => ∃ before d after mid tail, order = before ++ d :: after ∧
      CompletesAll sink (handed options before) s mid ∧
      Fails sink (.resolve d options) (Wrapper.source d (.resolve d options)) mid err out.state ∧
      records = before.flatMap completed ++ began options d :: tail ∧
      ((∃ s', SourceArrives sink options d mid s') ∧ tail = [stored options d] ∨
        (¬ ∃ s', SourceArrives sink options d mid s') ∧ tail = [])) ∧
    let last := process sink options (.ofList ds true) s
    last.result = .ok ⟨[]⟩ ∧ last.state = s ∧ last.events.map Event.record =
      [⟨.debug, "cubegen_core::processor", "Final processing round, nothing to generate", []⟩] := by
  intro order completed out records
  have horder : Declaration.generationOrder ds = order := generationOrder_eq ds
  have hcompleted (l : List Declaration) :
      (l.flatMap (events options)).map Event.record = l.flatMap completed := by
    rw [List.map_flatMap]
    simp only [record_events, completed]
  refine ⟨?_, by rw [process_of_isOver rfl]; exact ⟨rfl, rfl, rfl⟩⟩
  have hstate : out.state = (generateAll sink options order s).state := by
    rw [← horder]
    exact run_state sink options ds s
  rcases generateAll_told sink options order s with
    ⟨-, hall⟩ | ⟨err, before, d, after, mid, hds, hresult, hall, hfails⟩
  · have hgenerate := generateAll_of_completesAll_self hall
    have hresult : (generateAll sink options (Declaration.generationOrder ds) s).result =
        .ok ((Declaration.generationOrder ds).map (reported options)) := by
      rw [horder, hgenerate]
    have hout : out.result = _ := run_ok hresult
    have hevents : out.events = _ := run_events_of_ok hresult
    rw [count_reported, count_reported, horder, hgenerate] at hevents
    rw [hout, hstate, horder]
    refine ⟨hall, rfl, _, _, ?_, rfl, rfl, ?_⟩
    · simp only [records, hevents, List.map_append, hcompleted]
      rfl
    · rw [List.length_map, List.length_append, List.countP_eq_length_filter,
        List.countP_eq_length_filter]
  · obtain ⟨tail, hgenerate, htail⟩ := generateAll_of_fails hall hfails after
    have hout : out.result = .error err := run_error (by rw [horder, hresult])
    have hevents : out.events = _ := run_events_of_error (by rw [horder, hresult])
    rw [horder, hds, hgenerate] at hevents
    rw [hout]
    refine ⟨before, d, after, mid, tail.map Event.record, hds, hall, hstate ▸ hfails, ?_, ?_⟩
    · simp only [records, hevents, List.map_append, List.map_cons, hcompleted,
        record_announcement]
    · rcases htail with ⟨harrives, rfl⟩ | ⟨harrives, rfl⟩
      · exact .inl ⟨harrives, congrArg (fun r => [r]) (record_wroteSource options d)⟩
      · exact .inr ⟨harrives, rfl⟩

end Round
end PluginWrapper
