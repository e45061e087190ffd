import Mathlib.Data.List.Forall2
import PluginWrapper.CommandLine
import PluginWrapper.Proofs.Round.Memory

/-! A round foretold by descriptors: whatever the sink does, the descriptors of the declarations say
what is written, in which order, and what the first failure is about. -/
namespace PluginWrapper.Round
variable {σ ω : Type}

/-- The contents were written to what was opened. -/
inductive Wrote (sink : Sink σ ω) (contents : Bytes) : Except IoError ω × σ → σ → Prop where
  | intro {w : ω} {s s' : σ} :
    sink.writeBuffered contents w s = (.ok (), s') → Wrote sink contents (.ok w, s) s'

/-- The artifact was not opened or not written. -/
inductive Refused (sink : Sink σ ω) (artifact : String) (contents : Bytes) :
    Except IoError ω × σ → GenerationError → σ → Prop where
  | opening (e : IoError) (s : σ) :
    Refused sink artifact contents (.error e, s) (.cannotOpen artifact e) s
  | writing {w : ω} {e : IoError} {s s' : σ} : sink.writeBuffered contents w s = (.error e, s') →
    Refused sink artifact contents (.ok w, s) (.cannotWrite artifact e) s'

/-- The text was written as the source that the descriptor names, and then its empty resource. -/
inductive Completes (sink : Sink σ ω) (e : Descriptor) (text : String) (s : σ) : σ → Prop where
  | intro {s' s'' : σ} :
    Wrote sink (Bytes.ofString text)
      (sink.openSource (e.package ++ "." ++ e.names.className) s) s' →
    Wrote sink [] (sink.openResource "assets" (e.names.pluginId ++ "/lang/en_us.lang") s') s'' →
    Completes sink e text s s''

/-- One of the two was not written. -/
inductive Fails (sink : Sink σ ω) (e : Descriptor) (text : String) (s : σ) :
    GenerationError → σ → Prop where
  | source {err : GenerationError} {s' : σ} :
    Refused sink (e.package ++ "." ++ e.names.className) (Bytes.ofString text)
      (sink.openSource (e.package ++ "." ++ e.names.className) s) err s' →
    Fails sink e text s err s'
  | resource {err : GenerationError} {s' s'' : σ} :
    Wrote sink (Bytes.ofString text)
      (sink.openSource (e.package ++ "." ++ e.names.className) s) s' →
    Refused sink ("assets/" ++ e.names.pluginId ++ "/lang/en_us.lang") []
      (sink.openResource "assets" (e.names.pluginId ++ "/lang/en_us.lang") s') err s'' →
    Fails sink e text s err s''

/-- One descriptor after the other was completed with its text. -/
inductive CompletesAll (sink : Sink σ ω) : List (Descriptor × String) → σ → σ → Prop where
  | nil (s : σ) : CompletesAll sink [] s s
  | cons {e : Descriptor} {text : String} {rest : List (Descriptor × String)} {s s' s'' : σ} :
    Completes sink e text s s' → CompletesAll sink rest s' s'' →
    CompletesAll sink ((e, text) :: rest) s s''

def predicted (e : Descriptor) : Artifact where
  kind := e.kind
  pluginId := e.names.pluginId
  source := e.package ++ "." ++ e.names.className
  resource := "assets/" ++ e.names.pluginId ++ "/lang/en_us.lang"

variable {sink : Sink σ ω} {e : Descriptor} {text : String} {s s' : σ} {err : GenerationError}

private theorem Refused.artifact_eq {artifact : String} {contents : Bytes}
    {opened : Except IoError ω × σ}
    (h : Refused sink artifact contents opened err s) : err.artifact = artifact := by
  cases h <;> rfl

private theorem Fails.artifact_eq (h : Fails sink e text s err s') :
    err.artifact = (predicted e).source ∨ err.artifact = (predicted e).resource := by
  cases h with
  | source hrefused => exact .inl hrefused.artifact_eq
  | resource _ hrefused => exact .inr hrefused.artifact_eq

private theorem writeArtifact_told (sink : Sink σ ω) (artifact : String)
    (opened : Except IoError ω × σ) (contents : Bytes) (written : Event) :
    let out := writeArtifact sink artifact opened contents written
    out.result = .ok () ∧ Wrote sink contents opened out.state ∨
      ∃ err, out.result = .error err ∧ Refused sink artifact contents opened err out.state := by
  obtain ⟨result, s⟩ := opened
  cases result with
  | error e => exact .inr ⟨_, rfl, .opening e s⟩
  | ok w =>
    dsimp only [writeArtifact]
    cases hwrite : sink.writeBuffered contents w s with
    | mk result s' =>
      cases result with
      | error e => exact .inr ⟨_, rfl, .writing hwrite⟩
      | ok _ => exact .inl ⟨rfl, .intro hwrite⟩

private theorem resource_predicted (e : Descriptor) :
    (artifactNames e).resource = (predicted e).resource := by
  simp only [artifactNames, predicted, resourcePackage, languageResource, String.append_assoc]
  rfl

private theorem emit_told (sink : Sink σ ω) (e : Descriptor) (text : String) (s : σ) :
    let out := emit sink e text s
    (∃ names, out.result = .ok names) ∧ Completes sink e text s out.state ∨
      ∃ err, out.result = .error err ∧ Fails sink e text s err out.state := by
  have hsource := writeArtifact_told sink (artifactNames e).source
    (sink.openSource (artifactNames e).source s) (Bytes.ofString text)
    (.wroteSource (artifactNames e).source (Bytes.ofString text).length)
  simp only [emit, Outcome.andThen]
  generalize writeArtifact sink (artifactNames e).source _ (Bytes.ofString text) _ = first at *
  obtain ⟨result, events, s'⟩ := first
  rcases hsource with ⟨rfl, hwrote⟩ | ⟨err, rfl, hrefused⟩
  · have hresource := writeArtifact_told sink (artifactNames e).resource
      (sink.openResource resourcePackage (languageResource e.names.pluginId) s') []
      (.wroteResource (artifactNames e).resource)
    dsimp only [Outcome.map]
    generalize writeArtifact sink (artifactNames e).resource _ [] _ = second at *
    obtain ⟨result, events', s''⟩ := second
    rcases hresource with ⟨rfl, hwrote'⟩ | ⟨err, rfl, hrefused⟩
    · exact .inl ⟨⟨_, rfl⟩, .intro hwrote hwrote'⟩
    · rw [resource_predicted] at hrefused
      exact .inr ⟨err, rfl, .resource hwrote hrefused⟩
  · exact .inr ⟨err, rfl, .source hrefused⟩

private theorem generate_told (sink : Sink σ ω) (options : OptionTable) (d : Declaration) (s : σ) :
    let e := Descriptor.resolve d options
    let out := generate sink options d s
    out.result = .ok (predicted e) ∧ Completes sink e (Wrapper.source d e) s out.state ∨
      ∃ err, out.result = .error err ∧ Fails sink e (Wrapper.source d e) s err out.state := by
  have hartifact : artifact d (.resolve d options) = predicted (.resolve d options) := by
    rw [artifact, resource_predicted]
    rfl
  rcases emit_told sink (.resolve d options) (Wrapper.source d (.resolve d options)) s with
    ⟨⟨names, hresult⟩, hcompletes⟩ | ⟨err, hresult, hfails⟩
  · exact .inl ⟨by simp only [generate, Outcome.map, hresult, Except.map, hartifact], hcompletes⟩
  · exact .inr ⟨err, by simp only [generate, Outcome.map, hresult, Except.map], hfails⟩

/-- What a sink is handed for the declarations, as long as none fails. -/
def handed (options : OptionTable) (ds : List Declaration) : List (Descriptor × String) :=
  ds.map fun d => (.resolve d options, Wrapper.source d (.resolve d options))

theorem generateAll_told (sink : Sink σ ω) (options : OptionTable) (ds : List Declaration) (s : σ) :
    let out := generateAll sink options ds s
    out.result = .ok (ds.map fun d => predicted (.resolve d options)) ∧
        CompletesAll sink (handed options ds) s out.state ∨
      ∃ err front d rest mid, ds = front ++ d :: rest ∧ out.result = .error err ∧
        CompletesAll sink (handed options front) s mid ∧
        Fails sink (.resolve d options) (Wrapper.source d (.resolve d options)) mid err
          out.state := by
  induction ds generalizing s with
  | nil => exact .inl ⟨rfl, .nil s⟩
  | cons d ds ih =>
    have hfirst := generate_told sink options d s
    simp only [generateAll, Outcome.andThen]
    generalize generate sink options d s = first at *
    obtain ⟨result, events, s'⟩ := first
    rcases hfirst with ⟨rfl, hcompletes⟩ | ⟨err, rfl, hfails⟩
    · rcases ih s' with ⟨hresult, hall⟩ | ⟨err, front, d', rest, mid, rfl, hresult, hall, hfails⟩
      · exact .inl ⟨by simp [Outcome.map, hresult, Except.map], .cons hcompletes hall⟩
      · exact .inr ⟨err, d :: front, d', rest, mid, rfl,
          by simp [Outcome.map, hresult, Except.map], .cons hcompletes hall, hfails⟩
    · exact .inr ⟨err, [], d, ds, s, rfl, rfl, .nil s, hfails⟩

/-- The descriptors of a manifest tell what a round over it does with any sink. If it succeeds, its
report says of each artifact what its descriptor says, and each source was rendered from its
declaration and its descriptor. If it fails, this is so up to the declaration that the failure is
about. -/
theorem descriptors_predict_run (sink : Sink σ ω) (options : OptionTable) (m : Manifest) (s : σ) :
    let described := CommandLine.descriptors options m
    let texts := List.zipWith (fun d e => (e, Wrapper.source d e)) m.declarations described
    let out := process sink options m.discovery s
    List.Forall₂ (fun d e => e.names = Names.derive d.name options ∧
      e.dependencies = Dependency.complete d.dependencies d.kind options.loaderVersion)
      m.declarations described ∧
    (∀ report, out.result = .ok report →
      report.artifacts = described.map (fun e => ⟨e.kind, e.names.pluginId,
        e.package ++ "." ++ e.names.className,
        "assets/" ++ e.names.pluginId ++ "/lang/en_us.lang"⟩) ∧
      CompletesAll sink texts s out.state) ∧
    ∀ err, out.result = .error err → ∃ i d e mid, m.declarations[i]? = some d ∧
      described[i]? = some e ∧ CompletesAll sink (texts.take i) s mid ∧
      Fails sink e (Wrapper.source d e) mid err out.state ∧
      (err.artifact = e.package ++ "." ++ e.names.className ∨
        err.artifact = "assets/" ++ e.names.pluginId ++ "/lang/en_us.lang") := by
  intro described texts out
  have htexts : texts = handed options m.declarations := by
    simp [texts, described, CommandLine.descriptors, handed, List.zipWith_map_right,
      List.zipWith_self]
  have hrun : out = run sink options m.declarations s := process_discovery sink options m s
  have hstate : out.state = _ := hrun ▸ run_state sink options m.declarations s
  have horder := generationOrder_declarations m
  rw [horder] at hstate
  refine ⟨List.forall₂_map_right_iff.mpr (List.forall₂_same.mpr fun d _ => ⟨rfl, rfl⟩), ?_⟩
  rcases generateAll_told sink options m.declarations s with
    ⟨hresult, hall⟩ | ⟨err, front, d, rest, mid, hds, hresult, hall, hfails⟩
  · have hout : out.result = .ok ⟨_⟩ := hrun ▸ run_ok (by rw [horder, hresult])
    rw [hout, hstate, htexts]
    have hpredicted : described.map predicted = _ := List.map_map ..
    refine ⟨fun report hreport => ?_, nofun⟩
    cases hreport
    exact ⟨hpredicted.symm, hall⟩
  · have hout : out.result = .error err := hrun ▸ run_error (by rw [horder, hresult])
    rw [hout, hstate, htexts]
    refine ⟨nofun, fun err' herr => ?_⟩
    cases herr
    have htake : (handed options m.declarations).take front.length = handed options front := by
      rw [hds, handed, List.map_append]
      exact List.take_left' (by simp)
    exact ⟨front.length, d, .resolve d options, mid, by simp [hds],
      by simp [described, CommandLine.descriptors, hds], htake.symm ▸ hall, hfails,
      hfails.artifact_eq⟩

end PluginWrapper.Round
