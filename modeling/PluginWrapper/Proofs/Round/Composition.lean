import PluginWrapper.Proofs.Round.Memory

/-! Rounds one after the other. If nothing in a second list has to be generated before anything in
the first, a round over both is a round over the first and, unless that failed, one over the
second. -/
namespace PluginWrapper.Round
variable {σ ω : Type}

/-- The order of generation keeps two lists apart if only one of them has both kinds in it. -/
theorem generationOrder_append {ds ds' : List Declaration}
    (h : (∀ d ∈ ds, d.kind ≠ .core) ∨ ∀ d ∈ ds', d.kind ≠ .module) :
    Declaration.generationOrder (ds ++ ds') =
      Declaration.generationOrder ds ++ Declaration.generationOrder ds' := by
  simp only [generationOrder_eq, List.filter_append]
  rcases h with hcores | hmodules
  · have hnone : ds.filter (·.kind = .core) = [] :=
      List.filter_eq_nil_iff.mpr fun d hd => by simpa using hcores d hd
    rw [hnone, List.append_nil, List.nil_append, List.append_assoc]
  · have hnone : ds'.filter (·.kind = .module) = [] :=
      List.filter_eq_nil_iff.mpr fun d hd => by simpa using hmodules d hd
    rw [hnone, List.append_nil, List.nil_append, List.append_assoc]

/-- What comes of a round over two lists, of which the first has no core or the second no module, is
what comes of two rounds: the first failure, or else both reports, one after the other. -/
theorem run_append (sink : Sink σ ω) (options : OptionTable) {ds ds' : List Declaration}
    (h : (∀ d ∈ ds, d.kind ≠ .core) ∨ ∀ d ∈ ds', d.kind ≠ .module) (s : σ) :
    let whole := run sink options (ds ++ ds') s
    let first := run sink options ds s
    match first.result with
    | .error e => whole.result = .error e ∧ whole.state = first.state
    | .ok report =>
      let second := run sink options ds' first.state
      whole.result = second.result.map (fun report' => ⟨report.artifacts ++ report'.artifacts⟩) ∧
        whole.state = second.state := by
  intro whole first
  let rest (as : List Artifact) (s : σ) : Outcome σ (List Artifact) :=
    (generateAll sink options (Declaration.generationOrder ds') s).map (as ++ ·)
  have hall : generateAll sink options (Declaration.generationOrder (ds ++ ds')) s =
      (generateAll sink options (Declaration.generationOrder ds) s).andThen rest := by
    rw [generationOrder_append h, generateAll_append]
  have hwhole : whole.state = _ := run_state sink options (ds ++ ds') s
  have hfirst : first.state = _ := run_state sink options ds s
  cases hresult : (generateAll sink options (Declaration.generationOrder ds) s).result with
  | error e =>
    obtain ⟨hfails, hstays⟩ := Outcome.andThen_of_error rest hresult
    rw [← hall] at hfails hstays
    rw [show first.result = .error e from run_error hresult]
    exact ⟨run_error hfails, by rw [hwhole, hstays, hfirst]⟩
  | ok as =>
    obtain ⟨hgoes, hends⟩ := Outcome.andThen_of_ok rest hresult
    rw [← hall, ← hfirst] at hgoes hends
    rw [show first.result = .ok ⟨as⟩ from run_ok hresult]
    refine ⟨?_, hwhole.trans (hends.trans (run_state sink options ds' first.state).symm)⟩
    simp only [rest, Outcome.map] at hgoes
    cases hsecond :
        (generateAll sink options (Declaration.generationOrder ds') first.state).result with
    | error e =>
      rw [hsecond] at hgoes
      rw [run_error hsecond]
      exact run_error hgoes
    | ok as' =>
      rw [hsecond] at hgoes
      rw [run_ok hsecond]
      exact run_ok hgoes

/-- A core before the modules, and another one that comes in a round of its own. -/
private def unordered : List Declaration :=
  [⟨"LibCube", "org.cubeengine", .core, []⟩, ⟨"Travel", "org.example", .module, []⟩]

private def later : List Declaration := [⟨"Kernel", "org.example", .core, []⟩]

/-- Two rounds in a memory, and one that does the same. -/
theorem run_append_later :
    (∀ d ∈ later, d.kind ≠ .module) ∧
    (let two := run Memory.sink .empty later (run Memory.sink .empty unordered .empty).state
    let one := run Memory.sink .empty (unordered ++ later) .empty
    one.state = two.state ∧ one.result = .ok ⟨[
      reported .empty ⟨"Travel", "org.example", .module, []⟩,
      reported .empty ⟨"LibCube", "org.cubeengine", .core, []⟩,
      reported .empty ⟨"Kernel", "org.example", .core, []⟩]⟩) := by
  have hlater : ∀ d ∈ later, d.kind ≠ .module := by decide
  have htwo (ds : List Declaration) :
      let two := run Memory.sink .empty later (run Memory.sink .empty ds .empty).state
      let one := run Memory.sink .empty (ds ++ later) .empty
      one.state = two.state ∧ one.result = .ok ⟨(Declaration.generationOrder ds ++
        Declaration.generationOrder later).map (reported .empty)⟩ := by
    have happend := run_append Memory.sink .empty (.inr hlater : (∀ d ∈ ds, _) ∨ _) .empty
    simp only [(run_memory .empty ds .empty).1] at happend
    obtain ⟨hresult, hstate⟩ := happend
    rw [(run_memory .empty later _).1] at hresult
    exact ⟨hstate, hresult.trans (by rw [List.map_append]; rfl)⟩
  exact ⟨hlater, htwo unordered⟩

end PluginWrapper.Round
