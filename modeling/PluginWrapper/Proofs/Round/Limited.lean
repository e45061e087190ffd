import PluginWrapper.Proofs.Round.Artifacts
import PluginWrapper.Proofs.Round.Memory
import PluginWrapper.Proofs.Sink.Limited

/-! Rounds into a sink that gives out: how far they get, what they report, and what they leave. -/
namespace PluginWrapper.Limited
variable {cap : Option Nat} {flushFails : Bool} {options : OptionTable} {s : Limited}
  {d : Declaration} {ds : List Declaration}

/-- The sink has enough of everything for these declarations. -/
structure Lasts (cap : Option Nat) (flushFails : Bool) (options : OptionTable) (s : Limited)
    (ds : List Declaration) : Prop where
  sources : Covers s.sourcesLeft ds.length
  resources : Covers s.resourcesLeft ds.length
  texts : ∀ d ∈ ds, Covers cap (d.wrapper options).length
  flushes : flushFails = false ∨ ds = []

/-- The failure of a declaration that the sink is not enough for, when `done` others came first. -/
def obstacle (cap : Option Nat) (flushFails : Bool) (options : OptionTable) (s : Limited)
    (done : Nat) (d : Declaration) : GenerationError :=
  if ¬ Covers s.sourcesLeft (done + 1) then .cannotOpen d.sourceName .filerClosed
  else match fault? cap flushFails (d.wrapper options).length with
    | some cause => .cannotWrite d.sourceName cause
    | none => .cannotOpen (d.resourceName options) .readOnly

/-- What such a declaration still leaves: the start of its source, if that could be opened. -/
def remnant (cap : Option Nat) (options : OptionTable) (s : Limited) (done : Nat)
    (d : Declaration) : List (Memory.Slot × Bytes) :=
  if Covers s.sourcesLeft (done + 1) then
    [(.source d.sourceName,
      (d.wrapper options).take (allowed (d.wrapper options).length cap))]
  else []

private theorem lasts_nil : Lasts cap flushFails options s [] :=
  ⟨fun _ _ => Nat.zero_le _, fun _ _ => Nat.zero_le _, nofun, .inr rfl⟩

private theorem Lasts.of_append {before after : List Declaration}
    (h : Lasts cap flushFails options s (before ++ after)) :
    Lasts cap flushFails options s before where
  sources := h.sources.mono (by simp)
  resources := h.resources.mono (by simp)
  texts d hd := h.texts d (List.mem_append_left after hd)
  flushes := h.flushes.imp_right fun hnil => (List.append_eq_nil_iff.mp hnil).1

private theorem lasts_singleton : Lasts cap flushFails options s [d] ↔
    Covers s.sourcesLeft 1 ∧ Covers cap (d.wrapper options).length ∧ flushFails = false ∧
      Covers s.resourcesLeft 1 := by
  constructor
  · intro h
    exact ⟨h.sources, h.texts d (by simp), by simpa using h.flushes, h.resources⟩
  · rintro ⟨hsources, htext, hflush, hresources⟩
    exact ⟨hsources, hresources, by simpa using htext, .inl hflush⟩

def after (options : OptionTable) (s : Limited) (d : Declaration)
    (sourcesLeft resourcesLeft : Option Nat) : Limited where
  memory := s.memory.putAll (d.entries options)
  sourcesLeft := sourcesLeft
  resourcesLeft := resourcesLeft

section After
variable {sourcesLeft resourcesLeft : Option Nat}

private theorem lasts_cons (hd : Lasts cap flushFails options s [d])
    (hs : spend? s.sourcesLeft = some sourcesLeft)
    (hr : spend? s.resourcesLeft = some resourcesLeft) :
    Lasts cap flushFails options s (d :: ds) ↔
      Lasts cap flushFails options (s.after options d sourcesLeft resourcesLeft) ds := by
  obtain ⟨_, htext, hflush, _⟩ := lasts_singleton.mp hd
  constructor
  · intro h
    exact ⟨(covers_succ_iff hs).mp h.sources, (covers_succ_iff hr).mp h.resources,
      fun d hd => h.texts d (List.mem_cons_of_mem _ hd), .inl hflush⟩
  · intro h
    refine ⟨(covers_succ_iff hs).mpr h.sources, (covers_succ_iff hr).mpr h.resources, ?_,
      .inl hflush⟩
    intro d' hd'
    rcases List.mem_cons.mp hd' with rfl | hd'
    · exact htext
    · exact h.texts d' hd'

private theorem obstacle_after (hs : spend? s.sourcesLeft = some sourcesLeft) (e : Declaration)
    (n : Nat) :
    obstacle cap flushFails options (s.after options d sourcesLeft resourcesLeft) n e =
      obstacle cap flushFails options s (n + 1) e := by
  have h := covers_succ_iff (n := n + 1) hs
  by_cases hc : Covers sourcesLeft (n + 1) <;> simp [obstacle, after, h, hc]

private theorem remnant_after (hs : spend? s.sourcesLeft = some sourcesLeft) (e : Declaration)
    (n : Nat) :
    remnant cap options (s.after options d sourcesLeft resourcesLeft) n e =
      remnant cap options s (n + 1) e := by
  have h := covers_succ_iff (n := n + 1) hs
  by_cases hc : Covers sourcesLeft (n + 1) <;> simp [remnant, after, h, hc]

end After

open Round

private theorem writeSource_closed (h : spend? s.sourcesLeft = none) :
    writeSource (sink cap flushFails) options d s =
      ⟨.error (.cannotOpen d.sourceName .filerClosed), [], s⟩ := by
  simp only [writeSource, sink, h, writeArtifact]

private def afterSource (cap : Option Nat) (options : OptionTable) (s : Limited) (d : Declaration)
    (sourcesLeft : Option Nat) : Limited where
  memory := s.memory.put (.source d.sourceName)
    ((d.wrapper options).take (allowed (d.wrapper options).length cap))
  sourcesLeft := sourcesLeft
  resourcesLeft := s.resourcesLeft

private theorem writeBuffered_openSource (cap : Option Nat) (flushFails : Bool)
    (options : OptionTable) (d : Declaration) {left : Option Nat}
    (h : spend? s.sourcesLeft = some left) :
    ∃ w s', (sink cap flushFails).openSource d.sourceName s = (.ok w, s') ∧
      (sink cap flushFails).writeBuffered (d.wrapper options) w s' =
        ((fault? cap flushFails (d.wrapper options).length).elim (.ok ()) .error,
          afterSource cap options s d left) := by
  refine ⟨(.source d.sourceName, cap),
    { s with memory := s.memory.put (.source d.sourceName) [], sourcesLeft := left }, ?_, ?_⟩
  · simp only [sink, h]
  · exact writeBuffered_put cap cap flushFails { s with sourcesLeft := left }
      (.source d.sourceName) (d.wrapper options)

private theorem writeSource_fault {left : Option Nat} {cause : IoError}
    (h : spend? s.sourcesLeft = some left)
    (hfault : fault? cap flushFails (d.wrapper options).length = some cause) :
    writeSource (sink cap flushFails) options d s =
      ⟨.error (.cannotWrite d.sourceName cause), [], afterSource cap options s d left⟩ := by
  obtain ⟨w, s', hopen, hwrite⟩ := writeBuffered_openSource cap flushFails options d h
  simp only [writeSource, hopen, writeArtifact, hwrite, hfault, Option.elim]

private theorem writeSource_ok (options : OptionTable) (d : Declaration) {left : Option Nat}
    (h : spend? s.sourcesLeft = some left)
    (hfault : fault? cap flushFails (d.wrapper options).length = none) :
    writeSource (sink cap flushFails) options d s =
      ⟨.ok (), [.wroteSource d.sourceName (d.wrapper options).length],
        afterSource cap options s d left⟩ := by
  obtain ⟨w, s', hopen, hwrite⟩ := writeBuffered_openSource cap flushFails options d h
  simp only [writeSource, hopen, writeArtifact, hwrite, hfault, Option.elim]

private theorem writeResource_closed (h : spend? s.resourcesLeft = none) :
    writeResource (sink cap flushFails) options d s =
      ⟨.error (.cannotOpen (d.resourceName options) .readOnly), [], s⟩ := by
  simp only [writeResource, sink, h, writeArtifact]

private theorem writeResource_ok (cap : Option Nat) (options : OptionTable) (d : Declaration)
    {left : Option Nat} (h : spend? s.resourcesLeft = some left) :
    writeResource (sink cap false) options d s =
      ⟨.ok (), [.wroteResource (d.resourceName options)],
        { s with
          memory := s.memory.put (.resource (d.resourceName options)) []
          resourcesLeft := left }⟩ := by
  have hopen : (sink cap false).openResource resourcePackage
      (languageResource (d.pluginId options)) s = (.ok (.resource (d.resourceName options), cap),
        { s with
          memory := s.memory.put (.resource (d.resourceName options)) []
          resourcesLeft := left }) := by
    simp only [sink, h, Memory.resourceSlot, Declaration.resourceName_resolve]
  have hwrite := writeBuffered_put cap cap false { s with resourcesLeft := left }
    (.resource (d.resourceName options)) []
  have hfault : fault? cap false 0 = none := by simp [fault?, Covers]
  simp only [List.length_nil, hfault, List.take_nil] at hwrite
  simp only [writeResource, hopen, writeArtifact, hwrite, Option.elim]

/-- A declaration that the sink is enough for is written whole and paid for. -/
private theorem generate_of_lasts (h : Lasts cap flushFails options s [d]) :
    ∃ sourcesLeft resourcesLeft events,
      spend? s.sourcesLeft = some sourcesLeft ∧ spend? s.resourcesLeft = some resourcesLeft ∧
      generate (sink cap flushFails) options d s =
        ⟨.ok (reported options d), events, s.after options d sourcesLeft resourcesLeft⟩ := by
  obtain ⟨hsources, htext, rfl, hresources⟩ := lasts_singleton.mp h
  obtain ⟨sourcesLeft, hs⟩ := exists_spend?_of_covers hsources
  obtain ⟨resourcesLeft, hr⟩ := exists_spend?_of_covers hresources
  have hfault := fault?_eq_none_iff.mpr ⟨htext, rfl⟩
  have hsource := writeSource_ok options d hs hfault
  have hresource := writeResource_ok cap options d (s := afterSource cap options s d sourcesLeft) hr
  have hgenerate := generate_ok hsource hresource
  simp only [afterSource, allowed_of_covers htext, List.take_length] at hgenerate
  exact ⟨sourcesLeft, resourcesLeft, _, hs, hr, hgenerate⟩

/-- A declaration that the sink is not enough for fails, and only its source may be left. -/
private theorem generate_of_not_lasts (h : ¬ Lasts cap flushFails options s [d]) :
    (generate (sink cap flushFails) options d s).result =
        .error (obstacle cap flushFails options s 0 d) ∧
      (generate (sink cap flushFails) options d s).state.memory =
        s.memory.putAll (remnant cap options s 0 d) := by
  by_cases hsources : Covers s.sourcesLeft 1
  · obtain ⟨sourcesLeft, hs⟩ := exists_spend?_of_covers hsources
    rw [obstacle, if_neg (Decidable.not_not.mpr hsources), remnant, if_pos hsources]
    cases hfault : fault? cap flushFails (d.wrapper options).length with
    | some cause =>
      rw [generate_source_error (writeSource_fault hs hfault)]
      exact ⟨rfl, rfl⟩
    | none =>
      obtain ⟨htext, rfl⟩ := fault?_eq_none_iff.mp hfault
      have hresources : ¬ Covers s.resourcesLeft 1 := fun hresources =>
        h (lasts_singleton.mpr ⟨hsources, htext, rfl, hresources⟩)
      have hr : spend? (afterSource cap options s d sourcesLeft).resourcesLeft = none :=
        spend?_eq_none_iff.mpr hresources
      rw [generate_resource_error (writeSource_ok options d hs hfault) (writeResource_closed hr)]
      exact ⟨rfl, rfl⟩
  · rw [generate_source_error (writeSource_closed (spend?_eq_none_iff.mpr hsources)), obstacle,
      if_pos hsources, remnant, if_neg hsources]
    exact ⟨rfl, rfl⟩

/-- Either everything gets through, or the first declaration that does not ends the generation. -/
theorem generateAll_limited (cap : Option Nat) (flushFails : Bool) (options : OptionTable)
    (ds : List Declaration) (s : Limited) :
    let out := generateAll (sink cap flushFails) options ds s
    (Lasts cap flushFails options s ds ∧ out.result = .ok (ds.map (reported options)) ∧
      out.state.memory = s.memory.putAll (ds.flatMap (Declaration.entries options))) ∨
    ∃ before d after, ds = before ++ d :: after ∧
      Lasts cap flushFails options s before ∧ ¬ Lasts cap flushFails options s (before ++ [d]) ∧
      out.result = .error (obstacle cap flushFails options s before.length d) ∧
      out.state.memory = s.memory.putAll (before.flatMap (Declaration.entries options) ++
        remnant cap options s before.length d) := by
  induction ds generalizing s with
  | nil => exact .inl ⟨lasts_nil, rfl, rfl⟩
  | cons d ds ih =>
    by_cases hd : Lasts cap flushFails options s [d]
    · obtain ⟨sourcesLeft, resourcesLeft, events, hs, hr, hgenerate⟩ := generate_of_lasts hd
      rw [generateAll_cons_ok ds hgenerate]
      rcases ih (s.after options d sourcesLeft resourcesLeft) with
        ⟨hlasts, hresult, hmemory⟩ | ⟨before, e, rest, rfl, hbefore, he, hresult, hmemory⟩
      · refine .inl ⟨(lasts_cons hd hs hr).mpr hlasts, ?_, ?_⟩
        · simp only [hresult]
          rfl
        · rw [List.flatMap_cons, Memory.putAll_append]
          exact hmemory
      · refine .inr ⟨d :: before, e, rest, rfl, (lasts_cons hd hs hr).mpr hbefore,
          fun h => he ((lasts_cons hd hs hr).mp h), ?_, ?_⟩
        · simp only [hresult, obstacle_after hs]
          rfl
        · rw [List.flatMap_cons, List.append_assoc, Memory.putAll_append, List.length_cons,
            ← remnant_after hs]
          exact hmemory
    · obtain ⟨hresult, hmemory⟩ := generate_of_not_lasts hd
      have hgenerate : generate (sink cap flushFails) options d s =
          ⟨.error (obstacle cap flushFails options s 0 d),
            (generate (sink cap flushFails) options d s).events,
            (generate (sink cap flushFails) options d s).state⟩ := by
        rw [← hresult]
      rw [generateAll_cons_error ds hgenerate]
      exact .inr ⟨[], d, ds, rfl, lasts_nil, hd, rfl, hmemory⟩

/-- A round gets through exactly if the sink is enough for all its declarations. Otherwise the
first one that it is not enough for decides the error. The memory has what the declarations before
it write, and of that one the part of its source that was let through. -/
theorem limited_failure_point (cap : Option Nat) (flushFails : Bool) (options : OptionTable)
    (ds : List Declaration) (s : Limited) :
    let order := Declaration.generationOrder ds
    let out := run (sink cap flushFails) options ds s
    ((∃ report, out.result = .ok report) ↔
      Covers s.sourcesLeft order.length ∧ Covers s.resourcesLeft order.length ∧
        (∀ d ∈ order, Covers cap (d.wrapper options).length) ∧ (flushFails = false ∨ order = [])) ∧
    ((out.result = .ok ⟨order.map (reported options)⟩ ∧
      out.state.memory = s.memory.putAll (order.flatMap (Declaration.entries options))) ∨
    ∃ before d after, order = before ++ d :: after ∧
      Lasts cap flushFails options s before ∧ ¬ Lasts cap flushFails options s (before ++ [d]) ∧
      out.result = .error (obstacle cap flushFails options s before.length d) ∧
      out.state.memory = s.memory.putAll
        (before.flatMap (Declaration.entries options) ++
          remnant cap options s before.length d)) := by
  intro order out
  have hstate : out.state = _ := run_state (sink cap flushFails) options ds s
  rcases generateAll_limited cap flushFails options order s with
    ⟨hlasts, hresult, hmemory⟩ | ⟨before, d, rest, horder, hbefore, hd, hresult, hmemory⟩
  · have hout := run_ok hresult
    exact ⟨⟨fun _ => ⟨hlasts.sources, hlasts.resources, hlasts.texts, hlasts.flushes⟩,
      fun _ => ⟨_, hout⟩⟩, .inl ⟨hout, hstate ▸ hmemory⟩⟩
  · have hout := run_error hresult
    refine ⟨⟨?_, ?_⟩, .inr ⟨before, d, rest, horder, hbefore, hd, hout, hstate ▸ hmemory⟩⟩
    · rintro ⟨report, hreport⟩
      cases hout.symm.trans hreport
    · rintro ⟨hsources, hresources, htexts, hflush⟩
      have hlasts : Lasts cap flushFails options s (before ++ [d] ++ rest) := by
        rw [List.append_assoc, List.singleton_append, ← horder]
        exact ⟨hsources, hresources, htexts, hflush⟩
      exact absurd hlasts.of_append hd

end PluginWrapper.Limited
