import PluginWrapper.Proofs.Sink.Keeps
import PluginWrapper.Round

/-! Whatever is done with a sink, one use after the other. The run lemmas of this module take what
every operation of a sink keeps to through generations and rounds to any sequence of uses. -/
namespace PluginWrapper

/-- Something to be done with a sink. -/
inductive Use where
  /-- Opens an artifact and, if that succeeds, hands it the chunks and flushes it. -/
  | write (opening : Opening) (chunks : List Bytes)
  | emit (e : Descriptor) (text : String)
  | generate (options : OptionTable) (d : Declaration)
  | round (options : OptionTable) (found : Discovery)

namespace Use
variable {σ ω : Type}

/-- The state that a use leaves, whether it succeeds or not. -/
def perform (sink : Sink σ ω) (s : σ) : Use → σ
  | .write opening chunks =>
    match sink.openArtifact opening s with
    | (.error _, s) => s
    | (.ok w, s) => (sink.writeChunks chunks w s).2
  | .emit e text => (Round.emit sink e text s).state
  | .generate options d => (Round.generate sink options d s).state
  | .round options found => (Round.process sink options found s).state

def performAll (sink : Sink σ ω) (uses : List Use) (s : σ) : σ :=
  uses.foldl (perform sink) s

def openings (e : Descriptor) : List Opening :=
  [.source e.sourceName,
    .resource Round.resourcePackage (Round.languageResource e.names.pluginId)]

end Use

namespace Outcome
variable {σ τ α β : Type} {Alike : σ → τ → Prop} {o : Outcome σ α} {o' : Outcome τ α}

/-- Two activities with the same result and the same events, which leave states that are alike. -/
structure Matches (Alike : σ → τ → Prop) (o : Outcome σ α) (o' : Outcome τ α) : Prop where
  result : o'.result = o.result
  events : o'.events = o.events
  state : Alike o.state o'.state

theorem Matches.map (h : Matches Alike o o') (f : α → β) : Matches Alike (o.map f) (o'.map f) :=
  ⟨congrArg (Except.map f) h.result, h.events, h.state⟩

theorem Matches.andThen {next : α → σ → Outcome σ β} {next' : α → τ → Outcome τ β}
    (h : Matches Alike o o')
    (hnext : ∀ a {s t}, Alike s t → Matches Alike (next a s) (next' a t)) :
    Matches Alike (o.andThen next) (o'.andThen next') := by
  obtain ⟨hresult, hevents, hstate⟩ := h
  simp only [Outcome.andThen, hresult, hevents]
  cases o.result with
  | error e => exact ⟨rfl, rfl, hstate⟩
  | ok a =>
    obtain ⟨hresult', hevents', hstate'⟩ := hnext a hstate
    exact ⟨hresult', congrArg (o.events ++ ·) hevents', hstate'⟩

end Outcome

namespace Sink.Matches
variable {σ τ ω : Type} {sink : Sink σ ω} {sink' : Sink τ ω} {Allowed : Opening → Prop}
  {Alike : σ → τ → Prop} {Held : ω → σ → τ → Prop} {s : σ} {t : τ}

theorem writeArtifact (h : sink.Matches sink' Allowed Alike Held) {opening : Opening}
    (hopening : Allowed opening) (artifact : String) (contents : Bytes) (written : Event)
    (hst : Alike s t) : Outcome.Matches Alike
      (Round.writeArtifact sink artifact (sink.openArtifact opening s) contents written)
      (Round.writeArtifact sink' artifact (sink'.openArtifact opening t) contents written) := by
  rcases hopen : sink.openArtifact opening s with ⟨result, s'⟩
  obtain ⟨t', hopen', hst', hheld⟩ := h.opens hopening hst hopen
  rw [hopen']
  cases result with
  | error e => exact ⟨rfl, rfl, hst'⟩
  | ok w =>
    obtain ⟨hresult, hstate⟩ := h.writeBuffered contents hst' (hheld w rfl)
    simp only [Round.writeArtifact]
    generalize sink.writeBuffered contents w s' = written at hresult hstate
    generalize sink'.writeBuffered contents w t' = written' at hresult hstate
    obtain ⟨result, s''⟩ := written
    obtain ⟨result', t''⟩ := written'
    obtain rfl : result' = result := hresult
    cases result' <;> exact ⟨rfl, rfl, hstate⟩

theorem emit (h : sink.Matches sink' Allowed Alike Held) {e : Descriptor}
    (he : ∀ opening ∈ Use.openings e, Allowed opening) (text : String) (hst : Alike s t) :
    Outcome.Matches Alike (Round.emit sink e text s) (Round.emit sink' e text t) := by
  have hsource : Allowed (.source e.sourceName) := he _ (by simp [Use.openings])
  have hresource : Allowed
      (.resource Round.resourcePackage (Round.languageResource e.names.pluginId)) :=
    he _ (by simp [Use.openings])
  exact (h.writeArtifact hsource _ _ _ hst).andThen fun _ _ _ hst =>
    (h.writeArtifact hresource _ [] _ hst).map _

theorem generate (h : sink.Matches sink' Allowed Alike Held) {options : OptionTable}
    {d : Declaration} (hd : ∀ opening ∈ Use.openings (.resolve d options), Allowed opening)
    (hst : Alike s t) : Outcome.Matches Alike (Round.generate sink options d s)
      (Round.generate sink' options d t) := by
  obtain ⟨hresult, hevents, hstate⟩ := h.emit hd (Wrapper.source d (.resolve d options)) hst
  exact ⟨congrArg (Except.map _) hresult, congrArg (_ :: ·) hevents, hstate⟩

theorem generateAll (h : sink.Matches sink' Allowed Alike Held) {options : OptionTable}
    {ds : List Declaration}
    (hds : ∀ d ∈ ds, ∀ opening ∈ Use.openings (.resolve d options), Allowed opening)
    (hst : Alike s t) : Outcome.Matches Alike (Round.generateAll sink options ds s)
      (Round.generateAll sink' options ds t) := by
  induction ds generalizing s t with
  | nil => exact ⟨rfl, rfl, hst⟩
  | cons d ds ih =>
    exact (h.generate (hds d List.mem_cons_self) hst).andThen fun _ _ _ hst =>
      (ih (fun x hx => hds x (List.mem_cons_of_mem d hx)) hst).map _

theorem generateKinds (h : sink.Matches sink' Allowed Alike Held) {options : OptionTable}
    {annotated : Kind → List Declaration}
    (hfound : ∀ k, ∀ d ∈ annotated k, ∀ opening ∈ Use.openings (.resolve d options),
      Allowed opening) (kinds : List Kind) (hst : Alike s t) :
    Outcome.Matches Alike (Round.generateKinds sink options annotated kinds s)
      (Round.generateKinds sink' options annotated kinds t) := by
  induction kinds generalizing s t with
  | nil => exact ⟨rfl, rfl, hst⟩
  | cons k kinds ih =>
    exact (h.generateAll (hfound k) hst).andThen fun _ _ _ hst => (ih hst).map _

theorem process (h : sink.Matches sink' Allowed Alike Held) {options : OptionTable}
    {found : Discovery}
    (hfound : ∀ k, ∀ d ∈ found.annotated k, ∀ opening ∈ Use.openings (.resolve d options),
      Allowed opening) (hst : Alike s t) : Outcome.Matches Alike
      (Round.process sink options found s) (Round.process sink' options found t) := by
  simp only [Round.process]
  split
  · exact ⟨rfl, rfl, hst⟩
  · exact (h.generateKinds hfound Kind.all hst).andThen fun _ _ _ hst => ⟨rfl, rfl, hst⟩

theorem run (h : sink.Matches sink' Allowed Alike Held) {options : OptionTable}
    {ds : List Declaration}
    (hds : ∀ d ∈ ds, ∀ opening ∈ Use.openings (.resolve d options), Allowed opening)
    (hst : Alike s t) :
    Outcome.Matches Alike (Round.run sink options ds s) (Round.run sink' options ds t) :=
  h.process (fun _ d hd => hds d (List.mem_filter.mp hd).1) hst

theorem perform (h : sink.Matches sink' Allowed Alike Held) (hall : ∀ opening, Allowed opening)
    (use : Use) (hst : Alike s t) : Alike (use.perform sink s) (use.perform sink' t) := by
  cases use with
  | write opening chunks =>
    rcases hopen : sink.openArtifact opening s with ⟨result, s'⟩
    obtain ⟨t', hopen', hst', hheld⟩ := h.opens (hall opening) hst hopen
    simp only [Use.perform, hopen, hopen']
    cases result with
    | error e => exact hst'
    | ok w => exact (h.writeChunks chunks hst' (hheld w rfl)).2
  | emit e text => exact (h.emit (fun opening _ => hall opening) text hst).state
  | generate options d => exact (h.generate (fun opening _ => hall opening) hst).state
  | round options found => exact (h.process (fun _ _ _ opening _ => hall opening) hst).state

theorem performAll (h : sink.Matches sink' Allowed Alike Held) (hall : ∀ opening, Allowed opening)
    (uses : List Use) (hst : Alike s t) :
    Alike (Use.performAll sink uses s) (Use.performAll sink' uses t) := by
  induction uses generalizing s t with
  | nil => exact hst
  | cons use uses ih => exact ih (h.perform hall use hst)

end Sink.Matches

namespace Sink.Projects
variable {σ τ ω : Type} {fine : Sink τ ω} {sink : Sink σ ω} {view : τ → σ}

theorem emit (h : fine.Projects sink view) (e : Descriptor) (text : String) (s : τ) :
    (Round.emit sink e text (view s)).result = (Round.emit fine e text s).result :=
  (h.matches.emit (fun _ _ => trivial) text rfl).result

theorem performAll (h : fine.Projects sink view) (uses : List Use) (s : τ) :
    Use.performAll sink uses (view s) = view (Use.performAll fine uses s) :=
  h.matches.performAll (fun _ => trivial) uses rfl

end Sink.Projects

namespace Sink.Keeps
variable {σ ω : Type} {sink : Sink σ ω} {Allowed : Opening → Prop} {Change : σ → σ → Prop}
  {Held : ω → σ → Prop}

theorem writeArtifact (h : sink.Keeps Allowed Change Held) {opening : Opening}
    (hopening : Allowed opening) (artifact : String) (contents : Bytes) (written : Event) (s : σ) :
    Change s
      (Round.writeArtifact sink artifact (sink.openArtifact opening s) contents written).state :=
  ((h.matches s).writeArtifact hopening artifact contents written ⟨rfl, h.refl s⟩).state.2

theorem run (h : sink.Keeps Allowed Change Held) {options : OptionTable} {ds : List Declaration}
    (hds : ∀ d ∈ ds, ∀ opening ∈ Use.openings (.resolve d options), Allowed opening) (s : σ) :
    Change s (Round.run sink options ds s).state :=
  ((h.matches s).run hds ⟨rfl, h.refl s⟩).state.2

theorem performAll (h : sink.Keeps Allowed Change Held) (hall : ∀ opening, Allowed opening)
    (uses : List Use) (s : σ) : Change s (Use.performAll sink uses s) :=
  ((h.matches s).performAll hall uses ⟨rfl, h.refl s⟩).2

end Sink.Keeps

end PluginWrapper
