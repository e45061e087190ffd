import PluginWrapper.Event
import PluginWrapper.Sink
import PluginWrapper.Wrapper

/-!
Generation rounds: every declaration is described, its wrapper rendered, and the source and an empty
language resource written to a sink. The first failure ends the round, and what was written before
it stays.
-/

namespace PluginWrapper

/-- Why an artifact was not written. -/
inductive GenerationError where
  | cannotOpen (artifact : String) (cause : IoError)
  | cannotWrite (artifact : String) (cause : IoError)
  deriving DecidableEq

namespace GenerationError

def artifact : GenerationError → String
  | .cannotOpen a _ => a
  | .cannotWrite a _ => a

def cause : GenerationError → IoError
  | .cannotOpen _ e => e
  | .cannotWrite _ e => e

def message : GenerationError → String
  | .cannotOpen a _ => "Failed to open artifact " ++ a
  | .cannotWrite a _ => "Failed to write artifact " ++ a

end GenerationError

/-- What an activity on a sink gives: its result, its events in order, and the state it leaves. -/
structure Outcome (σ α : Type) where
  result : Except GenerationError α
  events : List Event
  state : σ

namespace Outcome
variable {σ α β : Type}

/-- Goes on from a result; a failure stays. -/
def andThen (o : Outcome σ α) (next : α → σ → Outcome σ β) : Outcome σ β :=
  match o.result with
  | .error e => ⟨.error e, o.events, o.state⟩
  | .ok a =>
    let p := next a o.state
    ⟨p.result, o.events ++ p.events, p.state⟩

def map (f : α → β) (o : Outcome σ α) : Outcome σ β :=
  ⟨o.result.map f, o.events, o.state⟩

end Outcome

/-- The names of the two artifacts of a declaration. -/
structure ArtifactNames where
  source : String
  resource : String
  deriving DecidableEq

/-- What was generated for one declaration. -/
structure Artifact where
  kind : Kind
  pluginId : String
  source : String
  resource : String
  deriving DecidableEq

/-- The artifacts of a round, in the order of generation. -/
structure Report where
  artifacts : List Artifact
  deriving DecidableEq

namespace Report

def empty : Report := ⟨[]⟩

def isEmpty (r : Report) : Bool :=
  r.artifacts.isEmpty

def count (r : Report) (kind : Kind) : Nat :=
  r.artifacts.countP (·.kind = kind)

end Report

namespace Round
variable {σ ω : Type}

def resourcePackage : String := "assets"

def languageResource (pluginId : String) : String :=
  pluginId ++ "/lang/en_us.lang"

def artifactNames (e : Descriptor) : ArtifactNames where
  source := e.sourceName
  resource := resourcePackage ++ "/" ++ languageResource e.names.pluginId

def writeArtifact (sink : Sink σ ω) (artifact : String) (opened : Except IoError ω × σ)
    (contents : Bytes) (written : Event) : Outcome σ Unit :=
  match opened with
  | (.error e, s) => ⟨.error (.cannotOpen artifact e), [], s⟩
  | (.ok w, s) =>
    match sink.writeBuffered contents w s with
    | (.error e, s) => ⟨.error (.cannotWrite artifact e), [], s⟩
    | (.ok (), s) => ⟨.ok (), [written], s⟩

def emit (sink : Sink σ ω) (e : Descriptor) (text : String) (s : σ) : Outcome σ ArtifactNames :=
  let names := artifactNames e
  let contents := Bytes.ofString text
  (writeArtifact sink names.source (sink.openSource names.source s) contents
      (.wroteSource names.source contents.length)).andThen fun () s =>
    (writeArtifact sink names.resource
        (sink.openResource resourcePackage (languageResource e.names.pluginId) s) []
        (.wroteResource names.resource)).map fun () => names

def announcement (d : Declaration) (e : Descriptor) : Event :=
  .generating d.qualifiedName d.kind.annotation e.names.pluginId e.dependencies.length

def artifact (d : Declaration) (e : Descriptor) : Artifact where
  kind := d.kind
  pluginId := e.names.pluginId
  source := (artifactNames e).source
  resource := (artifactNames e).resource

def generate (sink : Sink σ ω) (options : OptionTable) (d : Declaration) (s : σ) :
    Outcome σ Artifact :=
  let e := Descriptor.resolve d options
  let emitted := emit sink e (Wrapper.source d e) s
  { emitted.map (fun _ => artifact d e) with events := announcement d e :: emitted.events }

def generateAll (sink : Sink σ ω) (options : OptionTable) :
    List Declaration → σ → Outcome σ (List Artifact)
  | [], s => ⟨.ok [], [], s⟩
  | d :: ds, s =>
    (generate sink options d s).andThen fun a s => (generateAll sink options ds s).map (a :: ·)

def generateKinds (sink : Sink σ ω) (options : OptionTable) (annotated : Kind → List Declaration) :
    List Kind → σ → Outcome σ (List Artifact)
  | [], s => ⟨.ok [], [], s⟩
  | k :: ks, s =>
    (generateAll sink options (annotated k) s).andThen fun as s =>
      (generateKinds sink options annotated ks s).map (as ++ ·)

def complete (artifacts : List Artifact) (s : σ) : Outcome σ Report :=
  let report : Report := ⟨artifacts⟩
  ⟨.ok report, [.roundComplete (report.count .module) (report.count .core)], s⟩

/-- One round: the modules, then the cores. The last one generates nothing. -/
def process (sink : Sink σ ω) (options : OptionTable) (found : Discovery) (s : σ) :
    Outcome σ Report :=
  if found.isOver then ⟨.ok .empty, [.finalRound], s⟩
  else (generateKinds sink options found.annotated Kind.all s).andThen complete

/-- A round over declarations in one list, with rounds to come. -/
def run (sink : Sink σ ω) (options : OptionTable) (ds : List Declaration) (s : σ) :
    Outcome σ Report :=
  process sink options (.ofList ds false) s

end Round

end PluginWrapper
