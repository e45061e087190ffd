import PluginWrapper.Sink.Directory

/-! What a sink is asked to open, and a sink that keeps a record of it. -/
namespace PluginWrapper

/-- An artifact to be opened. -/
inductive Opening where
  | source (name : String)
  | resource (package name : String)

namespace Sink
variable {σ τ ω : Type}

def openArtifact (sink : Sink σ ω) : Opening → σ → Except IoError ω × σ
  | .source name => sink.openSource name
  | .resource package name => sink.openResource package name

/-- The sink with a list of all that it was asked to open and of what came of it. -/
def recorded (sink : Sink σ ω) : Sink (σ × List (Opening × Except IoError ω)) ω where
  openSource name s :=
    let (result, state) := sink.openSource name s.1
    (result, state, s.2 ++ [(.source name, result)])
  openResource package name s :=
    let (result, state) := sink.openResource package name s.1
    (result, state, s.2 ++ [(.resource package name, result)])
  write w bytes s :=
    let (result, w, state) := sink.write w bytes s.1
    (result, w, state, s.2)
  flush w s :=
    let (result, w, state) := sink.flush w s.1
    (result, w, state, s.2)

theorem openArtifact_recorded (sink : Sink σ ω) (opening : Opening)
    (s : σ × List (Opening × Except IoError ω)) :
    sink.recorded.openArtifact opening s =
      ((sink.openArtifact opening s.1).1, (sink.openArtifact opening s.1).2,
        s.2 ++ [(opening, (sink.openArtifact opening s.1).1)]) := by
  cases opening <;> rfl

/-- One sink does with what is seen of a state what the other does with the state. -/
structure Projects (fine : Sink τ ω) (sink : Sink σ ω) (view : τ → σ) : Prop where
  openArtifact : ∀ opening s, sink.openArtifact opening (view s) =
    ((fine.openArtifact opening s).1, view (fine.openArtifact opening s).2)
  write : ∀ w bytes s, sink.write w bytes (view s) =
    ((fine.write w bytes s).1, (fine.write w bytes s).2.1, view (fine.write w bytes s).2.2)
  flush : ∀ w s, sink.flush w (view s) =
    ((fine.flush w s).1, (fine.flush w s).2.1, view (fine.flush w s).2.2)

theorem projects_recorded (sink : Sink σ ω) : sink.recorded.Projects sink Prod.fst where
  openArtifact opening s := by rw [openArtifact_recorded]
  write _ _ _ := rfl
  flush _ _ := rfl

end Sink

namespace Directory

def path (root : List Char) : Opening → List Char
  | .source name => sourcePath root name
  | .resource package name => resourcePath root package name

theorem openArtifact_eq (root : List Char) (opening : Opening) (t : FileTree) :
    (sink root).openArtifact opening t = t.createFileWithParents (path root opening) := by
  cases opening <;> simp only [Sink.openArtifact, sink, path]

end Directory

end PluginWrapper
