import PluginWrapper.Proofs.Outcome
import PluginWrapper.Proofs.Round.Frame
import PluginWrapper.Proofs.Sink.Directory

/-! A round into a directory that is done once more: what succeeded succeeds again and gives the
same files the same contents, so that it leaves the tree as it was. -/
namespace PluginWrapper

namespace FileTree
variable {last t t' u : FileTree} {here : Location} {paths : List (List Char)}

/-- A tree on the way of a repetition, which began with the tree that the first time left last. It
is that tree but for places that look as they did the first time. -/
structure Between (last t u : FileTree) : Prop where
  grows : last.Grows u
  root : u.nodes[([] : Location)]? = last.nodes[([] : Location)]?
  node : ∀ here, u.node? here = last.node? here ∨ u.node? here = t.node? here

theorem Between.start (last t : FileTree) : Between last t last :=
  ⟨.refl last, rfl, fun _ => .inl rfl⟩

theorem Between.eq (h : Between last last u) : u = last :=
  eq_of_node? h.grows.workingDirectory h.root fun here => (h.node here).elim id id

/-- The file gets its contents once more. Directories that were new the first time are in the last
tree, so they are there already. -/
private theorem Between.put (h : Between last t u) (hgains : t.GainsDirectories t' paths)
    (hhere : t'.node? here ≠ some .directory) {contents : Bytes}
    (hlast : (t'.put here (.file contents)).Grows last) :
    Between last (t'.put here (.file contents)) (u.put here (.file contents)) := by
  have hne := ne_nil_of_not_directory hhere
  obtain ⟨old, hfile⟩ := (hlast.trans h.grows).file here contents (by
    rw [node?_put _ hne, if_pos rfl])
  have hgrows : u.Grows (u.put here (.file contents)) := .put_file (by simp [hfile]) contents
  refine ⟨h.grows.trans hgrows, (nodes_put_root u hne _).trans h.root, fun there => ?_⟩
  rw [node?_put _ hne, node?_put _ hne]
  by_cases hthere : here = there
  · simp [hthere]
  · rw [if_neg hthere, if_neg hthere]
    rcases h.node there with hnode | hnode
    · exact .inl hnode
    · cases hold : t.node? there with
      | some node => exact .inr (hnode.trans (hold.trans (hgains.kept there node hold).symm))
      | none =>
        cases hlast : last.node? there with
        | none => exact .inl (hnode.trans hold)
        | some node =>
          obtain ⟨node', hnode'⟩ := h.grows.exists_node hlast
          rw [hnode, hold] at hnode'
          cases hnode'

end FileTree

namespace Round
open Directory FileTree
variable {α β : Type} {root : List Char}

/-- An activity that gives the same result when it is done again after a success, and brings a
repetition one step further. -/
structure Repeats (f : FileTree → Outcome FileTree α) : Prop where
  grows : ∀ t : FileTree, t.Grows (f t).state
  again : ∀ {last t u : FileTree} {a : α}, (f t).result = .ok a → (f t).state.Grows last →
    Between last t u → (f u).result = .ok a ∧ Between last (f t).state (f u).state

theorem Repeats.andThen {f : FileTree → Outcome FileTree α}
    {next : α → FileTree → Outcome FileTree β} (h : Repeats f) (hnext : ∀ a, Repeats (next a)) :
    Repeats fun t => (f t).andThen next where
  grows t := by
    simp only [Outcome.andThen]
    split
    · exact h.grows t
    · exact (h.grows t).trans ((hnext _).grows _)
  again {last t u b} hresult hlast hu := by
    obtain ⟨a, ha, hb⟩ := Outcome.andThen_eq_ok.mp hresult
    rw [(Outcome.andThen_of_ok _ ha).2] at hlast ⊢
    obtain ⟨ha', hmid⟩ := h.again ha (((hnext a).grows _).trans hlast) hu
    rw [(Outcome.andThen_of_ok _ ha').1, (Outcome.andThen_of_ok _ ha').2]
    exact (hnext a).again hb hlast hmid

theorem Repeats.map {f : FileTree → Outcome FileTree α} (h : Repeats f) (g : α → β) :
    Repeats fun t => (f t).map g where
  grows := h.grows
  again {last t u b} hresult hlast hu := by
    obtain ⟨a, ha, rfl⟩ := map_eq_ok.mp hresult
    obtain ⟨ha', hmid⟩ := h.again ha hlast hu
    exact ⟨congrArg (Except.map g) ha', hmid⟩

private theorem Repeats.idempotent {f : FileTree → Outcome FileTree α} (h : Repeats f)
    {t : FileTree} {a : α} (hresult : (f t).result = .ok a) :
    (f (f t).state).result = .ok a ∧ (f (f t).state).state = (f t).state := by
  obtain ⟨hagain, hbetween⟩ := h.again hresult (.refl _) (.start _ t)
  exact ⟨hagain, hbetween.eq⟩

/-- A directory writes whatever it could open. -/
theorem writeArtifact_directory (root : List Char) (artifact : String) (file : List Char)
    (contents : Bytes) (written : Event) (t : FileTree) :
    writeArtifact (sink root) artifact (t.createFileWithParents file) contents written =
      match t.createFileWithParents file with
      | (.error e, t) => ⟨.error (.cannotOpen artifact e), [], t⟩
      | (.ok here, t) => ⟨.ok (), [written], t.put here (.file contents)⟩ := by
  have hopened := t.opened_createFileWithParents file
  generalize t.createFileWithParents file = opened at *
  cases hopened with
  | error e t' hgains => rfl
  | ok here t' hmake hcreate =>
    have hne := ne_nil_of_not_directory (createFile_made hcreate).1
    simp only [writeArtifact, writeBuffered_put root t' hne, put_put]

theorem repeats_writeArtifact (root : List Char) (artifact : String) (opening : Opening)
    (contents : Bytes) (written : Event) : Repeats fun t =>
      writeArtifact (sink root) artifact ((sink root).openArtifact opening t) contents written where
  grows := (keeps_grows root).writeArtifact trivial artifact contents written
  again {last t u a} hresult hlast hu := by
    have hgains := t.makeDirectories_gains (Path.ancestors (path root opening)).tail
    have hopened := t.opened_createFileWithParents (path root opening)
    rw [openArtifact_eq, writeArtifact_directory] at hresult hlast ⊢
    rw [openArtifact_eq, writeArtifact_directory]
    cases hopen : t.createFileWithParents (path root opening) with
    | mk opened t₂ =>
      rw [hopen] at hopened hresult hlast
      cases hopened with
      | error e _ _ => cases hresult
      | ok here t₁ hmake hcreate =>
        have hhere := (createFile_made hcreate).1
        have hempty : (t₁.put here (.file [])).node? here ≠ some .directory := by
          simp [node?_put t₁ (ne_nil_of_not_directory hhere)]
        have hgrows := ((Grows.put_file hempty contents).trans hlast).trans hu.grows
        rw [hmake] at hgains
        rw [createFileWithParents_again hopen hgrows]
        dsimp only at hlast ⊢
        rw [put_put] at hlast ⊢
        rw [put_put]
        exact ⟨rfl, hu.put hgains hhere hlast⟩

/-! A sink whose writing repeats. -/
section Writing
variable {ω : Type} {place : Sink FileTree ω} (hwrite : ∀ artifact opening contents written,
  Repeats fun t => writeArtifact place artifact (place.openArtifact opening t) contents written)
include hwrite

private theorem repeats_emit (e : Descriptor) (text : String) : Repeats (emit place e text) :=
  (hwrite _ (.source _) _ _).andThen fun _ => (hwrite _ (.resource _ _) [] _).map _

private theorem repeats_generate (options : OptionTable) (d : Declaration) :
    Repeats (generate place options d) :=
  have h := (repeats_emit hwrite (.resolve d options) (Wrapper.source d (.resolve d options))).map
    fun _ => artifact d (.resolve d options)
  ⟨h.grows, h.again⟩

private theorem repeats_generateAll (options : OptionTable) (ds : List Declaration) :
    Repeats (generateAll place options ds) := by
  induction ds with
  | nil => exact ⟨.refl, fun hresult _ hu => ⟨hresult, hu⟩⟩
  | cons d ds ih => exact (repeats_generate hwrite options d).andThen fun a => ih.map (a :: ·)

theorem repeats_run (options : OptionTable) (ds : List Declaration) :
    Repeats (run place options ds) := by
  have hrun : run place options ds = fun s =>
      (generateAll place options (Declaration.generationOrder ds) s).andThen complete :=
    funext (run_eq place options ds)
  rw [hrun]
  exact (repeats_generateAll hwrite options _).andThen fun _ =>
    ⟨.refl, fun hresult _ hu => ⟨hresult, hu⟩⟩

end Writing

/-- Whatever the names lead to, a round that succeeded succeeds again with the same report, and then
the tree is the same as before. -/
theorem directory_run_idempotent (root : List Char) (options : OptionTable)
    (ds : List Declaration) (t : FileTree) (report : Report)
    (h : (run (sink root) options ds t).result = .ok report) :
    let after := (run (sink root) options ds t).state
    (run (sink root) options ds after).result = .ok report ∧
      (run (sink root) options ds after).state = after :=
  (repeats_run (repeats_writeArtifact root) options ds).idempotent h

private def sideways : OptionTable := .ofList [(OptionKey.id, "/../../../x")]

private def twins : List Declaration := [⟨"Core", "o", .core, []⟩, ⟨"Core", "o", .module, []⟩]

private def twinsReport : Report := ⟨(Declaration.generationOrder twins).map (reported sideways)⟩

private theorem run_twins :
    (run (sink "out".toList) sideways twins .fresh).result = .ok twinsReport := by
  have horder : Declaration.generationOrder twins =
      [⟨"Core", "o", .module, []⟩, ⟨"Core", "o", .core, []⟩] := by decide
  simp only [run_eq, horder, generateAll, generate, emit, openSource_eq, openResource_eq,
    writeArtifact_directory]
  decide +kernel

/-- Both sources are written to one file, and both language resources to one beside the root. -/
theorem directory_run_idempotent_twins :
    (run (sink "out".toList) sideways twins .fresh).result = .ok twinsReport ∧
    (let after := (run (sink "out".toList) sideways twins .fresh).state
    (run (sink "out".toList) sideways twins after).result = .ok twinsReport ∧
      (run (sink "out".toList) sideways twins after).state = after) :=
  ⟨run_twins, directory_run_idempotent "out".toList sideways twins .fresh twinsReport run_twins⟩

end Round

end PluginWrapper
