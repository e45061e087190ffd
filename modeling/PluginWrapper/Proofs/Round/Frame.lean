import PluginWrapper.Proofs.FileTree.Growth
import PluginWrapper.Proofs.Round.Use

/-! What uses of a directory sink leave alone: nothing goes or changes its kind, only files that
were opened get other contents, and an opening that fails leaves at most directories behind. -/
namespace PluginWrapper.Directory
open FileTree

variable {root : List Char} {here : Location}

/-- Whatever is opened or written, the tree grows. -/
theorem keeps_grows (root : List Char) :
    (sink root).Keeps (fun _ => True) Grows (fun _ _ => True) where
  refl := .refl
  trans := .trans
  opens opening t _ := by
    rw [openArtifact_eq]
    exact t.grows_createFileWithParents (path root opening)
  held _ _ _ _ _ _ := trivial
  write here bytes t _ := ⟨.append t here bytes, trivial⟩
  flush _ t _ := ⟨.refl t, trivial⟩

/-- An opening that gave a writer to the file at a location, which is still where it was. -/
def IsOpenFor (root : List Char) (here : Location)
    (s : FileTree × List (Opening × Except IoError Location)) : Prop :=
  ∃ opening, (opening, .ok here) ∈ s.2 ∧ s.1.locate (path root opening) = .ok here

/-- From one state of the recording sink to a later one. -/
structure Framed (root : List Char)
    (s s' : FileTree × List (Opening × Except IoError Location)) : Prop where
  record : s.2 ⊆ s'.2
  grows : s.1.Grows s'.1
  file : ∀ here contents, s'.1.node? here = some (.file contents) →
    s.1.node? here = some (.file contents) ∨ IsOpenFor root here s'

variable {s s' s'' : FileTree × List (Opening × Except IoError Location)}

theorem Framed.refl (root : List Char)
    (s : FileTree × List (Opening × Except IoError Location)) : Framed root s s :=
  ⟨List.Subset.refl _, .refl _, fun _ _ => .inl⟩

theorem IsOpenFor.mono (h : IsOpenFor root here s) (hframed : Framed root s s') :
    IsOpenFor root here s' := by
  obtain ⟨opening, hmem, hlocate⟩ := h
  exact ⟨opening, hframed.record hmem, hframed.grows.locate hlocate⟩

theorem Framed.trans (h : Framed root s s') (h' : Framed root s' s'') : Framed root s s'' where
  record := List.Subset.trans h.record h'.record
  grows := h.grows.trans h'.grows
  file here contents hnode := by
    rcases h'.file here contents hnode with hnode | hopen
    · rcases h.file here contents hnode with hnode | hopen
      · exact .inl hnode
      · exact .inr (hopen.mono h')
    · exact .inr hopen

/-- A file is open for the path that was opened. -/
private theorem isOpenFor_open {opening : Opening}
    (h : (sink root).recorded.openArtifact opening s = (.ok here, s')) :
    IsOpenFor root here s' := by
  rw [Sink.openArtifact_recorded, openArtifact_eq] at h
  obtain ⟨hresult, rfl⟩ := Prod.mk.inj h
  exact ⟨opening, by simp [hresult], locate_of_createFileWithParents hresult⟩

private theorem framed_open (root : List Char) (opening : Opening)
    (s : FileTree × List (Opening × Except IoError Location)) :
    Framed root s ((sink root).recorded.openArtifact opening s).2 where
  record := by
    rw [Sink.openArtifact_recorded]
    exact List.subset_append_left _ _
  grows := by
    rw [Sink.openArtifact_recorded]
    exact (keeps_grows root).opens opening s.1 trivial
  file here contents hnode := by
    have hopen := Sink.openArtifact_recorded (sink root) opening s
    rw [openArtifact_eq] at hopen
    rw [hopen] at hnode ⊢
    rcases node_of_createFileWithParents hnode with hold | hresult | ⟨hdirectory, -⟩
    · exact .inl hold
    · rw [hresult] at hopen ⊢
      exact .inr (isOpenFor_open hopen)
    · cases hdirectory

private theorem keeps_framed (root : List Char) :
    (sink root).recorded.Keeps (fun _ => True) (Framed root) (IsOpenFor root) where
  refl := .refl root
  trans := .trans
  opens opening s _ := framed_open root opening s
  held _ _ _ _ _ h := isOpenFor_open h
  write here bytes s hopen := by
    have hframed : Framed root s (s.1.append here bytes, s.2) := by
      refine ⟨List.Subset.refl _, .append s.1 here bytes, fun there contents hnode => ?_⟩
      by_cases hhere : here = there
      · obtain ⟨opening, hmem, hlocate⟩ := hopen
        exact .inr (hhere ▸ ⟨opening, hmem, (Grows.append s.1 here bytes).locate hlocate⟩)
      · rw [node?_append_of_ne hhere bytes] at hnode
        exact .inl hnode
    exact ⟨hframed, hopen.mono hframed⟩
  flush _ s hopen := ⟨.refl root s, hopen⟩

/-- After any uses of the sink, directories are still directories and files still files. A file that
is new or has new contents is where a path that was opened leads. An opening that fails leaves every
file as it was and makes no file, and the directories that it makes are those above its path. -/
theorem directory_frame (root : List Char) (uses : List Use) (t : FileTree) :
    let after := Use.performAll (sink root) uses t
    let record := Use.performAll (sink root).recorded uses (t, [])
    record.1 = after ∧ t.Grows after ∧
    (∀ here contents, after.node? here = some (.file contents) →
      t.node? here = some (.file contents) ∨
      ∃ opening, (opening, .ok here) ∈ record.2 ∧
        after.locate (path root opening) = .ok here) ∧
    ∀ opening before e left, (sink root).openArtifact opening before = (.error e, left) →
      before.Grows left ∧
      (∀ here contents, left.node? here = some (.file contents) ↔
        before.node? here = some (.file contents)) ∧
      ∀ here, left.node? here = some .directory → before.node? here = some .directory ∨
        ∃ above ∈ (Path.ancestors (path root opening)).tail, left.locate above = .ok here := by
  intro after record
  have hrecord : record.1 = after := ((sink root).projects_recorded.performAll uses (t, [])).symm
  have hframed := (keeps_framed root).performAll (fun _ => trivial) uses (t, [])
  refine ⟨hrecord, hrecord ▸ hframed.grows, ?_, ?_⟩
  · rw [← hrecord]
    exact hframed.file
  · intro opening before e left h
    have hopened := before.opened_createFileWithParents (path root opening)
    rw [← openArtifact_eq, h] at hopened
    cases hopened with
    | error _ _ hgains =>
      exact ⟨hgains.grows, fun here contents => hgains.file,
        fun here hnode => (hgains.gained here _ hnode).imp_right And.right⟩

end PluginWrapper.Directory
