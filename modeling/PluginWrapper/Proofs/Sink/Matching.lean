import PluginWrapper.Proofs.Sink.Opening

/-! Two sinks that answer alike. A relation between their states that every operation keeps is kept
by a whole transfer, and whoever writes to them gets the same answers from both. -/
namespace PluginWrapper.Sink
variable {σ τ ω : Type}

/-- From states that are alike, opening what is allowed and writing to writers that are held gives
the same answers and leads to states that are alike. A writer is held once it was opened. -/
structure Matches (sink : Sink σ ω) (sink' : Sink τ ω) (Allowed : Opening → Prop)
    (Alike : σ → τ → Prop) (Held : ω → σ → τ → Prop) : Prop where
  opens : ∀ {opening s t result s'}, Allowed opening → Alike s t →
    sink.openArtifact opening s = (result, s') →
    ∃ t', sink'.openArtifact opening t = (result, t') ∧ Alike s' t' ∧
      ∀ w, result = .ok w → Held w s' t'
  write : ∀ {w bytes s t answer w' s'}, Alike s t → Held w s t →
    sink.write w bytes s = (answer, w', s') →
    ∃ t', sink'.write w bytes t = (answer, w', t') ∧ Alike s' t' ∧ Held w' s' t'
  flush : ∀ {w s t answer w' s'}, Alike s t → Held w s t →
    sink.flush w s = (answer, w', s') → ∃ t', sink'.flush w t = (answer, w', t') ∧ Alike s' t'

namespace Matches
variable {sink : Sink σ ω} {sink' : Sink τ ω} {Allowed : Opening → Prop} {Alike : σ → τ → Prop}
  {Held : ω → σ → τ → Prop} {w : ω} {s : σ} {t : τ}

theorem transfer (h : sink.Matches sink' Allowed Alike Held) (stall : IoError) (bytes : Bytes)
    (hst : Alike s t) (hw : Held w s t) :
    let a := sink.transfer stall bytes w s
    ∃ t', sink'.transfer stall bytes w t = ⟨a.result, a.rest, a.writer, t'⟩ ∧
      Alike a.state t' ∧ Held a.writer a.state t' := by
  fun_induction Sink.transfer sink stall bytes w s generalizing t with
  | case1 w s => exact ⟨t, by rw [Sink.transfer], hst, hw⟩
  | case2 w s b rest e w' s' hwrite =>
    obtain ⟨t', hwrite', hst', hw'⟩ := h.write hst hw hwrite
    exact ⟨t', by rw [Sink.transfer, hwrite'], hst', hw'⟩
  | case3 w s b rest w' s' hwrite =>
    obtain ⟨t', hwrite', hst', hw'⟩ := h.write hst hw hwrite
    exact ⟨t', by rw [Sink.transfer, hwrite'], hst', hw'⟩
  | case4 w s b rest n w' s' hwrite ih =>
    obtain ⟨t', hwrite', hst', hw'⟩ := h.write hst hw hwrite
    obtain ⟨t'', htransfer, hends⟩ := ih hst' hw'
    exact ⟨t'', by rw [Sink.transfer, hwrite']; exact htransfer, hends⟩

theorem flush_fst (h : sink.Matches sink' Allowed Alike Held) (hst : Alike s t) (hw : Held w s t) :
    (sink'.flush w t).1 = (sink.flush w s).1 ∧
      Alike (sink.flush w s).2.2 (sink'.flush w t).2.2 := by
  obtain ⟨t', hflush, hst'⟩ := h.flush hst hw rfl
  rw [hflush]
  exact ⟨rfl, hst'⟩

theorem writeChunks (h : sink.Matches sink' Allowed Alike Held) (chunks : List Bytes)
    (hst : Alike s t) (hw : Held w s t) :
    (sink'.writeChunks chunks w t).1 = (sink.writeChunks chunks w s).1 ∧
      Alike (sink.writeChunks chunks w s).2 (sink'.writeChunks chunks w t).2 := by
  induction chunks generalizing w s t with
  | nil => exact h.flush_fst hst hw
  | cons chunk chunks ih =>
    obtain ⟨t', htransfer, hst', hw'⟩ := h.transfer .stalled chunk hst hw
    simp only [Sink.writeChunks, htransfer]
    split
    · exact ih hst' hw'
    · exact ⟨rfl, hst'⟩

theorem writeBuffered (h : sink.Matches sink' Allowed Alike Held) (contents : Bytes)
    (hst : Alike s t) (hw : Held w s t) :
    (sink'.writeBuffered contents w t).1 = (sink.writeBuffered contents w s).1 ∧
      Alike (sink.writeBuffered contents w s).2 (sink'.writeBuffered contents w t).2 := by
  obtain ⟨t', htransfer, hst', hw'⟩ := h.transfer .stalledBehindBuffer contents hst hw
  simp only [Sink.writeBuffered, htransfer]
  split
  · split
    · exact h.flush_fst hst' hw'
    · obtain ⟨t'', hagain, hst'', -⟩ := h.transfer .stalledBehindBuffer
        (sink.transfer .stalledBehindBuffer contents w s).rest hst' hw'
      rw [hagain]
      exact ⟨rfl, hst''⟩
  · exact h.writeChunks _ hst hw

end Matches

theorem Projects.matches {fine : Sink τ ω} {sink : Sink σ ω} {view : τ → σ}
    (h : fine.Projects sink view) :
    fine.Matches sink (fun _ => True) (fun s t => t = view s) (fun _ _ _ => True) where
  opens {opening s t result s'} _ hst hopen := by
    subst hst
    exact ⟨view s', by rw [h.openArtifact, hopen], rfl, fun _ _ => trivial⟩
  write {w bytes s t answer w' s'} hst _ hwrite := by
    subst hst
    exact ⟨view s', by rw [h.write, hwrite], rfl, trivial⟩
  flush {w s t answer w' s'} hst _ hflush := by
    subst hst
    exact ⟨view s', by rw [h.flush, hflush], rfl⟩

end PluginWrapper.Sink
