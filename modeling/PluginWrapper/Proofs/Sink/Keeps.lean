import PluginWrapper.Proofs.Sink.Matching

/-! Changes that a sink keeps to: a relation between its states that every operation is within holds
from the beginning to the end of a whole transfer. -/
namespace PluginWrapper.Sink
variable {σ ω : Type}

/-- Opening what is allowed, and writing to writers that are held, changes the state only within the
relation. A writer is held once it was opened. -/
structure Keeps (sink : Sink σ ω) (Allowed : Opening → Prop) (Change : σ → σ → Prop)
    (Held : ω → σ → Prop) : Prop where
  refl : ∀ s, Change s s
  trans : ∀ {s s' s''}, Change s s' → Change s' s'' → Change s s''
  opens : ∀ opening s, Allowed opening → Change s (sink.openArtifact opening s).2
  held : ∀ opening s w s', Allowed opening → sink.openArtifact opening s = (.ok w, s') → Held w s'
  write : ∀ w bytes s, Held w s → Change s (sink.write w bytes s).2.2 ∧
    Held (sink.write w bytes s).2.1 (sink.write w bytes s).2.2
  flush : ∀ w s, Held w s → Change s (sink.flush w s).2.2 ∧
    Held (sink.flush w s).2.1 (sink.flush w s).2.2

/-- Beside itself, a sink stays within the relation to where it began. -/
theorem Keeps.matches {sink : Sink σ ω} {Allowed : Opening → Prop} {Change : σ → σ → Prop}
    {Held : ω → σ → Prop} (h : sink.Keeps Allowed Change Held) (first : σ) :
    sink.Matches sink Allowed (fun s t => t = s ∧ Change first s) (fun w s _ => Held w s) where
  opens {opening s t result s'} hallowed hst hopen := by
    obtain ⟨rfl, hchange⟩ := hst
    have hopens := h.opens opening t hallowed
    rw [hopen] at hopens
    refine ⟨s', hopen, ⟨rfl, h.trans hchange hopens⟩, fun w hw => ?_⟩
    exact h.held opening t w s' hallowed (hw ▸ hopen)
  write {w bytes s t answer w' s'} hst hw hwrite := by
    obtain ⟨rfl, hchange⟩ := hst
    have hkept := h.write w bytes t hw
    rw [hwrite] at hkept
    exact ⟨s', hwrite, ⟨rfl, h.trans hchange hkept.1⟩, hkept.2⟩
  flush {w s t answer w' s'} hst hw hflush := by
    obtain ⟨rfl, hchange⟩ := hst
    have hkept := h.flush w t hw
    rw [hflush] at hkept
    exact ⟨s', hflush, rfl, h.trans hchange hkept.1⟩

end PluginWrapper.Sink
