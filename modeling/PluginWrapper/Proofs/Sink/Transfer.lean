import PluginWrapper.Sink.Memory

/-! Writing a whole artifact, told from how its one transfer ends: whether the contents are held
back or handed over directly makes no difference to either ending. -/
namespace PluginWrapper.Sink
variable {σ ω : Type}

@[simp] theorem transfer_nil (sink : Sink σ ω) (stall : IoError) (w : ω) (s : σ) :
    sink.transfer stall [] w s = ⟨.ok (), [], w, s⟩ := by
  rw [transfer]

/-- One write that takes everything ends the transfer. -/
theorem transfer_of_write {sink : Sink σ ω} {bytes : Bytes} {w w' : ω} {s s' : σ}
    (stall : IoError) (hne : bytes ≠ [])
    (h : sink.write w bytes s = (.ok bytes.length, w', s')) :
    sink.transfer stall bytes w s = ⟨.ok (), [], w', s'⟩ := by
  cases bytes with
  | nil => exact absurd rfl hne
  | cons b rest =>
    rw [transfer, h]
    simp

theorem writeBuffered_of_ok {sink : Sink σ ω} {contents rest : Bytes} {w w' : ω} {s s' : σ}
    (h : ∀ stall, sink.transfer stall contents w s = ⟨.ok (), rest, w', s'⟩) :
    sink.writeBuffered contents w s = ((sink.flush w' s').1, (sink.flush w' s').2.2) := by
  rw [writeBuffered]
  split
  · simp only [h]
  · simp only [writeChunks, h]

/-- After a failure the rest is offered once more; if nothing comes of that, the sink stays as the
failure left it. -/
theorem writeBuffered_of_error {sink : Sink σ ω} {contents rest : Bytes} {w w' : ω} {s s' : σ}
    {e : IoError} (h : ∀ stall, sink.transfer stall contents w s = ⟨.error e, rest, w', s'⟩)
    (hrest : ∀ stall, (sink.transfer stall rest w' s').state = s') :
    sink.writeBuffered contents w s = (.error e, s') := by
  rw [writeBuffered]
  split
  · simp only [h, hrest]
  · simp only [writeChunks, h]

/-- A sink whose writers take everything and never fail to flush. -/
theorem writeBuffered_of_write {sink : Sink σ ω} {contents : Bytes} {w : ω} {s s' : σ}
    (hwrite : contents ≠ [] → sink.write w contents s = (.ok contents.length, w, s'))
    (hnil : contents = [] → s' = s) (hflush : sink.flush w s' = (.ok (), w, s')) :
    sink.writeBuffered contents w s = (.ok (), s') := by
  have h (stall : IoError) : sink.transfer stall contents w s = ⟨.ok (), [], w, s'⟩ := by
    by_cases hne : contents = []
    · rw [hnil hne, hne, transfer_nil]
    · exact transfer_of_write stall hne (hwrite hne)
  rw [writeBuffered_of_ok h, hflush]

end PluginWrapper.Sink
