import PluginWrapper.Proofs.Sink.Transfer

/-! When contents arrive. A writer may take them in pieces of any size; they have arrived once all
are taken and the writer is flushed, held back before that or not. -/
namespace PluginWrapper.Sink
variable {σ ω : Type}

/-- The writer takes all of the bytes, some more with every write. -/
inductive Takes (sink : Sink σ ω) : Bytes → ω → σ → ω → σ → Prop where
  | nil (w : ω) (s : σ) : Takes sink [] w s w s
  | write {bytes : Bytes} {n : Nat} {w w' w'' : ω} {s s' s'' : σ} : bytes ≠ [] → 0 < n →
    sink.write w bytes s = (.ok n, w', s') → Takes sink (bytes.drop n) w' s' w'' s'' →
    Takes sink bytes w s w'' s''

/-- What was opened took all of the contents and was flushed. -/
def Delivers (sink : Sink σ ω) (contents : Bytes) (opened : Except IoError ω × σ) (s' : σ) : Prop :=
  ∃ w s w₁ s₁ w₂, opened = (.ok w, s) ∧ sink.Takes contents w s w₁ s₁ ∧
    sink.flush w₁ s₁ = (.ok (), w₂, s')

variable {sink : Sink σ ω} {bytes : Bytes} {w w' : ω} {s s' : σ}

private theorem Takes.transfer_eq (h : sink.Takes bytes w s w' s') (stall : IoError) :
    sink.transfer stall bytes w s = ⟨.ok (), [], w', s'⟩ := by
  induction h with
  | nil w s => exact transfer_nil sink stall w s
  | @write bytes n _ _ _ _ _ _ hne hn hwrite _ ih =>
    obtain ⟨b, rest, rfl⟩ := List.exists_cons_of_ne_nil hne
    obtain ⟨k, rfl⟩ := Nat.exists_eq_add_one.mpr hn
    rw [transfer, hwrite]
    exact ih

private theorem takes_of_transfer (stall : IoError) (bytes : Bytes) (w : ω) (s : σ)
    (h : (sink.transfer stall bytes w s).result = .ok ()) :
    sink.Takes bytes w s (sink.transfer stall bytes w s).writer
      (sink.transfer stall bytes w s).state := by
  fun_induction sink.transfer stall bytes w s with
  | case1 w s => exact .nil w s
  | case2 => cases h
  | case3 => cases h
  | case4 w s b rest n w' s' hwrite ih =>
    exact .write (List.cons_ne_nil b rest) n.succ_pos hwrite (ih h)

/-- A transfer that succeeds ends where the flush finds the writer. -/
theorem delivers_of_transfer {stall : IoError} (h : (sink.transfer stall bytes w s).result = .ok ())
    (hflush : (sink.flush (sink.transfer stall bytes w s).writer
      (sink.transfer stall bytes w s).state).1 = .ok ()) :
    sink.Delivers bytes (.ok w, s) (sink.flush (sink.transfer stall bytes w s).writer
      (sink.transfer stall bytes w s).state).2.2 :=
  ⟨w, s, _, _, _, rfl, takes_of_transfer stall bytes w s h, Prod.ext hflush rfl⟩

/-- Whether they are held back makes no difference to whether contents arrive. -/
theorem writeBuffered_eq_ok {contents : Bytes} :
    sink.writeBuffered contents w s = (.ok (), s') ↔ sink.Delivers contents (.ok w, s) s' := by
  constructor
  · intro h
    rw [writeBuffered] at h
    split at h
    · dsimp only at h
      split at h
      · rename_i hresult
        obtain ⟨hflush, rfl⟩ := Prod.mk.inj h
        exact delivers_of_transfer hresult hflush
      · cases h
    · simp only [writeChunks] at h
      split at h
      · rename_i hresult
        obtain ⟨hflush, rfl⟩ := Prod.mk.inj h
        exact delivers_of_transfer hresult hflush
      · cases h
  · rintro ⟨_, _, w₁, s₁, w₂, hopened, htakes, hflush⟩
    cases hopened
    rw [writeBuffered_of_ok htakes.transfer_eq, hflush]

end PluginWrapper.Sink
