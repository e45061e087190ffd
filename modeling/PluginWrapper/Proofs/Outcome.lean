import PluginWrapper.Round

/-! Activities one after the other: how the parts of an outcome come about, and the laws of going
on. -/
namespace PluginWrapper.Outcome
variable {σ α β γ : Type} {o : Outcome σ α}

theorem andThen_of_ok {a : α} (next : α → σ → Outcome σ β) (h : o.result = .ok a) :
    (o.andThen next).result = (next a o.state).result ∧
      (o.andThen next).state = (next a o.state).state := by
  simp [andThen, h]

theorem andThen_of_error {e : GenerationError} (next : α → σ → Outcome σ β)
    (h : o.result = .error e) :
    (o.andThen next).result = .error e ∧ (o.andThen next).state = o.state := by
  simp [andThen, h]

theorem andThen_eq_ok {next : α → σ → Outcome σ β} {b : β} : (o.andThen next).result = .ok b ↔
    ∃ a, o.result = .ok a ∧ (next a o.state).result = .ok b := by
  cases h : o.result <;> simp [andThen, h]

theorem andThen_assoc (o : Outcome σ α) (next : α → σ → Outcome σ β)
    (last : β → σ → Outcome σ γ) :
    (o.andThen next).andThen last = o.andThen fun a s => (next a s).andThen last := by
  obtain ⟨result, events, s⟩ := o
  cases result with
  | error e => rfl
  | ok a =>
    simp only [andThen]
    cases (next a s).result with
    | error e => rfl
    | ok b => simp only [List.append_assoc]

theorem map_id (o : Outcome σ α) : o.map (fun a => a) = o := by
  obtain ⟨result, events, s⟩ := o
  cases result <;> rfl

theorem map_map (o : Outcome σ α) (f : α → β) (g : β → γ) :
    (o.map f).map g = o.map fun a => g (f a) := by
  obtain ⟨result, events, s⟩ := o
  cases result <;> rfl

theorem map_andThen (o : Outcome σ α) (f : α → β) (next : β → σ → Outcome σ γ) :
    (o.map f).andThen next = o.andThen fun a s => next (f a) s := by
  obtain ⟨result, events, s⟩ := o
  cases result <;> rfl

theorem andThen_map (o : Outcome σ α) (next : α → σ → Outcome σ β) (f : β → γ) :
    (o.andThen next).map f = o.andThen fun a s => (next a s).map f := by
  obtain ⟨result, events, s⟩ := o
  cases result <;> rfl

end PluginWrapper.Outcome
