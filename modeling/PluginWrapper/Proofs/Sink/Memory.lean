import PluginWrapper.Proofs.Sink.Transfer

/-! A memory after a series of writes: each slot holds what was put into it last, and a writer of
a memory delivers its whole contents. -/
namespace PluginWrapper.Memory

private theorem put_put (m : Memory) (slot : Slot) (first second : Bytes) :
    (m.put slot first).put slot second = m.put slot second := by
  apply ext_contents?
  intro other
  simp only [contents?_put]
  split <;> rfl

theorem append_put (m : Memory) (slot : Slot) (first second : Bytes) :
    (m.put slot first).append slot second = m.put slot (first ++ second) := by
  simp [append, contents?_put, put_put]

theorem contents?_put_eq_some {m : Memory} {slot other : Slot} {bytes contents : Bytes} :
    (m.put slot bytes).contents? other = some contents ↔
      slot = other ∧ bytes = contents ∨ slot ≠ other ∧ m.contents? other = some contents := by
  rw [contents?_put]
  split <;> simp_all

def putAll (m : Memory) (entries : List (Slot × Bytes)) : Memory :=
  entries.foldl (fun m entry => m.put entry.1 entry.2) m

@[simp] theorem putAll_cons (m : Memory) (entry : Slot × Bytes) (entries : List (Slot × Bytes)) :
    m.putAll (entry :: entries) = (m.put entry.1 entry.2).putAll entries := rfl

theorem putAll_append (m : Memory) (first second : List (Slot × Bytes)) :
    m.putAll (first ++ second) = (m.putAll first).putAll second :=
  List.foldl_append

/-- The last entry of a slot decides; without one the slot is as before. -/
theorem contents?_putAll (m : Memory) (entries : List (Slot × Bytes)) (slot : Slot) :
    (m.putAll entries).contents? slot =
      ((entries.filter (·.1 = slot)).getLast?.map (·.2)).or (m.contents? slot) := by
  induction entries generalizing m with
  | nil => rfl
  | cons entry entries ih =>
    rw [putAll_cons, ih, contents?_put, List.filter_cons]
    by_cases h : entry.1 = slot
    · rw [if_pos h, if_pos (by simpa using h), List.getLast?_cons]
      cases (entries.filter (·.1 = slot)).getLast? <;> rfl
    · rw [if_neg h, if_neg (by simpa using h)]

theorem size_sources {m : Memory} {names : List String} (hnodup : names.Nodup)
    (h : ∀ name, (m.contents? (.source name)).isSome ↔ name ∈ names) :
    m.sources.size = names.length := by
  have hkeys (name : String) : name ∈ m.sources.keys ↔ name ∈ names := by
    rw [Std.ExtTreeMap.mem_keys, ← Std.ExtTreeMap.isSome_getElem?_iff_mem]
    exact h name
  rw [← Std.ExtTreeMap.length_keys]
  exact ((List.perm_ext_iff_of_nodup Std.ExtTreeMap.nodup_keys hnodup).mpr hkeys).length_eq

/-- What is written to an artifact that was just opened is all that its slot holds. -/
theorem writeBuffered_put (m : Memory) (slot : Slot) (contents : Bytes) :
    sink.writeBuffered contents slot (m.put slot []) = (.ok (), m.put slot contents) := by
  refine Sink.writeBuffered_of_write ?_ ?_ rfl
  · intro _
    simp [sink, append_put]
  · intro h
    rw [h]

end PluginWrapper.Memory
