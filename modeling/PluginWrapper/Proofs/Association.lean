import Mathlib.Data.List.Nodup

/-! Lists of keys with values, looked up by key. -/
namespace PluginWrapper

variable {κ α β : Type} [DecidableEq κ]

theorem lookup_cons_eq_ite (key k : κ) (v : α) (rest : List (κ × α)) :
    ((key, v) :: rest).lookup k = if k = key then some v else rest.lookup k := by
  by_cases h : k = key
  · simp [h]
  · simp [List.lookup_cons, beq_false_of_ne h, h]

theorem lookup_eq_none_iff_keys {entries : List (κ × α)} {k : κ} :
    entries.lookup k = none ↔ k ∉ entries.map Prod.fst := by
  induction entries with
  | nil => simp
  | cons entry rest ih =>
    rw [lookup_cons_eq_ite, List.map_cons, List.mem_cons, not_or, ← ih]
    split_ifs with h <;> simp [h]

theorem lookup_of_mem {entries : List (κ × α)} (h : (entries.map Prod.fst).Nodup)
    {entry : κ × α} (hmem : entry ∈ entries) : entries.lookup entry.1 = some entry.2 := by
  induction entries with
  | nil => cases hmem
  | cons first rest ih =>
    obtain ⟨hfirst, hrest⟩ := List.nodup_cons.mp h
    rw [lookup_cons_eq_ite]
    obtain rfl | hmem := List.mem_cons.mp hmem
    · rw [if_pos rfl]
    · have hne : entry.1 ≠ first.1 := fun heq => hfirst (heq ▸ List.mem_map_of_mem hmem)
      rw [if_neg hne, ih hrest hmem]

theorem lookup_map_snd (f : α → β) (entries : List (κ × α)) (k : κ) :
    (entries.map fun entry => (entry.1, f entry.2)).lookup k = (entries.lookup k).map f := by
  induction entries with
  | nil => rfl
  | cons entry rest ih =>
    rw [List.map_cons, lookup_cons_eq_ite, lookup_cons_eq_ite, ih]
    split_ifs <;> rfl

theorem lookup_filter (keep : κ → Bool) {k : κ} (h : keep k = true) (entries : List (κ × α)) :
    (entries.filter (keep ·.1)).lookup k = entries.lookup k := by
  induction entries with
  | nil => rfl
  | cons entry rest ih =>
    obtain ⟨key, v⟩ := entry
    rw [List.filter_cons, lookup_cons_eq_ite, ← ih]
    split_ifs with hkey hk hk
    · rw [lookup_cons_eq_ite, if_pos hk]
    · rw [lookup_cons_eq_ite, if_neg hk]
    · exact absurd (hk ▸ h) hkey
    · rfl

/-- If no key comes twice, the first entry of a key is the last one. -/
theorem lookup_reverse {entries : List (κ × α)} (h : (entries.map Prod.fst).Nodup) (k : κ) :
    entries.reverse.lookup k = entries.lookup k := by
  induction entries with
  | nil => rfl
  | cons entry rest ih =>
    obtain ⟨key, v⟩ := entry
    obtain ⟨hkey, hrest⟩ := List.nodup_cons.mp h
    rw [List.reverse_cons, List.lookup_append, ih hrest, lookup_cons_eq_ite, lookup_cons_eq_ite]
    by_cases hk : k = key
    · rw [hk, lookup_eq_none_iff_keys.mpr hkey]
      simp
    · simp [hk]

end PluginWrapper
