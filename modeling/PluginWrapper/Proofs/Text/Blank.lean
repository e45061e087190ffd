import Mathlib.Data.List.DropRight
import PluginWrapper.Text.Blank

/-! What trimming leaves of a text: what stands between the blanks at its two ends. -/
namespace PluginWrapper.Text

/-- There is no blank at either end. -/
structure IsTrimmed (s : List Char) : Prop where
  head : ∀ c ∈ s.head?, isBlank c = false
  last : ∀ c ∈ s.getLast?, isBlank c = false

variable {a b s t : List Char}

theorem isTrimmed_of_forall (h : ∀ c ∈ s, isBlank c = false) : IsTrimmed s where
  head c hc := h c (List.mem_of_mem_head? hc)
  last c hc := h c (List.mem_of_mem_getLast? hc)

theorem IsTrimmed.append (ha : IsTrimmed a) (hb : IsTrimmed b) (hane : a ≠ []) (hbne : b ≠ []) :
    IsTrimmed (a ++ b) where
  head c hc := ha.head c (by rwa [List.head?_append_of_ne_nil _ hane] at hc)
  last c hc := hb.last c (by rwa [List.getLast?_append_of_ne_nil _ hbne] at hc)

theorem trimStart_append (ha : ∀ c ∈ a, isBlank c = true) (s : List Char) :
    trimStart (a ++ s) = trimStart s :=
  List.dropWhile_append_of_pos ha

theorem trimStart_eq_self (h : ∀ c ∈ s.head?, isBlank c = false) : trimStart s = s := by
  cases s with
  | nil => rfl
  | cons c s => exact List.dropWhile_cons_of_neg (by simp [h c rfl])

theorem trimEnd_eq_reverse (s : List Char) : trimEnd s = (trimStart s.reverse).reverse := rfl

theorem trimEnd_append (hb : ∀ c ∈ b, isBlank c = true) (s : List Char) :
    trimEnd (s ++ b) = trimEnd s := by
  have hreverse : ∀ c ∈ b.reverse, isBlank c = true := fun c hc => hb c (List.mem_reverse.mp hc)
  rw [trimEnd_eq_reverse, List.reverse_append, trimStart_append hreverse, ← trimEnd_eq_reverse]

theorem trimEnd_eq_self (h : ∀ c ∈ s.getLast?, isBlank c = false) : trimEnd s = s := by
  rw [trimEnd_eq_reverse, trimStart_eq_self (by rwa [List.head?_reverse]), List.reverse_reverse]

theorem trim_of_isTrimmed (h : IsTrimmed s) : trim s = s := by
  rw [trim, trimStart_eq_self h.head, trimEnd_eq_self h.last]

theorem head_trimStart (s : List Char) : ∀ c ∈ (trimStart s).head?, isBlank c = false := by
  intro c hc
  have hnot := List.head?_dropWhile_not isBlank s
  rwa [← trimStart, Option.mem_def.mp hc] at hnot

theorem isTrimmed_trim (s : List Char) : IsTrimmed (trim s) where
  head c hc := by
    obtain ⟨rest, htrim⟩ := List.head?_eq_some_iff.mp hc
    have hprefix : trim s <+: trimStart s := List.rdropWhile_prefix isBlank _
    obtain ⟨dropped, hstart⟩ := htrim ▸ hprefix
    exact head_trimStart s c (hstart ▸ rfl)
  last c hc := by
    rw [trim, trimEnd_eq_reverse, List.getLast?_reverse] at hc
    exact head_trimStart _ c hc

/-- All that is dropped is blank. -/
theorem exists_trim (s : List Char) : ∃ a b, (∀ c ∈ a, isBlank c = true) ∧
    (∀ c ∈ b, isBlank c = true) ∧ s = a ++ trim s ++ b := by
  refine ⟨s.takeWhile isBlank, (trimStart s).rtakeWhile isBlank, fun c => List.mem_takeWhile_imp,
    fun c => List.mem_rtakeWhile_imp, ?_⟩
  have hend : trim s ++ (trimStart s).rtakeWhile isBlank = trimStart s :=
    List.rdropWhile_append_rtakeWhile
  rw [List.append_assoc, hend, trimStart, List.takeWhile_append_dropWhile]

/-- A lead without blanks stays where a text is trimmed. -/
theorem prefix_trim {lead : List Char} (hlead : ∀ c ∈ lead, isBlank c = false) (h : lead <+: s) :
    lead <+: trim s := by
  obtain ⟨rest, rfl⟩ := h
  have hlast := (isTrimmed_of_forall hlead).last
  cases lead with
  | nil => exact List.nil_prefix
  | cons c lead =>
    have hstart : trimStart (c :: lead ++ rest) = c :: lead ++ rest :=
      trimStart_eq_self fun d hd => hlead d (Option.some.inj hd ▸ List.mem_cons_self)
    have hreverse : (c :: lead).reverse.dropWhile isBlank = (c :: lead).reverse :=
      trimStart_eq_self (by rwa [List.head?_reverse])
    rw [trim, hstart, trimEnd, List.reverse_append, List.dropWhile_append, hreverse]
    split
    · simp
    · rw [List.reverse_append, List.reverse_reverse]
      exact List.prefix_append _ _

theorem trim_eq_iff : trim s = t ↔ IsTrimmed t ∧ ∃ a b, (∀ c ∈ a, isBlank c = true) ∧
    (∀ c ∈ b, isBlank c = true) ∧ s = a ++ t ++ b := by
  constructor
  · rintro rfl
    exact ⟨isTrimmed_trim s, exists_trim s⟩
  · rintro ⟨ht, a, b, ha, hb, rfl⟩
    rw [trim, List.append_assoc, trimStart_append ha]
    cases t with
    | nil =>
      have hnil := trimStart_append hb []
      rw [List.append_nil] at hnil
      rw [List.nil_append, hnil]
      rfl
    | cons c t =>
      have hhead : ∀ d ∈ (c :: t ++ b).head?, isBlank d = false := ht.head
      rw [trimStart_eq_self hhead, trimEnd_append hb, trimEnd_eq_self ht.last]

end PluginWrapper.Text
