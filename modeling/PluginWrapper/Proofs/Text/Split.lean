import PluginWrapper.Text.Split

/-! The pieces of a text that is put together from others. -/
namespace PluginWrapper.Text

private theorem exists_split_cons {sep c : Char} (h : c ≠ sep) (s : List Char) :
    ∃ first rest, split sep s = first :: rest ∧ split sep (c :: s) = (c :: first) :: rest := by
  cases hs : split sep s with
  | nil => exact absurd hs (split_ne_nil sep s)
  | cons first rest => exact ⟨first, rest, rfl, by rw [split, if_neg h, hs]⟩

theorem not_mem_of_mem_split {sep : Char} {s piece : List Char} (h : piece ∈ split sep s) :
    sep ∉ piece := by
  induction s generalizing piece with
  | nil =>
    obtain rfl := List.mem_singleton.mp h
    exact List.not_mem_nil
  | cons c s ih =>
    by_cases hc : c = sep
    · rw [split, if_pos hc] at h
      rcases List.mem_cons.mp h with rfl | h
      · exact List.not_mem_nil
      · exact ih h
    · obtain ⟨first, rest, hs, hcons⟩ := exists_split_cons hc s
      rw [hcons] at h
      rcases List.mem_cons.mp h with rfl | h
      · intro hmem
        rcases List.mem_cons.mp hmem with rfl | hmem
        · exact hc rfl
        · exact ih (hs ▸ List.mem_cons_self) hmem
      · exact ih (hs ▸ List.mem_cons_of_mem first h)

theorem mem_of_mem_split {sep c : Char} {s piece : List Char} (h : piece ∈ split sep s)
    (hc : c ∈ piece) : c ∈ s := by
  induction s generalizing piece with
  | nil =>
    obtain rfl := List.mem_singleton.mp h
    exact hc
  | cons d s ih =>
    by_cases hd : d = sep
    · rw [split, if_pos hd] at h
      rcases List.mem_cons.mp h with rfl | h
      · cases hc
      · exact List.mem_cons_of_mem d (ih h hc)
    · obtain ⟨first, rest, hs, hcons⟩ := exists_split_cons hd s
      rw [hcons] at h
      rcases List.mem_cons.mp h with rfl | h
      · rcases List.mem_cons.mp hc with rfl | hc
        · exact List.mem_cons_self
        · exact List.mem_cons_of_mem d (ih (hs ▸ List.mem_cons_self) hc)
      · exact List.mem_cons_of_mem d (ih (hs ▸ List.mem_cons_of_mem first h) hc)

theorem exists_mem_split {sep c : Char} {s : List Char} (hc : c ∈ s) (hsep : c ≠ sep) :
    ∃ piece ∈ split sep s, c ∈ piece := by
  induction s with
  | nil => cases hc
  | cons d s ih =>
    by_cases hd : d = sep
    · have htail := (List.mem_cons.mp hc).resolve_left fun heq => hsep (heq.trans hd)
      obtain ⟨piece, hpiece, hmem⟩ := ih htail
      rw [split, if_pos hd]
      exact ⟨piece, List.mem_cons_of_mem [] hpiece, hmem⟩
    · obtain ⟨first, rest, hs, hcons⟩ := exists_split_cons hd s
      rw [hs] at ih
      rw [hcons]
      rcases List.mem_cons.mp hc with rfl | htail
      · exact ⟨c :: first, List.mem_cons_self, List.mem_cons_self⟩
      · obtain ⟨piece, hpiece, hmem⟩ := ih htail
        rcases List.mem_cons.mp hpiece with rfl | hpiece
        · exact ⟨d :: piece, List.mem_cons_self, List.mem_cons_of_mem d hmem⟩
        · exact ⟨piece, List.mem_cons_of_mem _ hpiece, hmem⟩

/-- A text before which nothing is cut is a part of the first piece. -/
theorem exists_split_append {sep : Char} {a : List Char} (h : sep ∉ a) (s : List Char) :
    ∃ first rest, split sep s = first :: rest ∧ split sep (a ++ s) = (a ++ first) :: rest := by
  induction a with
  | nil =>
    cases hs : split sep s with
    | nil => exact absurd hs (split_ne_nil sep s)
    | cons first rest => exact ⟨first, rest, rfl, hs⟩
  | cons c a ih =>
    obtain ⟨first, rest, hs, happend⟩ := ih fun hmem => h (List.mem_cons_of_mem c hmem)
    have hc : c ≠ sep := fun heq => h (heq ▸ List.mem_cons_self)
    obtain ⟨_, _, heq, hcons⟩ := exists_split_cons hc (a ++ s)
    obtain ⟨rfl, rfl⟩ := List.cons.inj (happend.symm.trans heq)
    exact ⟨first, rest, hs, hcons⟩

theorem split_of_not_mem {sep : Char} {s : List Char} (h : sep ∉ s) : split sep s = [s] := by
  obtain ⟨first, rest, hnil, hs⟩ := exists_split_append h []
  obtain ⟨rfl, rfl⟩ := List.cons.inj hnil
  simpa using hs

theorem split_append_cons (sep : Char) (a s : List Char) :
    split sep (a ++ sep :: s) = split sep a ++ split sep s := by
  induction a with
  | nil => simp [split]
  | cons c a ih =>
    by_cases hc : c = sep
    · rw [List.cons_append, split, if_pos hc, split, if_pos hc, ih, List.cons_append]
    · obtain ⟨first, rest, ha, hcons⟩ := exists_split_cons hc a
      obtain ⟨first', rest', heq, hcons'⟩ := exists_split_cons hc (a ++ sep :: s)
      rw [ih, ha, List.cons_append] at heq
      obtain ⟨rfl, rfl⟩ := List.cons.inj heq
      rw [List.cons_append, hcons', hcons, List.cons_append]

theorem split_join {sep : Char} {pieces : List (List Char)} (hne : pieces ≠ [])
    (h : ∀ piece ∈ pieces, sep ∉ piece) : split sep (join sep pieces) = pieces := by
  induction pieces with
  | nil => exact absurd rfl hne
  | cons piece pieces ih =>
    have hpiece := h piece List.mem_cons_self
    cases pieces with
    | nil => exact split_of_not_mem hpiece
    | cons next pieces =>
      rw [join, split_append_cons, split_of_not_mem hpiece,
        ih (List.cons_ne_nil next pieces) fun x hx => h x (List.mem_cons_of_mem piece hx),
        List.singleton_append]
      exact List.cons_ne_nil next pieces

theorem join_concat {sep : Char} {pieces : List (List Char)} (hne : pieces ≠ [])
    (piece : List Char) : join sep (pieces ++ [piece]) = join sep pieces ++ sep :: piece := by
  induction pieces with
  | nil => exact absurd rfl hne
  | cons first pieces ih =>
    cases pieces with
    | nil => rfl
    | cons next pieces =>
      have hjoin := ih (List.cons_ne_nil next pieces)
      simp only [List.cons_append, join] at hjoin ⊢
      rw [hjoin, List.append_assoc, List.cons_append]

theorem join_concat_append (sep : Char) (pieces : List (List Char)) (piece rest : List Char) :
    join sep (pieces ++ [piece ++ rest]) = join sep (pieces ++ [piece]) ++ rest := by
  by_cases hne : pieces = []
  · rw [hne]
    rfl
  · rw [join_concat hne, join_concat hne, List.append_assoc, List.cons_append]

/-- To part a text at one separator and to join it with another is to put the one for the other. -/
theorem join_split_map (sep sep' : Char) (s : List Char) :
    join sep' (split sep s) = s.map fun c => if c = sep then sep' else c := by
  induction s with
  | nil => rfl
  | cons c s ih =>
    by_cases hc : c = sep
    · obtain ⟨first, rest, hs⟩ := List.exists_cons_of_ne_nil (split_ne_nil sep s)
      rw [split, if_pos hc, List.map_cons, if_pos hc, ← ih, hs]
      rfl
    · obtain ⟨first, rest, hs, hcons⟩ := exists_split_cons hc s
      rw [hcons, List.map_cons, if_neg hc, ← ih, hs]
      cases rest <;> rfl

theorem split_inj {sep : Char} {s t : List Char} (h : split sep s = split sep t) : s = t := by
  rw [← join_split sep s, h, join_split]

/-- A separator ends what stands before it. -/
theorem cut?_append_cons {sep : Char} {a : List Char} (h : sep ∉ a) (s : List Char) :
    cut? sep (a ++ sep :: s) = some (a, s) := by
  induction a with
  | nil => rw [List.nil_append, cut?, if_pos rfl]
  | cons c a ih =>
    have hc : c ≠ sep := fun heq => h (heq ▸ List.mem_cons_self)
    rw [List.cons_append, cut?, if_neg hc, ih fun hmem => h (List.mem_cons_of_mem c hmem)]
    rfl

theorem cut?_eq_none {sep : Char} {s : List Char} : cut? sep s = none ↔ sep ∉ s := by
  constructor
  · intro h hmem
    obtain ⟨a, rest, rfl, ha⟩ := List.eq_append_cons_of_mem hmem
    rw [cut?_append_cons ha] at h
    cases h
  · intro h
    induction s with
    | nil => rfl
    | cons c s ih =>
      have hc : c ≠ sep := fun heq => h (heq ▸ List.mem_cons_self)
      rw [cut?, if_neg hc, ih fun hmem => h (List.mem_cons_of_mem c hmem)]
      rfl

private theorem append_cons_inj {sep : Char} {a b s t : List Char} (ha : sep ∉ a) (hb : sep ∉ b)
    (h : a ++ sep :: s = b ++ sep :: t) : a = b ∧ s = t := by
  have hcut := congrArg (cut? sep) h
  rw [cut?_append_cons ha, cut?_append_cons hb] at hcut
  exact Prod.mk.inj (Option.some.inj hcut)

/-- The last separator parts a text as well as the first one does. -/
theorem append_cons_inj_last {sep : Char} {a b s t : List Char} (hs : sep ∉ s) (ht : sep ∉ t)
    (h : a ++ sep :: s = b ++ sep :: t) : a = b ∧ s = t := by
  have hreverse := congrArg List.reverse h
  simp only [List.reverse_append, List.reverse_cons, List.append_assoc,
    List.singleton_append] at hreverse
  obtain ⟨hafter, hbefore⟩ := append_cons_inj (mt List.mem_reverse.mp hs)
    (mt List.mem_reverse.mp ht) hreverse
  exact ⟨List.reverse_inj.mp hbefore, List.reverse_inj.mp hafter⟩

/-- A mark ends what stands before it, if its first character cannot stand there. -/
theorem append_mark_inj {sep : Char} {mark a b s t : String}
    (hmark : mark.toList.head? = some sep) (ha : sep ∉ a.toList) (hb : sep ∉ b.toList)
    (h : a ++ (mark ++ s) = b ++ (mark ++ t)) : a = b ∧ s = t := by
  obtain ⟨rest, hrest⟩ := List.head?_eq_some_iff.mp hmark
  have hlist := congrArg String.toList h
  simp only [String.toList_append, hrest, List.cons_append] at hlist
  obtain ⟨hbefore, hafter⟩ := append_cons_inj ha hb hlist
  exact ⟨String.toList_inj.mp hbefore,
    String.toList_inj.mp (List.append_cancel_left hafter)⟩

end PluginWrapper.Text
