import PluginWrapper.Proofs.Java.Token
import PluginWrapper.Text.Case

/-! Names under the changes that a wrapper makes to them: prefixes, suffixes and case. -/
namespace PluginWrapper.Java

private theorem toNat_lt_of_isNamePart {c : Char} (h : isNamePart c) : c.toNat < 128 := by
  have hc : isNamePart c = ((((decide ('A'.val ≤ c.val ∧ c.val ≤ 'Z'.val) ||
      (decide ('a'.val ≤ c.val) && decide (c.val ≤ 'z'.val))) || decide (c = '_')) ||
      decide (c = '$')) || (decide ('0'.val ≤ c.val) && decide (c.val ≤ '9'.val))) := rfl
  simp only [hc, Bool.or_eq_true, Bool.and_eq_true, decide_eq_true_eq,
    UInt32.le_iff_toNat_le] at h
  rcases h with (((h | h) | rfl) | rfl) | h
  · exact Nat.lt_of_le_of_lt h.2 (by decide)
  · exact Nat.lt_of_le_of_lt h.2 (by decide)
  · decide
  · decide
  · exact Nat.lt_of_le_of_lt h.2 (by decide)

/-- A property of the name parts needs a look at the ASCII characters only. -/
private theorem isNamePart_induction {P : Char → Prop}
    (h : ∀ n < 128, isNamePart (Char.ofNat n) → P (Char.ofNat n)) {c : Char} (hc : isNamePart c) :
    P c := by
  have hn := h c.toNat (toNat_lt_of_isNamePart hc)
  rw [Char.ofNat_toNat] at hn
  exact hn hc

private theorem isNamePart_of_isNameStart {c : Char} (h : isNameStart c) : isNamePart c := by
  simp [isNamePart, h]

private theorem isNamePart_toUpper {c : Char} (h : isNamePart c) : isNamePart c.toUpper :=
  isNamePart_induction (P := fun c => isNamePart c.toUpper) (by decide +kernel) h

private theorem isNameStart_toUpper {c : Char} (h : isNameStart c) : isNameStart c.toUpper :=
  isNamePart_induction (P := fun c => isNameStart c → isNameStart c.toUpper) (by decide +kernel)
    (isNamePart_of_isNameStart h) h

private theorem isNamePart_toLower {c : Char} (h : isNamePart c) : isNamePart c.toLower :=
  isNamePart_induction (P := fun c => isNamePart c.toLower) (by decide +kernel) h

private theorem upperOf_of_isNamePart {c : Char} (h : isNamePart c) :
    Text.upperOf c = [c.toUpper] := by
  rw [Text.upperOf, if_pos (toNat_lt_of_isNamePart h)]

private theorem flatMap_upperOf_of_isNamePart (s : List Char) (h : ∀ c ∈ s, isNamePart c) :
    s.flatMap Text.upperOf = s.map Char.toUpper := by
  induction s with
  | nil => rfl
  | cons c s ih =>
    rw [List.flatMap_cons, upperOf_of_isNamePart (h c (by simp)),
      ih fun x hx => h x (List.mem_cons_of_mem c hx)]
    rfl

private theorem lowerAfter_of_isNamePart (s before : List Char) (h : ∀ c ∈ s, isNamePart c) :
    Text.lowerAfter before s = s.map Char.toLower := by
  induction s generalizing before with
  | nil => rfl
  | cons c s ih =>
    have hc := toNat_lt_of_isNamePart (h c (by simp))
    have hsigma : c ≠ 'Σ' := by
      rintro rfl
      simp at hc
    rw [Text.lowerAfter, ih (c :: before) fun x hx => h x (List.mem_cons_of_mem c hx),
      if_neg hsigma, Text.lowerOf, if_pos hc]
    rfl

theorem isNamePart_of_isName {s : List Char} (h : isName s) : ∀ c ∈ s, isNamePart c := by
  cases s with
  | nil => simp
  | cons c rest =>
    simp only [isName, Bool.and_eq_true, List.all_eq_true] at h
    intro x hx
    rcases List.mem_cons.mp hx with rfl | hx
    · exact isNamePart_of_isNameStart h.1
    · exact h.2 x hx

theorem isName_append {first second : List Char} (h : isName first)
    (hsecond : second.all isNamePart) : isName (first ++ second) := by
  cases first with
  | nil => simp [isName] at h
  | cons c rest =>
    simp only [isName, Bool.and_eq_true, List.cons_append, List.all_append] at h ⊢
    exact ⟨h.1, h.2, hsecond⟩

theorem isName_upper {s : String} (h : isName s.toList) : isName (Text.upper s).toList := by
  have hparts := isNamePart_of_isName h
  have hupper : (Text.upper s).toList = s.toList.map Char.toUpper := by
    rw [Text.upper, String.toList_ofList, flatMap_upperOf_of_isNamePart _ hparts]
  rw [hupper]
  cases hs : s.toList with
  | nil => simp [hs, isName] at h
  | cons c rest =>
    rw [hs] at hparts h
    simp only [isName, Bool.and_eq_true] at h
    simp only [List.map_cons, isName, Bool.and_eq_true, List.all_map, List.all_eq_true]
    exact ⟨isNameStart_toUpper h.1,
      fun x hx => isNamePart_toUpper (hparts x (List.mem_cons_of_mem c hx))⟩

private theorem isPlain_of_parts {s : String} (h : ∀ c ∈ s.toList, isNamePart c) :
    IsPlain s := fun c hc =>
  isNamePart_induction (P := fun c => c ≠ '"' ∧ c ≠ '\\' ∧ c ≠ '\r' ∧ c ≠ '\n')
    (by decide +kernel) (h c hc)

theorem isPlain_lower {s : String} (h : isName s.toList) : IsPlain (Text.lower s) := by
  apply isPlain_of_parts
  rw [Text.lower, String.toList_ofList, lowerAfter_of_isNamePart _ _ (isNamePart_of_isName h)]
  intro c hc
  obtain ⟨x, hx, rfl⟩ := List.mem_map.mp hc
  exact isNamePart_toLower (isNamePart_of_isName h x hx)

theorem IsPlain.append {first second : String} (h : IsPlain first) (hsecond : IsPlain second) :
    IsPlain (first ++ second) := by
  intro c hc
  rw [String.toList_append] at hc
  exact (List.mem_append.mp hc).elim (h c) (hsecond c)

end PluginWrapper.Java
