import PluginWrapper.Text.Blank
import PluginWrapper.Text.Case
import PluginWrapper.Text.Split

/-! Lower case in ASCII moves letters to letters, so it keeps what a text is cut and trimmed at. No
change of case, in ASCII or beyond, makes a line feed. -/
namespace PluginWrapper.Text

private theorem between_iff (a z c : Char) :
    (c.val ≥ a.val ∧ c.val ≤ z.val) ↔ a.toNat ≤ c.toNat ∧ c.toNat ≤ z.toNat := by
  simp only [ge_iff_le, UInt32.le_iff_toNat_le, Char.toNat_val]

private theorem toNat_toLower (c : Char) :
    c.toLower.toNat = if 65 ≤ c.toNat ∧ c.toNat ≤ 90 then c.toNat + 32 else c.toNat := by
  have hbounds : (c.val ≥ 'A'.val ∧ c.val ≤ 'Z'.val) ↔ 65 ≤ c.toNat ∧ c.toNat ≤ 90 :=
    between_iff 'A' 'Z' c
  unfold Char.toLower
  by_cases h : c.val ≥ 'A'.val ∧ c.val ≤ 'Z'.val
  · have hc := hbounds.mp h
    rw [dif_pos h, if_pos hc]
    have hval : (c.val + ('a'.val - 'A'.val)).toNat = (c.toNat + 32) % 2 ^ 32 := rfl
    exact hval.trans (Nat.mod_eq_of_lt (by omega))
  · rw [dif_neg h, if_neg (mt hbounds.mpr h)]

private theorem toNat_toUpper (c : Char) :
    c.toUpper.toNat = if 97 ≤ c.toNat ∧ c.toNat ≤ 122 then c.toNat - 32 else c.toNat := by
  have hbounds : (c.val ≥ 'a'.val ∧ c.val ≤ 'z'.val) ↔ 97 ≤ c.toNat ∧ c.toNat ≤ 122 :=
    between_iff 'a' 'z' c
  unfold Char.toUpper
  by_cases h : c.val ≥ 'a'.val ∧ c.val ≤ 'z'.val
  · have hc := hbounds.mp h
    rw [dif_pos h, if_pos hc]
    have hshift : ('A'.val - 'a'.val).toNat = 2 ^ 32 - 32 := by decide
    change (c.val + ('A'.val - 'a'.val)).toNat = _
    rw [UInt32.toNat_add, hshift, Char.toNat_val]
    omega
  · rw [dif_neg h, if_neg (mt hbounds.mpr h)]

private theorem isUpper_iff {c : Char} : c.isUpper = true ↔ 65 ≤ c.toNat ∧ c.toNat ≤ 90 :=
  decide_eq_true_iff.trans (between_iff 'A' 'Z' c)

theorem isUpper_toLower (c : Char) : c.toLower.isUpper = false := by
  rw [← Bool.not_eq_true, isUpper_iff, toNat_toLower]
  split <;> omega

theorem toLower_toUpper {c : Char} (h : c.isUpper = false) : c.toUpper.toLower = c := by
  have hc : ¬ (65 ≤ c.toNat ∧ c.toNat ≤ 90) := fun hc => by simp [isUpper_iff.mpr hc] at h
  rw [← Char.toNat_inj, toNat_toLower, toNat_toUpper]
  by_cases hlower : 97 ≤ c.toNat ∧ c.toNat ≤ 122
  · rw [if_pos hlower, if_pos (by omega)]
    omega
  · rw [if_neg hlower, if_neg hc]

/-- No letter becomes a character that is not one. -/
theorem toLower_eq_iff {x : Char}
    (h : x.toNat < 65 ∨ 90 < x.toNat ∧ x.toNat < 97 ∨ 122 < x.toNat) (c : Char) :
    c.toLower = x ↔ c = x := by
  rw [← Char.toNat_inj, ← Char.toNat_inj, toNat_toLower]
  split <;> omega

theorem isBlank_toLower (c : Char) : isBlank c.toLower = isBlank c := by
  simp only [isBlank, Ranges.contains, blankRanges, List.any_cons, List.any_nil, toNat_toLower]
  split
  · grind
  · rfl

theorem lowerAscii_trim (s : List Char) : lowerAscii (trim s) = trim (lowerAscii s) := by
  have hblank : isBlank ∘ Char.toLower = isBlank := funext isBlank_toLower
  have hdrop (t : List Char) :
      (t.map Char.toLower).dropWhile isBlank = (t.dropWhile isBlank).map Char.toLower := by
    rw [List.dropWhile_map, hblank]
  simp only [lowerAscii, trim, trimStart, trimEnd, hdrop, ← List.map_reverse]

theorem map_lowerAscii_split {sep : Char} (hsep : ∀ c : Char, c.toLower = sep ↔ c = sep)
    (s : List Char) : (split sep s).map lowerAscii = split sep (lowerAscii s) := by
  induction s with
  | nil => rfl
  | cons c s ih =>
    have hcons : lowerAscii (c :: s) = c.toLower :: lowerAscii s := rfl
    rw [hcons, split, split, ← ih]
    by_cases hc : c = sep
    · rw [if_pos hc, if_pos ((hsep c).mpr hc)]
      rfl
    · rw [if_neg hc, if_neg (mt (hsep c).mp hc)]
      cases split sep s <;> rfl

/-- A property of a change of case in ASCII needs a look at the ASCII characters only. -/
private theorem ascii_induction {P : Char → Prop} (h : ∀ n < 128, P (Char.ofNat n)) {c : Char}
    (hc : c.toNat < 128) : P c := by
  have hn := h c.toNat hc
  rwa [Char.ofNat_toNat] at hn

private theorem ofNat_ne_newline {n : Nat} (h : n ≠ 10) : Char.ofNat n ≠ '\n' := by
  intro heq
  by_cases hvalid : n.isValidChar
  · rw [Char.ofNat, dif_pos hvalid] at heq
    exact h (congrArg Char.toNat heq)
  · rw [Char.ofNat, dif_neg hvalid] at heq
    cases heq

private theorem shifted?_ne_newline {runs : List Run}
    (h : ∀ run ∈ runs, 10 < run.first + run.shift) {n m : Nat} (hm : shifted? runs n = some m) :
    m ≠ 10 := by
  obtain ⟨run, hrun, rfl⟩ := Option.map_eq_some_iff.mp hm
  have hfirst := h run (List.mem_of_find?_eq_some hrun)
  have hbounds := List.find?_some hrun
  simp only [Bool.and_eq_true, decide_eq_true_eq] at hbounds
  omega

private theorem newline_ne_shifted {runs : List Run}
    (h : ∀ run ∈ runs, 10 < run.first + run.shift) {c : Char} (hc : '\n' ≠ c) :
    '\n' ∉ [((shifted? runs c.toNat).map Char.ofNat).getD c] := by
  rw [List.mem_singleton]
  cases hshift : shifted? runs c.toNat with
  | none => exact hc
  | some m => exact (ofNat_ne_newline (shifted?_ne_newline h hshift)).symm

private theorem newline_not_mem_upperOf {c : Char} (h : '\n' ≠ c) : '\n' ∉ upperOf c := by
  rw [upperOf]
  split
  · rename_i hascii
    exact ascii_induction (P := fun c => '\n' ≠ c → '\n' ∉ [c.toUpper]) (by decide +kernel)
      hascii h
  · split
    · rename_i expansion hlookup
      obtain ⟨_, _, hmem, -⟩ := List.lookup_eq_some_iff.mp hlookup
      have hexpansions : ∀ entry ∈ upperExpansions, ∀ n ∈ entry.2, n ≠ 10 := by decide +kernel
      have hcodes := hexpansions (c.toNat, expansion) (by rw [hmem]; simp)
      rw [List.mem_map]
      rintro ⟨n, hn, heq⟩
      exact ofNat_ne_newline (hcodes n hn) heq
    · exact newline_ne_shifted (by decide +kernel) h

private theorem newline_not_mem_lowerOf {c : Char} (h : '\n' ≠ c) : '\n' ∉ lowerOf c := by
  rw [lowerOf]
  split
  · rename_i hascii
    exact ascii_induction (P := fun c => '\n' ≠ c → '\n' ∉ [c.toLower]) (by decide +kernel)
      hascii h
  · split
    · decide
    · exact newline_ne_shifted (by decide +kernel) h

theorem newline_not_mem_upper {s : String} (h : '\n' ∉ s.toList) : '\n' ∉ (upper s).toList := by
  rw [upper, String.toList_ofList, List.mem_flatMap]
  rintro ⟨c, hc, hmem⟩
  exact newline_not_mem_upperOf (fun heq => h (heq ▸ hc)) hmem

private theorem newline_not_mem_lowerAfter (before : List Char) {s : List Char} (h : '\n' ∉ s) :
    '\n' ∉ lowerAfter before s := by
  induction s generalizing before with
  | nil => exact List.not_mem_nil
  | cons c s ih =>
    rw [List.mem_cons, not_or] at h
    rw [lowerAfter, List.mem_append, not_or]
    refine ⟨?_, ih (c :: before) h.2⟩
    split
    · split <;> decide
    · exact newline_not_mem_lowerOf h.1

theorem newline_not_mem_lower {s : String} (h : '\n' ∉ s.toList) : '\n' ∉ (lower s).toList := by
  rw [lower, String.toList_ofList]
  exact newline_not_mem_lowerAfter [] h

end PluginWrapper.Text
