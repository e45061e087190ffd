import PluginWrapper.Bytes

/-! Encoded texts that are cut short: what is left is a text again if the cut goes through none of
the characters. -/
namespace PluginWrapper.Bytes

private theorem toByteArray_ofString (text : String) :
    (ofString text).toByteArray = text.toByteArray := by
  conv => rhs; rw [← String.ofList_toList (s := text)]
  rw [String.toByteArray_ofList, ofString, List.utf8Encode]

theorem length_ofString (text : String) : (ofString text).length = text.utf8ByteSize := by
  rw [← String.size_toByteArray, ← toByteArray_ofString, List.size_toByteArray]

/-- The place behind so many bytes of a text lies within one of its characters. -/
def IsInside (text : String) (n : Nat) : Prop :=
  ∃ (before after : String) (c : Char), text = before.push c ++ after ∧
    before.utf8ByteSize < n ∧ n < (before.push c).utf8ByteSize

variable {text : String} {n : Nat}

private theorem exists_front_or_isInside (h : n ≤ text.utf8ByteSize) :
    (∃ front back, text = front ++ back ∧ n = front.utf8ByteSize) ∨ IsInside text n := by
  induction text using String.push_induction with
  | empty => exact .inl ⟨"", "", rfl, Nat.le_zero.mp h⟩
  | push text c ih =>
    by_cases htext : n ≤ text.utf8ByteSize
    · rcases ih htext with ⟨front, back, rfl, hn⟩ | ⟨before, after, d, rfl, hlt, hgt⟩
      · refine .inl ⟨front, back.push c, ?_, hn⟩
        simp [← String.append_singleton, String.append_assoc]
      · refine .inr ⟨before, after.push c, d, ?_, hlt, hgt⟩
        simp [← String.append_singleton, String.append_assoc]
    · by_cases hall : n = (text.push c).utf8ByteSize
      · exact .inl ⟨text.push c, "", by simp, hall⟩
      · exact .inr ⟨text, "", c, by simp, by omega, by omega⟩

/-- No text ends where a longer one is within a character. -/
private theorem not_isInside_append (front back : String) :
    ¬ IsInside (front ++ back) front.utf8ByteSize := by
  rintro ⟨before, after, c, heq, hlt, hgt⟩
  have hlists := congrArg String.toList heq
  simp only [String.toList_append, String.toList_push, List.append_assoc] at hlists
  simp only [String.utf8ByteSize_push] at hgt
  rcases List.append_eq_append_iff.mp hlists with ⟨more, hbefore, -⟩ | ⟨more, hfront, hmore⟩
  · have hfront : before = front ++ String.ofList more := String.toList_inj.mp (by simp [hbefore])
    rw [hfront, String.utf8ByteSize_append] at hlt
    omega
  · cases more with
    | nil =>
      rw [List.append_nil] at hfront
      rw [String.toList_inj.mp hfront] at hlt
      omega
    | cons d more =>
      obtain rfl : c = d := (List.cons.inj hmore).1
      have hfront : front = before.push c ++ String.ofList more :=
        String.toList_inj.mp (by simp [hfront])
      rw [hfront, String.utf8ByteSize_append, String.utf8ByteSize_push] at hgt
      omega

theorem toString?_take_eq_none (h : n ≤ text.utf8ByteSize) :
    toString? ((ofString text).take n) = none ↔ IsInside text n := by
  have hall : (⟨(ofString text).toArray⟩ : ByteArray) = text.toByteArray := by
    rw [← toByteArray_ofString]
    apply ByteArray.ext
    simp
  have hbytes : (⟨((ofString text).take n).toArray⟩ : ByteArray) =
      text.toByteArray.extract 0 n := by
    rw [← hall]
    apply ByteArray.ext
    simp
  have hvalid : (text.toByteArray.extract 0 n).IsValidUTF8 ↔ String.Pos.Raw.IsValid text ⟨n⟩ := by
    rw [String.Pos.Raw.isValid_iff_isValidUTF8_extract_zero]
    exact ⟨fun hvalid => ⟨h, hvalid⟩, And.right⟩
  rw [toString?, hbytes, String.fromUTF8?]
  constructor
  · intro hnone
    refine (exists_front_or_isInside h).resolve_left ?_
    rintro ⟨front, back, htext, hn⟩
    have hfront : String.Pos.Raw.IsValid text ⟨n⟩ :=
      String.Pos.Raw.isValid_iff_exists_append.mpr ⟨front, back, htext, String.Pos.Raw.ext hn⟩
    rw [dif_pos (hvalid.mpr hfront)] at hnone
    cases hnone
  · intro hinside
    refine dif_neg fun hfront => ?_
    obtain ⟨front, back, rfl, hn⟩ :=
      String.Pos.Raw.isValid_iff_exists_append.mp (hvalid.mp hfront)
    obtain rfl : n = front.utf8ByteSize := congrArg String.Pos.Raw.byteIdx hn
    exact not_isInside_append front back hinside

end PluginWrapper.Bytes
