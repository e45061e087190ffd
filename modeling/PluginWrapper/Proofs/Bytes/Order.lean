import Mathlib.Tactic.SplitIfs
import PluginWrapper.Bytes

/-! The order of texts, which is that of their characters, is also the order of their bytes. -/
namespace PluginWrapper.Bytes

/-- What is left of a number when its last `k` digits in base 64 are cut off. -/
def highest : Nat → Nat → Nat
  | 0, n => n
  | k + 1, n => highest k (n / 64)

/-- A number in base 64, with a byte for each of its last `k` digits. The byte before them holds
what is left, counted from an offset. -/
def digits (offset : Nat) : Nat → Nat → Bytes
  | 0, n => [.ofNat (n + offset)]
  | k + 1, n => digits offset k (n / 64) ++ [.ofNat (n % 64 + 0x80)]

def following (n : Nat) : Nat :=
  if n ≤ 0x7f then 0 else if n ≤ 0x7ff then 1 else if n ≤ 0xffff then 2 else 3

def offset : Nat → Nat
  | 0 => 0
  | 1 => 0xc0
  | 2 => 0xe0
  | _ => 0xf0

private theorem code_lt (c : Char) : c.toNat < 0x110000 := by
  obtain hlow | ⟨-, hhigh⟩ := c.valid
  · exact Nat.lt_trans hlow (by decide)
  · exact hhigh

private theorem encode_eq (c : Char) : String.utf8EncodeChar c =
    digits (offset (following c.toNat)) (following c.toNat) c.toNat := by
  have hval : c.val.toNat = c.toNat := rfl
  have hc := code_lt c
  simp only [String.utf8EncodeChar, following, hval]
  generalize c.toNat = n at hc
  split_ifs
  · rfl
  · have hfirst : n / 64 % 0x20 = n / 64 := Nat.mod_eq_of_lt (by omega)
    rw [hfirst]
    rfl
  · have hfirst : n / 4096 % 0x10 = n / 64 / 64 := by omega
    rw [hfirst]
    rfl
  · have hfirst : n / 262144 % 0x08 = n / 64 / 64 / 64 := by omega
    have hsecond : n / 4096 % 0x40 = n / 64 / 64 % 64 := by omega
    rw [hfirst, hsecond]
    rfl

private theorem ofNat_lt {a b : Nat} (hb : b < 256) (h : a < b) :
    UInt8.ofNat a < UInt8.ofNat b := by
  rw [UInt8.lt_iff_toNat_lt, UInt8.toNat_ofNat', UInt8.toNat_ofNat']
  omega

private theorem exists_digits (o k n : Nat) :
    ∃ rest, digits o k n = .ofNat (highest k n + o) :: rest := by
  induction k generalizing n with
  | zero => exact ⟨[], rfl⟩
  | succ k ih =>
    obtain ⟨rest, hrest⟩ := ih (n / 64)
    exact ⟨rest ++ [.ofNat (n % 64 + 0x80)], by rw [digits, hrest]; rfl⟩

private theorem exists_encode (c : Char) : ∃ rest, String.utf8EncodeChar c =
    .ofNat (highest (following c.toNat) c.toNat + offset (following c.toNat)) :: rest := by
  rw [encode_eq]
  exact exists_digits _ _ _

/-- The first digit in which two numbers differ decides. -/
private theorem digits_append_lt {o k n m : Nat} (hm : highest k m + o < 256) (h : n < m)
    (s t : Bytes) :
    digits o k n ++ s < digits o k m ++ t := by
  induction k generalizing n m s t with
  | zero => exact List.cons_lt_cons_iff.mpr (.inl (ofNat_lt hm (Nat.add_lt_add_right h o)))
  | succ k ih =>
    simp only [digits, List.append_assoc]
    obtain hlt | heq : n / 64 < m / 64 ∨ n / 64 = m / 64 := by omega
    · exact ih hm hlt _ _
    · have hlast : UInt8.ofNat (n % 64 + 0x80) < UInt8.ofNat (m % 64 + 0x80) :=
        ofNat_lt (by omega) (by omega)
      rw [heq]
      exact List.append_left_lt (List.cons_lt_cons_iff.mpr (.inl hlast))

private theorem highest_add_offset_lt {n : Nat} (h : n < 0x110000) :
    highest (following n) n + offset (following n) < 256 := by
  unfold following
  split_ifs <;> simp only [highest, offset] <;> omega

private theorem highest_add_offset_mono {n m : Nat} (h : n < m) (hne : following n ≠ following m) :
    highest (following n) n + offset (following n) <
      highest (following m) m + offset (following m) := by
  unfold following at *
  split_ifs at * <;> simp only [highest, offset] <;> omega

/-- A character with more bytes has a greater first byte. -/
private theorem encode_append_lt {c d : Char} (h : c < d) (s t : Bytes) :
    String.utf8EncodeChar c ++ s < String.utf8EncodeChar d ++ t := by
  have hlt : c.toNat < d.toNat := h
  have hbound := highest_add_offset_lt (code_lt d)
  by_cases hfollowing : following c.toNat = following d.toNat
  · rw [encode_eq, encode_eq, hfollowing]
    exact digits_append_lt hbound hlt s t
  · obtain ⟨rest, hc⟩ := exists_encode c
    obtain ⟨rest', hd⟩ := exists_encode d
    have hfirst := ofNat_lt hbound (highest_add_offset_mono hlt hfollowing)
    rw [hc, hd]
    exact List.cons_lt_cons_iff.mpr (.inl hfirst)

theorem ofString_lt {s t : String} (h : s < t) : ofString s < ofString t := by
  rw [String.lt_iff] at h
  unfold ofString
  generalize s.toList = s at h
  generalize t.toList = t at h
  induction h with
  | @nil c t =>
    obtain ⟨rest, hc⟩ := exists_encode c
    rw [List.flatMap_cons, hc]
    exact List.nil_lt_cons _ _
  | rel hlt => exact encode_append_lt hlt _ _
  | cons _ ih => exact List.append_left_lt ih

end PluginWrapper.Bytes
