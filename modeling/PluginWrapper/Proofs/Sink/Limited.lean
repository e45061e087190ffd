import PluginWrapper.Proofs.Sink.Memory
import PluginWrapper.Sink.Limited

/-! What a writer with an allowance of bytes delivers, and how allowances are spent. -/
namespace PluginWrapper.Limited
variable {cap limit left : Option Nat} {flushFails : Bool} {n : Nat}

def Covers (limit : Option Nat) (n : Nat) : Prop := ∀ left ∈ limit, n ≤ left

instance : Decidable (Covers limit n) :=
  match limit with
  | none => isTrue nofun
  | some left => decidable_of_iff (n ≤ left) (by simp [Covers])

@[simp] theorem covers_none (n : Nat) : Covers none n := nofun

@[simp] theorem covers_some (left n : Nat) : Covers (some left) n ↔ n ≤ left := by
  simp [Covers]

theorem Covers.mono {k : Nat} (h : Covers limit n) (hk : k ≤ n) : Covers limit k :=
  fun left hleft => Nat.le_trans hk (h left hleft)

theorem spend?_eq_none_iff : spend? limit = none ↔ ¬ Covers limit 1 := by
  cases limit with
  | none => simp [spend?]
  | some left => cases left <;> simp [spend?]

theorem exists_spend?_of_covers (h : Covers limit 1) : ∃ left, spend? limit = some left := by
  cases hs : spend? limit with
  | none => exact absurd h (spend?_eq_none_iff.mp hs)
  | some left => exact ⟨left, rfl⟩

theorem covers_succ_iff (h : spend? limit = some left) : Covers limit (n + 1) ↔ Covers left n := by
  cases limit with
  | none =>
    obtain rfl : none = left := by simpa [spend?] using h
    simp
  | some k =>
    cases k with
    | zero => simp [spend?] at h
    | succ k =>
      obtain rfl : some k = left := by simpa [spend?] using h
      simp

theorem allowed_of_covers (h : Covers limit n) : allowed n limit = n := by
  cases limit with
  | none => rfl
  | some left => exact Nat.min_eq_left ((covers_some left n).mp h)

private theorem transfer_of_covers {contents : Bytes} (stall : IoError) (s : Limited)
    (slot : Memory.Slot) (written : Bytes) (h : Covers limit contents.length) :
    (sink cap flushFails).transfer stall contents (slot, limit)
        { s with memory := s.memory.put slot written } =
      ⟨.ok (), [], (slot, limit.map (· - contents.length)),
        { s with memory := s.memory.put slot (written ++ contents) }⟩ := by
  by_cases hne : contents = []
  · subst hne
    cases limit <;> simp
  · apply Sink.transfer_of_write stall hne
    simp [sink, allowed_of_covers h, hne, Memory.append_put]

private theorem transfer_exhausted {contents : Bytes} (stall : IoError) (slot : Memory.Slot)
    (s : Limited) (hne : contents ≠ []) :
    (sink cap flushFails).transfer stall contents (slot, some 0) s =
      ⟨.error .diskFull, contents, (slot, some 0), s⟩ := by
  cases contents with
  | nil => exact absurd rfl hne
  | cons b rest =>
    rw [Sink.transfer]
    simp [sink, allowed]

private theorem transfer_of_not_covers {contents : Bytes} (stall : IoError) (s : Limited)
    (slot : Memory.Slot) (written : Bytes) (h : ¬ Covers limit contents.length) :
    (sink cap flushFails).transfer stall contents (slot, limit)
        { s with memory := s.memory.put slot written } =
      ⟨.error .diskFull, contents.drop (allowed contents.length limit), (slot, some 0),
        { s with
          memory := s.memory.put slot
            (written ++ contents.take (allowed contents.length limit)) }⟩ := by
  cases limit with
  | none => exact absurd (covers_none _) h
  | some left =>
    have hlt : left < contents.length := by simpa using h
    have hallowed : allowed contents.length (some left) = left :=
      Nat.min_eq_right (Nat.le_of_lt hlt)
    have hrest : contents.drop left ≠ [] := by simpa using hlt
    rw [hallowed]
    cases left with
    | zero =>
      rw [List.take_zero, List.append_nil]
      exact transfer_exhausted stall slot _ hrest
    | succ k =>
      cases contents with
      | nil => simp at hlt
      | cons b rest =>
        have hwrite : (sink cap flushFails).write (slot, some (k + 1)) (b :: rest)
            { s with memory := s.memory.put slot written } = (.ok (k + 1), (slot, some 0),
              { s with
                memory := s.memory.put slot (written ++ (b :: rest).take (k + 1)) }) := by
          simp only [sink, hallowed, Memory.append_put]
          simp
        rw [Sink.transfer, hwrite]
        exact transfer_exhausted stall slot _ hrest

/-- What goes wrong with contents of `n` bytes on a writer with an allowance. -/
def fault? (limit : Option Nat) (flushFails : Bool) (n : Nat) : Option IoError :=
  if ¬ Covers limit n then some .diskFull
  else if flushFails then some .flushFailed
  else none

theorem fault?_eq_none_iff :
    fault? limit flushFails n = none ↔ Covers limit n ∧ flushFails = false := by
  rw [fault?]
  split
  · simp_all
  · cases flushFails <;> simp_all

/-- A writer that was just opened delivers as much as it is allowed to. -/
theorem writeBuffered_put (cap limit : Option Nat) (flushFails : Bool) (s : Limited)
    (slot : Memory.Slot) (contents : Bytes) :
    (sink cap flushFails).writeBuffered contents (slot, limit)
        { s with memory := s.memory.put slot [] } =
      ((fault? limit flushFails contents.length).elim (.ok ()) .error,
        { s with
          memory := s.memory.put slot (contents.take (allowed contents.length limit)) }) := by
  by_cases h : Covers limit contents.length
  · rw [Sink.writeBuffered_of_ok fun stall => transfer_of_covers stall s slot [] h,
      allowed_of_covers h, List.take_length, fault?, if_neg (Decidable.not_not.mpr h)]
    cases flushFails <;> rfl
  · rw [fault?, if_pos h]
    refine Sink.writeBuffered_of_error
      (fun stall => transfer_of_not_covers stall s slot [] h) ?_
    intro stall
    by_cases hrest : contents.drop (allowed contents.length limit) = []
    · rw [hrest, Sink.transfer_nil]
    · rw [transfer_exhausted stall slot _ hrest]

/-- What is left of an allowance lasts as long as it did together with what was spent. -/
private theorem covers_map_sub_iff (h : Covers limit n) (k : Nat) :
    Covers (limit.map (· - n)) k ↔ Covers limit (n + k) := by
  cases limit with
  | none => simp
  | some left =>
    have hn : n ≤ left := (covers_some left n).mp h
    simp only [Option.map_some, covers_some]
    omega

private theorem allowed_add (h : Covers limit n) (k : Nat) :
    allowed (n + k) limit = n + allowed k (limit.map (· - n)) := by
  cases limit with
  | none => rfl
  | some left =>
    have hn : n ≤ left := (covers_some left n).mp h
    simp only [allowed, Option.map_some]
    omega

private theorem fault?_add (h : Covers limit n) (k : Nat) :
    fault? (limit.map (· - n)) flushFails k = fault? limit flushFails (n + k) := by
  simp only [fault?, covers_map_sub_iff h]

/-- An allowance that does not last cuts off whatever follows. -/
private theorem take_allowed_append {contents : Bytes} (h : ¬ Covers limit contents.length)
    (rest : Bytes) : (contents ++ rest).take (allowed (contents ++ rest).length limit) =
      contents.take (allowed contents.length limit) := by
  cases limit with
  | none => exact absurd (covers_none _) h
  | some left =>
    have hlt : left < contents.length := by simpa using h
    have hleft (n : Nat) (hn : contents.length ≤ n) : allowed n (some left) = left :=
      Nat.min_eq_right (by omega)
    rw [hleft _ (by simp), hleft _ (Nat.le_refl _), List.take_append_of_le_length (by omega)]

/-- A writer that gets its contents in chunks delivers as much of them as it is allowed to, wherever
they are cut. -/
theorem writeChunks_put (cap limit : Option Nat) (flushFails : Bool) (s : Limited)
    (slot : Memory.Slot) (written : Bytes) (chunks : List Bytes) :
    (sink cap flushFails).writeChunks chunks (slot, limit)
        { s with memory := s.memory.put slot written } =
      ((fault? limit flushFails chunks.flatten.length).elim (.ok ()) .error,
        { s with
          memory := s.memory.put slot
            (written ++ chunks.flatten.take (allowed chunks.flatten.length limit)) }) := by
  induction chunks generalizing limit written with
  | nil =>
    have hnone : Covers limit 0 := fun _ _ => Nat.zero_le _
    simp only [Sink.writeChunks, List.flatten_nil, List.take_nil, List.append_nil, List.length_nil,
      fault?, if_neg (Decidable.not_not.mpr hnone)]
    cases flushFails <;> rfl
  | cons chunk chunks ih =>
    rw [Sink.writeChunks]
    by_cases h : Covers limit chunk.length
    · rw [transfer_of_covers .stalled s slot written h]
      dsimp only
      rw [ih, fault?_add h, List.flatten_cons, List.length_append, allowed_add h,
        List.take_length_add_append, List.append_assoc]
    · have hall : ¬ Covers limit (chunk ++ chunks.flatten).length := fun hcovers =>
        h (hcovers.mono (by simp))
      rw [transfer_of_not_covers .stalled s slot written h, List.flatten_cons, fault?, if_pos hall,
        take_allowed_append h]
      rfl

end PluginWrapper.Limited
