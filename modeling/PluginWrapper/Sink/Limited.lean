import PluginWrapper.Sink.Memory

/-!
A sink in memory that gives out: after so many artifacts of each sort, after so many bytes of one
artifact, or at the first flush.
-/

namespace PluginWrapper

/-- What is left of each allowance; nothing stands for no limit. -/
structure Limited where
  memory : Memory
  sourcesLeft : Option Nat
  resourcesLeft : Option Nat

namespace Limited

def spend? : Option Nat → Option (Option Nat)
  | none => some none
  | some 0 => none
  | some (n + 1) => some (some n)

def allowed (n : Nat) : Option Nat → Nat
  | none => n
  | some left => min n left

/-- A writer takes `cap` bytes, then fails. An artifact that cannot be opened is left as it was. -/
def sink (cap : Option Nat) (flushFails : Bool) : Sink Limited (Memory.Slot × Option Nat) where
  openSource name s :=
    match spend? s.sourcesLeft with
    | none => (.error .filerClosed, s)
    | some left =>
      (.ok (.source name, cap),
        { s with memory := s.memory.put (.source name) [], sourcesLeft := left })
  openResource package name s :=
    match spend? s.resourcesLeft with
    | none => (.error .readOnly, s)
    | some left =>
      let slot := Memory.resourceSlot package name
      (.ok (slot, cap), { s with memory := s.memory.put slot [], resourcesLeft := left })
  write w bytes s :=
    let n := allowed bytes.length w.2
    if n = 0 ∧ bytes ≠ [] then (.error .diskFull, w, s)
    else
      (.ok n, (w.1, w.2.map (· - n)), { s with memory := s.memory.append w.1 (bytes.take n) })
  flush w s := (if flushFails then .error .flushFailed else .ok (), w, s)

end Limited

end PluginWrapper
