import PluginWrapper.Proofs.Sink.Opening

/-! The calls that a writer gets while an artifact is written, with what it answers to each. A
transfer ends with the first call that fails, but contents that were held back are offered once more
after that. -/
namespace PluginWrapper

/-- A call on a writer and its answer. -/
inductive Call where
  | write (bytes : Bytes) (answer : Except IoError Nat)
  | flush (answer : Except IoError Unit)

namespace Call

/-- Why a call failed, if it did. A write that takes nothing fails with `stall`. -/
def fault? (stall : IoError) : Call → Option IoError
  | .write _ (.error e) => some e
  | .write _ (.ok 0) => some stall
  | .write _ (.ok (_ + 1)) => none
  | .flush (.error e) => some e
  | .flush (.ok ()) => none

def taken : Call → Bytes
  | .write bytes (.ok n) => bytes.take n
  | .write _ (.error _) => []
  | .flush _ => []

theorem not_mem_of_fault {stall cause : IoError} {call : Call} {calls : List Call}
    (hsound : ∀ c ∈ calls, c.fault? stall = none) (hfault : call.fault? stall = some cause) :
    call ∉ calls := by
  intro hcall
  rw [hsound call hcall] at hfault
  cases hfault

end Call

namespace Sink
variable {σ ω : Type} {stall cause : IoError} {contents bytes rest : Bytes} {call : Call}
  {calls before after : List Call} {result : Except IoError Unit}

/-- The sink with a list of the calls on its writers. -/
def journaled (sink : Sink σ ω) : Sink (σ × List Call) ω where
  openSource name s :=
    let (result, state) := sink.openSource name s.1
    (result, state, s.2)
  openResource package name s :=
    let (result, state) := sink.openResource package name s.1
    (result, state, s.2)
  write w bytes s :=
    let (result, w, state) := sink.write w bytes s.1
    (result, w, state, s.2 ++ [.write bytes result])
  flush w s :=
    let (result, w, state) := sink.flush w s.1
    (result, w, state, s.2 ++ [.flush result])

theorem openArtifact_journaled (sink : Sink σ ω) (opening : Opening) (s : σ × List Call) :
    sink.journaled.openArtifact opening s =
      ((sink.openArtifact opening s.1).1, (sink.openArtifact opening s.1).2, s.2) := by
  cases opening <;> rfl

theorem projects_journaled (sink : Sink σ ω) : sink.journaled.Projects sink Prod.fst where
  openArtifact opening s := by rw [openArtifact_journaled]
  write _ _ _ := rfl
  flush _ _ := rfl

private theorem journaled_write {sink : Sink σ ω} {w w' : ω} {s s' : σ × List Call}
    {answer : Except IoError Nat} (h : sink.journaled.write w bytes s = (answer, w', s')) :
    s'.2 = s.2 ++ [.write bytes answer] := by
  cases h
  rfl

private theorem journaled_flush (sink : Sink σ ω) (w : ω) (s : σ × List Call) :
    (sink.journaled.flush w s).2.2.2 = s.2 ++ [.flush (sink.journaled.flush w s).1] := rfl

/-- The calls by which bytes are handed over, up to the first that fails, with what came of it and
the bytes that were not taken. -/
inductive Hands (stall : IoError) : Bytes → List Call → Except IoError Unit → Bytes → Prop where
  | done : Hands stall [] [] (.ok ()) []
  | failed {bytes : Bytes} (e : IoError) : bytes ≠ [] →
    Hands stall bytes [.write bytes (.error e)] (.error e) bytes
  | stalled {bytes : Bytes} : bytes ≠ [] →
    Hands stall bytes [.write bytes (.ok 0)] (.error stall) bytes
  | took {bytes rest : Bytes} {n : Nat} {calls : List Call} {result : Except IoError Unit} :
    bytes ≠ [] → Hands stall (bytes.drop (n + 1)) calls result rest →
    Hands stall bytes (.write bytes (.ok (n + 1)) :: calls) result rest

private theorem hands_transfer (sink : Sink σ ω) (stall : IoError) (bytes : Bytes) (w : ω)
    (s : σ × List Call) : ∃ calls,
      (sink.journaled.transfer stall bytes w s).state.2 = s.2 ++ calls ∧
      Hands stall bytes calls (sink.journaled.transfer stall bytes w s).result
        (sink.journaled.transfer stall bytes w s).rest := by
  fun_induction Sink.transfer sink.journaled stall bytes w s with
  | case1 w s => exact ⟨[], (List.append_nil _).symm, .done⟩
  | case2 w s b rest e w' s' hwrite =>
    exact ⟨_, journaled_write hwrite, .failed e (List.cons_ne_nil b rest)⟩
  | case3 w s b rest w' s' hwrite =>
    exact ⟨_, journaled_write hwrite, .stalled (List.cons_ne_nil b rest)⟩
  | case4 w s b rest n w' s' hwrite ih =>
    obtain ⟨calls, hcalls, hhands⟩ := ih
    exact ⟨_, by rw [hcalls, journaled_write hwrite, List.append_assoc]; rfl,
      .took (List.cons_ne_nil b rest) hhands⟩

namespace Hands

/-- What the writer took and what is left make up the bytes. -/
private theorem taken (h : Hands stall bytes calls result rest) :
    calls.flatMap Call.taken ++ rest = bytes := by
  induction h with
  | done => rfl
  | failed e hne => rfl
  | stalled hne => simp [Call.taken]
  | @took bytes rest n calls result hne h ih =>
    rw [List.flatMap_cons, List.append_assoc, ih, Call.taken, List.take_append_drop]

private theorem fault?_of_ok (h : Hands stall bytes calls (.ok ()) rest) (hcall : call ∈ calls) :
    call.fault? stall = none := by
  generalize hok : Except.ok () = result at h
  induction h with
  | done => cases hcall
  | failed e hne => cases hok
  | stalled hne => cases hok
  | took hne h ih =>
    rcases List.mem_cons.mp hcall with rfl | hcall
    · rfl
    · exact ih hcall hok

private theorem exists_fault (h : Hands stall bytes calls (.error cause) rest) :
    ∃ call ∈ calls, call.fault? stall = some cause := by
  generalize herror : Except.error cause = result at h
  induction h with
  | done => cases herror
  | failed e hne =>
    cases herror
    exact ⟨_, List.mem_cons_self, rfl⟩
  | stalled hne =>
    cases herror
    exact ⟨_, List.mem_cons_self, rfl⟩
  | took hne h ih =>
    obtain ⟨call, hcall, hfault⟩ := ih herror
    exact ⟨call, List.mem_cons_of_mem _ hcall, hfault⟩

/-- A transfer ends with a call that fails, which was offered what is left. -/
private theorem of_fault (h : Hands stall bytes (before ++ call :: after) result rest)
    (hfault : call.fault? stall = some cause) :
    after = [] ∧ result = .error cause ∧ ∃ answer, call = .write rest answer := by
  generalize hcalls : before ++ call :: after = calls at h
  induction h generalizing before with
  | done => cases before <;> cases hcalls
  | failed e hne =>
    obtain ⟨rfl, rfl, rfl⟩ : before = [] ∧ call = _ ∧ after = [] := by
      simpa [List.append_eq_singleton_iff] using hcalls
    exact ⟨rfl, congrArg _ (Option.some.inj hfault), _, rfl⟩
  | stalled hne =>
    obtain ⟨rfl, rfl, rfl⟩ : before = [] ∧ call = _ ∧ after = [] := by
      simpa [List.append_eq_singleton_iff] using hcalls
    exact ⟨rfl, congrArg _ (Option.some.inj hfault), _, rfl⟩
  | took hne h ih =>
    obtain ⟨rfl, hcall⟩ | ⟨before, rfl, hcall⟩ := List.append_eq_cons_iff.mp hcalls
    · obtain ⟨rfl, rfl⟩ := List.cons.inj hcall
      cases hfault
    · exact ih hcall.symm

private theorem of_nil (h : Hands stall [] calls result rest) :
    calls = [] ∧ result = .ok () := by
  cases h with
  | done => exact ⟨rfl, rfl⟩
  | failed e hne => exact absurd rfl hne
  | stalled hne => exact absurd rfl hne
  | took hne h => exact absurd rfl hne

end Hands

/-- What is not among all but the last is the last. -/
theorem last_of_append_eq {α : Type} {xs ys zs : List α} {x last : α}
    (h : ys ++ x :: zs = xs ++ [last]) (hx : x ∉ xs) : ys = xs ∧ x = last ∧ zs = [] := by
  rcases List.eq_nil_or_concat zs with rfl | ⟨zs, z, rfl⟩
  · obtain ⟨rfl, hlast⟩ := List.append_inj' h rfl
    exact ⟨rfl, List.singleton_inj.mp hlast, rfl⟩
  · rw [List.concat_eq_append, ← List.cons_append, ← List.append_assoc] at h
    obtain ⟨rfl, -⟩ := List.append_inj' h rfl
    exact absurd (List.mem_append_right ys List.mem_cons_self) hx

/-- How a writer fails that takes nothing: what was held back is told from what was not. -/
def stallFor (contents : Bytes) : IoError :=
  if contents.length < bufferSize then .stalledBehindBuffer else .stalled

/-- The calls by which an artifact is written. -/
inductive Writes (contents : Bytes) : List Call → Except IoError Unit → Prop where
  | flushed {calls : List Call} {rest : Bytes} (answer : Except IoError Unit) :
    Hands (stallFor contents) contents calls (.ok ()) rest →
    Writes contents (calls ++ [.flush answer]) answer
  /-- The contents were not held back. -/
  | gaveUp {calls : List Call} {rest : Bytes} {e : IoError} : bufferSize ≤ contents.length →
    Hands (stallFor contents) contents calls (.error e) rest → Writes contents calls (.error e)
  /-- Of what was held back, the rest is offered once more. -/
  | offeredAgain {calls again : List Call} {rest left : Bytes} {e : IoError}
    {result : Except IoError Unit} : contents.length < bufferSize →
    Hands (stallFor contents) contents calls (.error e) rest →
    Hands (stallFor contents) rest again result left →
    Writes contents (calls ++ again) (.error e)

theorem writes_writeBuffered (sink : Sink σ ω) (contents : Bytes) (w : ω) (s : σ × List Call) :
    ∃ calls, (sink.journaled.writeBuffered contents w s).2.2 = s.2 ++ calls ∧
      Writes contents calls (sink.journaled.writeBuffered contents w s).1 := by
  obtain ⟨calls, hcalls, hhands⟩ := hands_transfer sink (stallFor contents) contents w s
  by_cases hsize : contents.length < bufferSize
  · have hstall : stallFor contents = .stalledBehindBuffer := if_pos hsize
    simp only [writeBuffered, if_pos hsize, ← hstall]
    split
    · rename_i hresult
      rw [hresult] at hhands
      exact ⟨_, by rw [journaled_flush, hcalls, List.append_assoc], .flushed _ hhands⟩
    · rename_i e hresult
      rw [hresult] at hhands
      obtain ⟨again, hagain, hoffered⟩ := hands_transfer sink (stallFor contents)
        (sink.journaled.transfer (stallFor contents) contents w s).rest
        (sink.journaled.transfer (stallFor contents) contents w s).writer
        (sink.journaled.transfer (stallFor contents) contents w s).state
      exact ⟨_, by rw [hagain, hcalls, List.append_assoc], .offeredAgain hsize hhands hoffered⟩
  · have hstall : stallFor contents = .stalled := if_neg hsize
    simp only [writeBuffered, if_neg hsize, writeChunks, ← hstall]
    split
    · rename_i hresult
      rw [hresult] at hhands
      exact ⟨_, by rw [journaled_flush, hcalls, List.append_assoc], .flushed _ hhands⟩
    · rename_i e hresult
      rw [hresult] at hhands
      exact ⟨_, hcalls, .gaveUp (Nat.not_lt.mp hsize) hhands⟩

namespace Writes

/-- The writer takes the contents from the beginning and no byte twice. -/
theorem taken_prefix (h : Writes contents calls result) :
    calls.flatMap Call.taken <+: contents := by
  cases h with
  | @flushed calls rest answer hhands =>
    exact ⟨rest, by rw [← hhands.taken]; simp [Call.taken]⟩
  | gaveUp hsize hhands => exact ⟨_, hhands.taken⟩
  | @offeredAgain calls again rest left e result hsize hhands hoffered =>
    exact ⟨left, by rw [List.flatMap_append, List.append_assoc, hoffered.taken, hhands.taken]⟩

theorem fault?_of_ok (h : Writes contents calls (.ok ())) (hcall : call ∈ calls) :
    call.fault? (stallFor contents) = none := by
  cases h with
  | flushed _ hhands =>
    rcases List.mem_append.mp hcall with hcall | hcall
    · exact hhands.fault?_of_ok hcall
    · rw [List.mem_singleton.mp hcall, Call.fault?]

/-- Nothing follows the first call that fails, but that what was held back is offered again. -/
theorem of_fault (h : Writes contents (before ++ call :: after) result)
    (hsound : ∀ c ∈ before, c.fault? (stallFor contents) = none)
    (hfault : call.fault? (stallFor contents) = some cause) :
    result = .error cause ∧ (after = [] ∨ contents.length < bufferSize ∧
      ∃ offered answer again left, call = .write offered answer ∧
        Hands (stallFor contents) offered after again left) := by
  generalize hcalls : before ++ call :: after = all at h
  cases h with
  | @flushed calls rest answer hhands =>
    -- No call of the transfer fails.
    obtain ⟨-, rfl, rfl⟩ := last_of_append_eq hcalls
      (Call.not_mem_of_fault (fun _ => hhands.fault?_of_ok) hfault)
    cases result with
    | error e => exact ⟨congrArg _ (Option.some.inj hfault), .inl rfl⟩
    | ok _ => cases hfault
  | gaveUp hsize hhands =>
    subst hcalls
    obtain ⟨rfl, hresult, -⟩ := hhands.of_fault hfault
    exact ⟨hresult, .inl rfl⟩
  | @offeredAgain calls again rest left e result hsize hhands hoffered =>
    obtain ⟨failed, hmem, hfailed⟩ := hhands.exists_fault
    have hnot : failed ∉ before := Call.not_mem_of_fault hsound hfailed
    rcases List.append_eq_append_iff.mp hcalls with ⟨more, rfl, hmore⟩ | ⟨more, rfl, -⟩
    · cases more with
      | nil => exact absurd (by simpa using hmem) hnot
      | cons first more =>
        obtain ⟨rfl, rfl⟩ := List.cons.inj hmore
        obtain ⟨rfl, hresult, answer, rfl⟩ := hhands.of_fault hfault
        exact ⟨hresult, .inr ⟨hsize, rest, answer, result, left, rfl, hoffered⟩⟩
    · exact absurd (List.mem_append_left more hmem) hnot

/-- An empty artifact is only flushed. -/
theorem of_nil (h : Writes [] calls result) : calls = [.flush result] := by
  have hsize : ([] : Bytes).length < bufferSize := by decide
  cases h with
  | flushed _ hhands => rw [hhands.of_nil.1, List.nil_append]
  | gaveUp hsize' hhands => exact absurd hsize (Nat.not_lt.mpr hsize')
  | offeredAgain _ hhands hoffered => cases hhands.of_nil.2

end Writes

end Sink

end PluginWrapper
