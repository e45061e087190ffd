import PluginWrapper.Proofs.Outcome
import PluginWrapper.Proofs.Round.Use
import PluginWrapper.Proofs.Sink.Calls
import PluginWrapper.Proofs.Sink.Transfer

/-! What an emission does after a call on a writer has failed. It reports that failure and goes no
further, but a failed write of contents that were held back is followed by one more attempt at the
bytes that it left. -/
namespace PluginWrapper.Round
open Sink
variable {σ ω : Type}

/-- An artifact that could not be opened gets no calls. -/
private theorem writes_writeArtifact (sink : Sink σ ω) (artifact : String) (opening : Opening)
    (contents : Bytes) (written : Event) (s : σ × List Call) :
    let o := writeArtifact sink.journaled artifact (sink.journaled.openArtifact opening s) contents
      written
    (∃ e, o.result = .error (.cannotOpen artifact e) ∧ o.state.2 = s.2) ∨
    ∃ calls result, o.state.2 = s.2 ++ calls ∧ Writes contents calls result ∧
      o.result = result.mapError (.cannotWrite artifact) := by
  intro o
  simp only [o, openArtifact_journaled]
  cases (sink.openArtifact opening s.1).1 with
  | error e => exact .inl ⟨e, rfl, rfl⟩
  | ok w =>
    obtain ⟨calls, hcalls, hwrites⟩ :=
      writes_writeBuffered sink contents w ((sink.openArtifact opening s.1).2, s.2)
    rw [writeArtifact]
    generalize writeBuffered sink.journaled contents w _ = wrote at hcalls hwrites
    obtain ⟨result, s'⟩ := wrote
    cases result <;> exact .inr ⟨calls, _, hcalls, hwrites, rfl⟩

/-- The calls of an emission: those of the source, and the flush of the resource if it comes to
that. -/
theorem emit_calls (sink : Sink σ ω) (e : Descriptor) (text : String) (s : σ) :
    let o := emit sink.journaled e text (s, [])
    o.state.2 = [] ∨
    (∃ cause, Writes (Bytes.ofString text) o.state.2 (.error cause) ∧
      o.result = .error (.cannotWrite (artifactNames e).source cause)) ∨
    ∃ calls, Writes (Bytes.ofString text) calls (.ok ()) ∧ (o.state.2 = calls ∨
      ∃ answer, o.state.2 = calls ++ [.flush answer] ∧
        o.result = (answer.mapError (.cannotWrite (artifactNames e).resource)).map
          fun _ => artifactNames e) := by
  intro o
  let next : Unit → σ × List Call → Outcome (σ × List Call) ArtifactNames := fun _ s =>
    (writeArtifact sink.journaled (artifactNames e).resource (sink.journaled.openArtifact
        (.resource resourcePackage (languageResource e.names.pluginId)) s) []
      (.wroteResource (artifactNames e).resource)).map fun _ => artifactNames e
  obtain ⟨cause, hresult, hstate⟩ | ⟨calls, result, hstate, hwrites, hresult⟩ :=
    writes_writeArtifact sink (artifactNames e).source (.source e.sourceName)
      (Bytes.ofString text)
      (.wroteSource (artifactNames e).source (Bytes.ofString text).length) (s, [])
  · exact .inl ((Outcome.andThen_of_error next hresult).2 ▸ hstate)
  rw [List.nil_append] at hstate
  cases result with
  | error cause =>
    obtain ⟨hgiven, hleft⟩ := Outcome.andThen_of_error next hresult
    exact .inr (.inl ⟨cause, by rwa [← hstate, ← hleft] at hwrites, hgiven⟩)
  | ok done =>
    obtain ⟨hgiven, hleft⟩ := Outcome.andThen_of_ok next hresult
    refine .inr (.inr ⟨calls, hwrites, ?_⟩)
    change o.result = _ at hgiven
    change o.state = _ at hleft
    rw [hgiven, hleft]
    obtain ⟨cause, -, hstate'⟩ | ⟨more, answer, hstate', hwrites', hresult'⟩ :=
      writes_writeArtifact sink (artifactNames e).resource
        (.resource resourcePackage (languageResource e.names.pluginId)) []
        (.wroteResource (artifactNames e).resource) (writeArtifact sink.journaled
          (artifactNames e).source (sink.journaled.openArtifact (.source e.sourceName) (s, []))
          (Bytes.ofString text)
          (.wroteSource (artifactNames e).source (Bytes.ofString text).length)).state
    · exact .inl (hstate'.trans hstate)
    · rw [hwrites'.of_nil, hstate] at hstate'
      exact .inr ⟨answer, hstate', congrArg (Except.map _) hresult'⟩

/-- After the first call that fails an emission ends with that failure. Nothing more is asked of the
writer, unless the call was a write of contents that were held back: then the writer is offered the
same bytes once more. Whatever it takes, it takes from the beginning and no byte twice. -/
theorem emit_after_fault (sink : Sink σ ω) (e : Descriptor) (text : String) (s : σ)
    {before after : List Call} {call : Call} {cause : IoError}
    (hcalls : (emit sink.journaled e text (s, [])).state.2 = before ++ call :: after)
    (hsound : ∀ c ∈ before, c.fault? (stallFor (Bytes.ofString text)) = none)
    (hfault : call.fault? (stallFor (Bytes.ofString text)) = some cause) :
    (∃ artifact ∈ [(artifactNames e).source, (artifactNames e).resource],
      (emit sink e text s).result = .error (.cannotWrite artifact cause)) ∧
    (before ++ call :: after).flatMap Call.taken <+: Bytes.ofString text ∧
    (after = [] ∨ (Bytes.ofString text).length < bufferSize ∧
      ∃ offered answer again left, call = .write offered answer ∧
        Hands (stallFor (Bytes.ofString text)) offered after again left) := by
  have hresult : (emit sink e text s).result = (emit sink.journaled e text (s, [])).result :=
    (projects_journaled sink).emit e text (s, [])
  rw [hresult, ← hcalls]
  obtain hnone | ⟨cause', hwrites, hgiven⟩ | ⟨calls, hwrites, hstate⟩ := emit_calls sink e text s
  · simp [hnone] at hcalls
  · refine ⟨⟨_, List.mem_cons_self, ?_⟩, hwrites.taken_prefix, ?_⟩
    · rw [hcalls] at hwrites
      rw [hgiven, Except.error.inj (hwrites.of_fault hsound hfault).1]
    · rw [hcalls] at hwrites
      exact (hwrites.of_fault hsound hfault).2
  · -- The source arrived, so that the call is the flush of the resource.
    have hnot : call ∉ calls := Call.not_mem_of_fault (fun _ => hwrites.fault?_of_ok) hfault
    obtain hstate | ⟨answer, hstate, hgiven⟩ := hstate
    · exact absurd (hstate ▸ hcalls ▸ List.mem_append_right before List.mem_cons_self) hnot
    · obtain ⟨-, rfl, rfl⟩ := last_of_append_eq (hcalls.symm.trans hstate) hnot
      rw [hstate, hgiven]
      cases answer with
      | error e =>
        obtain rfl := Option.some.inj hfault
        exact ⟨⟨_, List.mem_cons_of_mem _ List.mem_cons_self, rfl⟩,
          by simpa [Call.taken] using hwrites.taken_prefix, .inl rfl⟩
      | ok _ => cases hfault

/-- A place that keeps what is written to it, except that the first write fails. -/
private def balky : Sink (Bool × Bytes) Unit where
  openSource _ s := (.ok (), s)
  openResource _ _ s := (.ok (), s)
  write _ bytes s :=
    if s.1 then (.ok bytes.length, (), true, s.2 ++ bytes) else (.error .diskFull, (), true, s.2)
  flush _ s := (.ok (), (), s)

private def journey : Descriptor := .resolve ⟨"Travel", "org.example", .module, []⟩ .empty

private def refusal (bytes : Bytes) : Call := .write bytes (.error .diskFull)

private def acceptance (bytes : Bytes) : Call := .write bytes (.ok bytes.length)

private theorem writeBuffered_balky {bytes : Bytes} (hne : bytes ≠ [])
    (hsize : bytes.length < bufferSize) :
    balky.journaled.writeBuffered bytes () ((false, []), []) =
      (.error .diskFull, (true, bytes), [refusal bytes, acceptance bytes]) := by
  have hfirst : balky.journaled.transfer .stalledBehindBuffer bytes () ((false, []), []) =
      ⟨.error .diskFull, bytes, (), (true, []), [refusal bytes]⟩ := by
    obtain ⟨b, rest, rfl⟩ := List.exists_cons_of_ne_nil hne
    rw [transfer]
    rfl
  have hagain : balky.journaled.transfer .stalledBehindBuffer bytes ()
      ((true, []), [refusal bytes]) =
        ⟨.ok (), [], (), (true, bytes), [refusal bytes, acceptance bytes]⟩ :=
    transfer_of_write .stalledBehindBuffer hne rfl
  simp only [writeBuffered, if_pos hsize, hfirst, hagain]

private theorem emit_balky {text : String} {bytes : Bytes} (htext : Bytes.ofString text = bytes)
    (hne : bytes ≠ []) (hsize : bytes.length < bufferSize) :
    emit balky.journaled journey text ((false, []), []) =
      ⟨.error (.cannotWrite (artifactNames journey).source .diskFull), [],
        (true, bytes), [refusal bytes, acceptance bytes]⟩ := by
  have hwrite (written : Event) : writeArtifact balky.journaled (artifactNames journey).source
      (balky.journaled.openSource (artifactNames journey).source ((false, []), [])) bytes written =
        ⟨.error (.cannotWrite (artifactNames journey).source .diskFull), [],
          (true, bytes), [refusal bytes, acceptance bytes]⟩ := by
    change writeArtifact _ _ (.ok (), (false, []), []) _ _ = _
    rw [writeArtifact, writeBuffered_balky hne hsize]
  simp only [emit, htext, hwrite, Outcome.andThen]

private def ab : Bytes := [0x61, 0x62]

private theorem emit_balky_ab : emit balky.journaled journey "ab" ((false, []), []) =
    ⟨.error (.cannotWrite (artifactNames journey).source .diskFull), [],
      (true, ab), [refusal ab, acceptance ab]⟩ :=
  emit_balky (by decide) (by decide) (by decide)

theorem emit_after_fault_balky :
    (emit balky.journaled journey "ab" ((false, []), [])).state.2 = [refusal ab, acceptance ab] ∧
    (refusal ab).fault? (stallFor (Bytes.ofString "ab")) = some .diskFull ∧
    (∃ artifact ∈ [(artifactNames journey).source, (artifactNames journey).resource],
      (emit balky journey "ab" (false, [])).result = .error (.cannotWrite artifact .diskFull)) ∧
    ∃ offered answer again left, refusal ab = .write offered answer ∧
      Hands (stallFor (Bytes.ofString "ab")) offered [acceptance ab] again left := by
  have hcalls : (emit balky.journaled journey "ab" ((false, []), [])).state.2 =
    [] ++ refusal ab :: [acceptance ab] := congrArg (fun o => o.state.2) emit_balky_ab
  obtain ⟨hresult, -, hafter⟩ := emit_after_fault balky journey "ab" (false, []) hcalls
    (fun _ hc => absurd hc List.not_mem_nil) rfl
  exact ⟨hcalls, rfl, hresult, (hafter.resolve_left (List.cons_ne_nil _ _)).2⟩

/-- The first write fails and with it the emission, but the writer is offered the bytes again and
takes them: what was given up is there in full, though nothing of it had been taken before. -/
theorem emit_offers_again :
    let o := emit balky.journaled journey "ab" ((false, []), [])
    o.result = .error (.cannotWrite (artifactNames journey).source .diskFull) ∧
    o.state.2 = [.write ab (.error .diskFull), .write ab (.ok 2)] ∧
    (Call.write ab (.error .diskFull)).taken = [] ∧ o.state.1.2 = ab := by
  intro o
  rw [show o = _ from emit_balky_ab]
  exact ⟨rfl, rfl, rfl, rfl⟩

end PluginWrapper.Round
