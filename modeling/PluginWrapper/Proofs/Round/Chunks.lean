import PluginWrapper.Proofs.Bytes
import PluginWrapper.Proofs.Round.Use
import PluginWrapper.Proofs.Sink.Limited

/-! Two ways to write a source: as one text through the buffer, or directly in chunks. A writer that
takes only so many bytes keeps the same beginning of the text either way. -/
namespace PluginWrapper

def Sink.storeChunks {σ ω : Type} (sink : Sink σ ω) (opening : Opening) (chunks : List Bytes)
    (s : σ) : Except IoError Unit × σ :=
  match sink.openArtifact opening s with
  | (.error e, s) => (.error e, s)
  | (.ok w, s) => sink.writeChunks chunks w s

namespace Limited

/-- A memory whose writers take a number of bytes, and of which nothing else runs out. -/
def unspent (m : Memory) : Limited := ⟨m, none, none⟩

private theorem fault?_some (cap n : Nat) :
    fault? (some cap) false n = if cap < n then some .diskFull else none := by
  simp only [fault?, covers_some, Nat.not_le, Bool.false_eq_true, if_false]

/-- What is kept of a source whose bytes are handed over directly. -/
private theorem storeChunks_unspent (cap : Nat) (m : Memory) (name : String) (chunks : List Bytes) :
    (sink (some cap) false).storeChunks (.source name) chunks (unspent m) =
      (if cap < chunks.flatten.length then .error .diskFull else .ok (),
        unspent (m.put (.source name)
          (chunks.flatten.take (min chunks.flatten.length cap)))) := by
  have hwrite := writeChunks_put (some cap) (some cap) false (unspent m) (.source name) [] chunks
  rw [fault?_some] at hwrite
  refine hwrite.trans (Prod.ext ?_ rfl)
  split <;> rfl

private theorem writeBuffered_unspent (cap : Nat) (m : Memory) (slot : Memory.Slot)
    (contents : Bytes) :
    (sink (some cap) false).writeBuffered contents (slot, some cap) (unspent (m.put slot [])) =
      (if cap < contents.length then .error .diskFull else .ok (),
        unspent (m.put slot (contents.take (min contents.length cap)))) := by
  have hwrite := writeBuffered_put (some cap) (some cap) false (unspent m) slot contents
  rw [fault?_some] at hwrite
  refine hwrite.trans (Prod.ext ?_ rfl)
  split <;> rfl

/-- What is kept of a source that is written through the buffer. -/
private theorem emit_unspent (cap : Nat) (m : Memory) (e : Descriptor) (text : String) :
    let contents := Bytes.ofString text
    let emitted := Round.emit (sink (some cap) false) e text (unspent m)
    emitted.result = (if cap < contents.length then
        .error (.cannotWrite e.sourceName .diskFull) else .ok (Round.artifactNames e)) ∧
      emitted.state.memory.contents? (.source e.sourceName) =
        some (contents.take (min contents.length cap)) := by
  intro contents emitted
  have hsource := writeBuffered_unspent cap m (.source e.sourceName) contents
  have hopen : (sink (some cap) false).openSource (Round.artifactNames e).source (unspent m) =
    (.ok (.source e.sourceName, some cap), unspent (m.put (.source e.sourceName) [])) := rfl
  simp only [emitted, Round.emit, Round.writeArtifact, hopen]
  by_cases h : cap < contents.length
  · rw [if_pos h] at hsource ⊢
    rw [hsource]
    exact ⟨rfl, by simp [Outcome.andThen, unspent, Memory.contents?_put]⟩
  · rw [if_neg h] at hsource ⊢
    rw [hsource]
    -- The resource is empty, so that no cap is too small for it.
    have hopened (m : Memory) (name : String) : (sink (some cap) false).openResource
        Round.resourcePackage name (unspent m) =
      (.ok (Memory.resourceSlot Round.resourcePackage name, some cap),
        unspent (m.put (Memory.resourceSlot Round.resourcePackage name) [])) := rfl
    have hresource (m : Memory) (slot : Memory.Slot) :
        (sink (some cap) false).writeBuffered [] (slot, some cap) (unspent (m.put slot [])) =
          (.ok (), unspent (m.put slot [])) := writeBuffered_unspent cap m slot []
    simp only [Outcome.andThen, hopened, hresource]
    refine ⟨rfl, ?_⟩
    simp [Outcome.map, unspent, Memory.contents?_put, Memory.resourceSlot]

/-- Emitting a text keeps the same beginning of it as writing it directly, in whatever chunks: as
much as the writer takes. Both fail, and for the same reason, if that is not all of it. What is kept
can be read as a text unless it ends within a character. -/
theorem emit_agrees_with_chunks (cap : Nat) (m : Memory) (e : Descriptor) {text : String}
    {chunks : List Bytes} (h : chunks.flatten = Bytes.ofString text) :
    let place := sink (some cap) false
    let emitted := Round.emit place e text (unspent m)
    let direct := place.storeChunks (.source e.sourceName) chunks (unspent m)
    let kept := (Bytes.ofString text).take (min text.utf8ByteSize cap)
    emitted.state.memory.contents? (.source e.sourceName) = some kept ∧
    direct.2.memory.contents? (.source e.sourceName) = some kept ∧
    emitted.result = (if cap < text.utf8ByteSize then
      .error (.cannotWrite e.sourceName .diskFull) else .ok (Round.artifactNames e)) ∧
    direct.1 = (if cap < text.utf8ByteSize then .error .diskFull else .ok ()) ∧
    (emitted.state.memory.sourceText? e.sourceName = none ↔
      Bytes.IsInside text (min text.utf8ByteSize cap)) ∧
    direct.2.memory.sourceText? e.sourceName = emitted.state.memory.sourceText? e.sourceName := by
  intro place emitted direct kept
  obtain ⟨hresult, hcontents⟩ := emit_unspent cap m e text
  have hdirect : direct = _ := storeChunks_unspent cap m e.sourceName chunks
  rw [h, Bytes.length_ofString] at hdirect
  rw [Bytes.length_ofString] at hresult hcontents
  have hkept : direct.2.memory.contents? (.source e.sourceName) = some kept := by
    rw [hdirect]
    simp [unspent, Memory.contents?_put, kept]
  refine ⟨hcontents, hkept, hresult, by rw [hdirect], ?_, ?_⟩
  · rw [Memory.sourceText?, hcontents, Option.bind_some]
    exact Bytes.toString?_take_eq_none (Nat.min_le_left _ _)
  · rw [Memory.sourceText?, Memory.sourceText?, hcontents, hkept]

private def travel : Descriptor := .resolve ⟨"Travel", "org.example", .module, []⟩ .empty

/-- A writer that takes two bytes of two characters, of which the second has two itself. -/
theorem emit_agrees_with_chunks_within :
    [[0x61], [], [0xc3], [0xa9]].flatten = Bytes.ofString "aé" ∧
    (let place := sink (some 2) false
    let emitted := Round.emit place travel "aé" (unspent .empty)
    let direct := place.storeChunks (.source travel.sourceName) [[0x61], [], [0xc3], [0xa9]]
      (unspent .empty)
    emitted.state.memory.contents? (.source travel.sourceName) = some [0x61, 0xc3] ∧
    direct.2.memory.contents? (.source travel.sourceName) = some [0x61, 0xc3] ∧
    emitted.result = .error (.cannotWrite travel.sourceName .diskFull) ∧
    direct.1 = .error .diskFull ∧
    emitted.state.memory.sourceText? travel.sourceName = none) := by
  have hchunks : [[0x61], [], [0xc3], [0xa9]].flatten = Bytes.ofString "aé" := by decide +kernel
  have hinside : Bytes.IsInside "aé" 2 := ⟨"a", "", 'é', rfl, by decide, by decide⟩
  obtain ⟨hemitted, hdirect, hresult, hcause, htext, -⟩ :=
    emit_agrees_with_chunks 2 .empty travel hchunks
  rw [← hchunks] at hemitted hdirect
  exact ⟨hchunks, hemitted, hdirect, hresult, hcause, htext.mpr hinside⟩

end Limited

end PluginWrapper
