import DigestProvider.Library.Scripted
import DigestProvider.Proofs.Library.Calls

/-! The stock library under a script that makes some of its calls fail, with a list kept of those. -/

namespace DigestProvider

namespace Script

variable {State Memory : Type}

/-- The script never settles a call as a success. -/
def OnlyFails (script : Script Memory) : Prop :=
  -- Which calls are settled is left open.
  ∀ entry memory status, (script entry memory).1 = some status → status.isOk = false

/-- The script together with a list of the entry points whose calls it has settled. -/
def noted (script : Script Memory) : Script (Memory × List EntryPoint) := fun entry kept =>
  -- The script itself sees only its own memory.
  match script entry kept.1 with
  | (some status, memory) => (some status, memory, kept.2 ++ [entry])
  | (none, memory) => (none, memory, kept.2)

/-- A guarded call is made to fail without effect, which is noted, or is left to the library. -/
theorem guard_noted {script : Script Memory} (fails : script.OnlyFails) (entry : EntryPoint)
    (state : State) (kept : Memory × List EntryPoint)
    (call : Memory × List EntryPoint → Reply State (Memory × List EntryPoint)) :
    ∃ after,
      (∃ status : LibStatus, status.isOk = false ∧
        script.noted.guard entry state kept call = ⟨status, state, after, kept.2 ++ [entry]⟩) ∨
      script.noted.guard entry state kept call = call (after, kept.2) := by
  -- The script settles the call or does not.
  rcases settled : script entry kept.1 with ⟨answer, after⟩
  cases answer with
  | some status =>
    have failure := fails entry kept.1 status (by rw [settled])
    exact ⟨after, .inl ⟨status, failure, by simp only [Script.guard, noted, settled]⟩⟩
  | none => exact ⟨after, .inr (by simp only [Script.guard, noted, settled])⟩

/-- Likewise for a call that writes into a buffer. -/
theorem guardBuffer_noted {script : Script Memory} (fails : script.OnlyFails) (entry : EntryPoint)
    (buffer : Bytes) (state : State) (kept : Memory × List EntryPoint)
    (call : Memory × List EntryPoint → Bytes × Reply State (Memory × List EntryPoint)) :
    ∃ after,
      (∃ status : LibStatus, status.isOk = false ∧
        script.noted.guardBuffer entry buffer state kept call =
          (buffer, ⟨status, state, after, kept.2 ++ [entry]⟩)) ∨
      script.noted.guardBuffer entry buffer state kept call = call (after, kept.2) := by
  -- The script settles the call or does not.
  rcases settled : script entry kept.1 with ⟨answer, after⟩
  cases answer with
  | some status =>
    have failure := fails entry kept.1 status (by rw [settled])
    exact ⟨after, .inl ⟨status, failure, by simp only [Script.guardBuffer, noted, settled]⟩⟩
  | none => exact ⟨after, .inr (by simp only [Script.guardBuffer, noted, settled])⟩

end Script

namespace StockLibrary

variable {Memory : Type} {script : Script Memory} (algorithm : Algorithm)

/-- A free call notes nothing but its own failure. -/
theorem free_noted (fails : script.OnlyFails) (tag : Tag) (state : StockState)
    (kept : Memory × List EntryPoint) :
    let reply := ((tagged _).scripted script.noted).free tag state kept
    reply.memory.2 = kept.2 ∨ reply.memory.2 = kept.2 ++ [.hashFree] := by
  -- The library itself notes nothing.
  intro reply
  obtain ⟨after, ⟨status, _, settled⟩ | passed⟩ :=
    Script.guard_noted fails .hashFree state kept ((tagged _).free tag state)
  · have noted : reply = ⟨status, state, after, kept.2 ++ [.hashFree]⟩ := settled
    exact .inr (by rw [noted])
  · have freed : reply = ⟨.ok, .empty, after, kept.2⟩ := passed
    exact .inl (by rw [freed])

/-- An init call starts the hash of its tag unless it is made to fail. -/
theorem init_noted (fails : script.OnlyFails) (state : StockState)
    {kept : Memory × List EntryPoint} (fresh : .hashInit ∉ kept.2) :
    let reply := ((tagged _).scripted script.noted).init (some algorithm) state kept
    .hashInit ∈ reply.memory.2 ∧ reply.status.isOk = false ∧ reply.state = state ∨
      .hashInit ∉ reply.memory.2 ∧ reply.status.isOk = true ∧
        reply.state = .running algorithm algorithm.startHash := by
  -- The list tells the two cases apart, since it did not hold the entry point before.
  intro reply
  obtain ⟨after, ⟨status, failure, settled⟩ | passed⟩ :=
    Script.guard_noted fails .hashInit state kept ((tagged _).init (some algorithm) state)
  · have noted : reply = ⟨status, state, after, kept.2 ++ [.hashInit]⟩ := settled
    rw [noted]
    exact .inl ⟨List.mem_append_right _ List.mem_cons_self, failure, rfl⟩
  · have started : reply = ⟨.ok, .running algorithm algorithm.startHash, after, kept.2⟩ := passed
    rw [started]
    exact .inr ⟨fresh, rfl, rfl⟩

/-- An update call under the tag of the hash in progress absorbs its bytes unless it is made to fail. -/
theorem update_noted (fails : script.OnlyFails) (data : Bytes) (hasher : algorithm.Running)
    {kept : Memory × List EntryPoint} (fresh : .hashUpdate ∉ kept.2) :
    let reply := ((tagged _).scripted script.noted).update (some algorithm) data
      (.running algorithm hasher) kept
    .hashUpdate ∈ reply.memory.2 ∧ reply.status.isOk = false ∧
        reply.state = .running algorithm hasher ∨
      .hashUpdate ∉ reply.memory.2 ∧ reply.status.isOk = true ∧
        reply.state = .running algorithm (hasher.absorb data) := by
  -- The list tells the two cases apart, since it did not hold the entry point before.
  intro reply
  obtain ⟨after, ⟨status, failure, settled⟩ | passed⟩ := Script.guard_noted fails .hashUpdate
    (.running algorithm hasher) kept
    ((tagged _).update (some algorithm) data (.running algorithm hasher))
  · have noted : reply =
        ⟨status, .running algorithm hasher, after, kept.2 ++ [.hashUpdate]⟩ := settled
    rw [noted]
    exact .inl ⟨List.mem_append_right _ List.mem_cons_self, failure, rfl⟩
  · have absorbed : reply =
        ⟨.ok, .running algorithm (hasher.absorb data), after, kept.2⟩ :=
      passed.trans (tagged_update_running algorithm data hasher _)
    rw [absorbed]
    exact .inr ⟨fresh, rfl, rfl⟩

/-- An update call with no hash in progress fails whatever the script does. -/
theorem update_noted_empty (fails : script.OnlyFails) (tag : Tag) (data : Bytes)
    (kept : Memory × List EntryPoint) :
    let reply := ((tagged _).scripted script.noted).update tag data .empty kept
    reply.status.isOk = false ∧ reply.state = .empty := by
  -- What the script lets through the library refuses.
  intro reply
  obtain ⟨after, ⟨status, failure, settled⟩ | passed⟩ :=
    Script.guard_noted fails .hashUpdate .empty kept ((tagged _).update tag data .empty)
  · have noted : reply = ⟨status, .empty, after, kept.2 ++ [.hashUpdate]⟩ := settled
    rw [noted]
    exact ⟨failure, rfl⟩
  · have refused : reply = ⟨.badArgument, .empty, after, kept.2⟩ := passed
    rw [refused]
    exact ⟨rfl, rfl⟩

/-- A final call under the tag of the hash in progress writes its digest and starts the hash anew, unless it is made
to fail. -/
theorem final_noted (fails : script.OnlyFails) {buffer : Bytes}
    (room : algorithm.digestSize ≤ buffer.length) (hasher : algorithm.Running)
    {kept : Memory × List EntryPoint} (fresh : .hashFinal ∉ kept.2) :
    let answer := ((tagged _).scripted script.noted).final (some algorithm) buffer
      (.running algorithm hasher) kept
    .hashFinal ∈ answer.2.memory.2 ∧ answer.2.status.isOk = false ∧ answer.1 = buffer ∧
        answer.2.state = .running algorithm hasher ∨
      .hashFinal ∉ answer.2.memory.2 ∧ answer.2.status.isOk = true ∧
        answer.1 = Bytes.writeFront hasher.finish buffer ∧
        answer.2.state = .running algorithm algorithm.startHash := by
  -- The list tells the two cases apart, since it did not hold the entry point before.
  intro answer
  obtain ⟨after, ⟨status, failure, settled⟩ | passed⟩ := Script.guardBuffer_noted fails .hashFinal
    buffer (.running algorithm hasher) kept
    ((tagged _).final (some algorithm) buffer (.running algorithm hasher))
  · have noted : answer =
        (buffer, ⟨status, .running algorithm hasher, after, kept.2 ++ [.hashFinal]⟩) := settled
    rw [noted]
    exact .inl ⟨List.mem_append_right _ List.mem_cons_self, failure, rfl, rfl⟩
  · have finished : answer = (Bytes.writeFront hasher.finish buffer,
        ⟨.ok, .running algorithm algorithm.startHash, after, kept.2⟩) :=
      passed.trans (tagged_final_running algorithm hasher room _)
    rw [finished]
    exact .inr ⟨fresh, rfl, rfl, rfl⟩

/-- A final call with no hash in progress fails whatever the script does, and writes nothing. -/
theorem final_noted_empty (fails : script.OnlyFails) (tag : Tag) (buffer : Bytes)
    (kept : Memory × List EntryPoint) :
    let answer := ((tagged _).scripted script.noted).final tag buffer .empty kept
    answer.2.status.isOk = false ∧ answer.1 = buffer ∧ answer.2.state = .empty := by
  -- What the script lets through the library refuses.
  intro answer
  obtain ⟨after, ⟨status, failure, settled⟩ | passed⟩ := Script.guardBuffer_noted fails .hashFinal
    buffer .empty kept ((tagged _).final tag buffer .empty)
  · have noted : answer = (buffer, ⟨status, .empty, after, kept.2 ++ [.hashFinal]⟩) := settled
    rw [noted]
    exact ⟨failure, rfl, rfl⟩
  · have refused : answer = (buffer, ⟨.badArgument, .empty, after, kept.2⟩) := passed
    rw [refused]
    exact ⟨rfl, rfl, rfl⟩

end StockLibrary

end DigestProvider
