import DigestProvider.Library.Stock
import DigestProvider.Proofs.Hash.DigestLength

/-! What the stock library's calls do to a state in which a hash is in progress. -/

namespace DigestProvider

/-- What is written over the front of a buffer stands at its front. -/
@[simp] theorem Bytes.take_writeFront (written buffer : Bytes) :
    (Bytes.writeFront written buffer).take written.length = written :=
  -- The rest of the buffer stands behind what was written.
  List.take_left' rfl

/-- The digest can be taken off a buffer that a hash was finished into. -/
theorem Hasher.Stands.take_writeFront {algorithm : Algorithm} {hasher : algorithm.Running}
    {message : Bytes} (stands : hasher.Stands message) (buffer : Bytes) :
    (Bytes.writeFront hasher.finish buffer).take algorithm.digestSize =
      algorithm.digest message := by
  -- Just as many bytes are taken off as were put in front.
  have length : hasher.finish.length = algorithm.digestSize := algorithm.length_output _
  rw [← length, Bytes.take_writeFront, stands.finish]
  rfl

namespace StockLibrary

variable {Memory : Type} (algorithm : Algorithm)

/-- A tagged update call under the tag of the hash in progress absorbs its bytes. -/
theorem tagged_update_running (data : Bytes) (hasher : algorithm.Running) (memory : Memory) :
    (tagged Memory).update (some algorithm) data (.running algorithm hasher) memory =
      ⟨.ok, .running algorithm (hasher.absorb data), memory⟩ := by
  -- The tag given is the one in progress.
  simp only [tagged, update, if_true]

/-- A hash is finished into a buffer with room for its digest, and starts anew. -/
theorem finishInto_of_room (hasher : algorithm.Running) {buffer : Bytes}
    (room : algorithm.digestSize ≤ buffer.length) :
    algorithm.finishInto hasher buffer =
      (.ok, Bytes.writeFront hasher.finish buffer, algorithm.startHash) := by
  -- The library's own check for room passes.
  rw [Algorithm.finishInto, if_neg (Nat.not_lt.mpr room)]

/-- A hash is not finished into a buffer without room for its digest, and goes on from where it was. -/
theorem finishInto_of_short (hasher : algorithm.Running) {buffer : Bytes}
    (short : buffer.length < algorithm.digestSize) :
    algorithm.finishInto hasher buffer = (.bufferTooShort, buffer, hasher) := by
  -- The library's own check for room fails.
  rw [Algorithm.finishInto, if_pos short]

/-- A tagged final call under the tag of the hash in progress writes its digest, and starts the hash anew. -/
theorem tagged_final_running (hasher : algorithm.Running) {buffer : Bytes}
    (room : algorithm.digestSize ≤ buffer.length) (memory : Memory) :
    (tagged Memory).final (some algorithm) buffer (.running algorithm hasher) memory =
      (Bytes.writeFront hasher.finish buffer,
        ⟨.ok, .running algorithm algorithm.startHash, memory⟩) := by
  -- The tag given is the one in progress.
  simp only [tagged, final, if_true, finishInto_of_room algorithm hasher room]

/-- A tagged final call without room for the digest leaves the hash in progress where it was. -/
theorem tagged_final_short (hasher : algorithm.Running) {buffer : Bytes}
    (short : buffer.length < algorithm.digestSize) (memory : Memory) :
    (tagged Memory).final (some algorithm) buffer (.running algorithm hasher) memory =
      (buffer, ⟨.bufferTooShort, .running algorithm hasher, memory⟩) := by
  -- The tag given is the one in progress.
  simp only [tagged, final, if_true, finishInto_of_short algorithm hasher short]

/-- A dedicated final call writes the digest of the hash in progress, and starts the hash anew. -/
theorem direct_final_running (hasher : Algorithm.sha256.Running) {buffer : Bytes}
    (room : Algorithm.sha256.digestSize ≤ buffer.length) (memory : Memory) :
    (direct Memory).final buffer (some hasher) memory =
      (Bytes.writeFront hasher.finish buffer,
        ⟨.ok, some Algorithm.sha256.startHash, memory⟩) := by
  -- The dedicated call has no tag to check, and goes straight to the check for room.
  simp only [direct, finishInto_of_room Algorithm.sha256 hasher room]

/-- A dedicated final call without room for the digest leaves the hash in progress where it was. -/
theorem direct_final_short (hasher : Algorithm.sha256.Running) {buffer : Bytes}
    (short : buffer.length < Algorithm.sha256.digestSize) (memory : Memory) :
    (direct Memory).final buffer (some hasher) memory =
      (buffer, ⟨.bufferTooShort, some hasher, memory⟩) := by
  -- Nothing but the room is checked, and it is what is missing.
  simp only [direct, finishInto_of_short Algorithm.sha256 hasher short]

end StockLibrary

end DigestProvider
