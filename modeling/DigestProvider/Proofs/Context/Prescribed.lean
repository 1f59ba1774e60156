import DigestProvider.Proofs.Context.Checks
import DigestProvider.Proofs.Context.Hooks
import DigestProvider.Proofs.Method.Construction

/-!
The operations of a context whose method works as a recipe prescribes: no check of the host's stands in their way
but the one for room in the buffer.
-/

namespace DigestProvider.Backend

variable {Library State Direct Memory : Type} [DecidableEq Library] [DedicatedStates Library]
  (backend : Backend Library State Direct Memory) {recipe : Recipe Library}
  {method : Method Library}

/-- Without private state there is nothing to clean up. -/
theorem cleanup_of_none (method : Method Library) {frame : Frame Library State Direct Memory}
    (free : frame.state = none) : backend.cleanup method frame = (.success, frame) := by
  -- The hook is not even looked for.
  simp [cleanup, free]

/-- Held private state is given to the cleanup hook, and is gone afterwards. -/
theorem cleanup_of_some (prescribed : recipe.Prescribes method)
    {frame : Frame Library State Direct Memory}
    {held : PrivateState Library State Direct} (holds : frame.state = some held) :
    backend.cleanup method frame =
      ((backend.runCleanup recipe.cleanup frame).1,
        (backend.runCleanup recipe.cleanup frame).2.clear) := by
  -- The method has the hook.
  simp only [cleanup, holds, prescribed.cleanup]

/-- No private state is left after a cleanup. -/
theorem state_cleanup (method : Method Library) (frame : Frame Library State Direct Memory) :
    (backend.cleanup method frame).2.state = none := by
  -- The state was absent, or it is cleared with or without a hook.
  unfold cleanup
  split
  · assumption
  · rfl
  · rfl

/-- The frame of a context whose private state was just allocated. -/
def allocated (recipe : Recipe Library) (method : Method Library)
    (frame : Frame Library State Direct Memory) : Frame Library State Direct Memory :=
  -- Earlier state is cleaned up first.
  { (backend.cleanup method frame).2 with state := some (backend.zeroState recipe.stateKind) }

/-- Allocated private state is as its kind is before any hook has run on it. -/
theorem state_allocated (recipe : Recipe Library) (method : Method Library)
    (frame : Frame Library State Direct Memory) :
    (backend.allocated recipe method frame).state = some (backend.zeroState recipe.stateKind) :=
  -- Whatever the cleanup did, its state is replaced.
  rfl

/-- Allocation succeeds. -/
theorem allocate_eq (prescribed : recipe.Prescribes method)
    (frame : Frame Library State Direct Memory) :
    backend.allocate method frame = (.ok (), backend.allocated recipe method frame) :=
  -- The method declares its private state.
  backend.allocate_declared prescribed.stateKind frame

/-- The init hook runs on private state just allocated, and its status is the answer. -/
theorem init_eq (prescribed : recipe.Prescribes method)
    (frame : Frame Library State Direct Memory) :
    backend.init method frame =
      let outcome := backend.runInit recipe.init (backend.allocated recipe method frame)
      (outcome.1.check HookRole.init.name, outcome.2) :=
  -- The method has the hook, and declares its private state.
  backend.init_of_hook prescribed.init prescribed.stateKind frame

/-- The status of the update hook is the answer. -/
theorem update_eq (prescribed : recipe.Prescribes method) (data : Bytes)
    (frame : Frame Library State Direct Memory) :
    backend.update method data frame =
      let outcome := backend.runUpdate recipe.update data frame
      (outcome.1.check HookRole.update.name, outcome.2) :=
  -- The method has the hook.
  backend.update_of_hook prescribed.update data frame

/-- A buffer without room for the digest is sent back, and nothing runs. -/
theorem finalizeInto_short (prescribed : recipe.Prescribes method) {buffer : Bytes}
    (short : buffer.length < recipe.resultSize) (frame : Frame Library State Direct Memory) :
    backend.finalizeInto method buffer frame =
      ((.error (.bufferTooSmall recipe.resultSize buffer.length), buffer), frame) := by
  -- The length asked for is the one that the record declares.
  rw [← prescribed.resultSize] at short ⊢
  exact backend.finalizeInto_of_short prescribed.final short frame

/-- With room for the digest the status of the final hook is the answer. -/
theorem finalizeInto_eq (prescribed : recipe.Prescribes method) {buffer : Bytes}
    (room : recipe.resultSize ≤ buffer.length) (frame : Frame Library State Direct Memory) :
    backend.finalizeInto method buffer frame =
      let outcome := backend.runFinal recipe.final buffer frame
      (((outcome.2.1.check HookRole.final.name).map fun _ => recipe.resultSize, outcome.1),
        outcome.2.2) := by
  -- The host itself has no further objection.
  rw [← prescribed.resultSize] at room ⊢
  exact backend.finalizeInto_of_hook prescribed.final room frame

/-- The buffer of its own that a context finalizes into has just the room that it takes. -/
theorem finalize_eq (prescribed : recipe.Prescribes method)
    (frame : Frame Library State Direct Memory) :
    backend.finalize method frame =
      let outcome := backend.runFinal recipe.final (List.replicate recipe.resultSize 0) frame
      ((outcome.2.1.check HookRole.final.name).map fun _ => outcome.1.take recipe.resultSize,
        outcome.2.2) := by
  -- The length that is taken off the buffer is the one that the record declares.
  rw [← prescribed.resultSize]
  exact backend.finalize_of_hook prescribed.final frame

section Runs

variable {backend : Backend Library State Direct Memory}
  {frame after : Frame Library State Direct Memory} {status : HostStatus}

/-- An allocation among the operations. -/
theorem run_allocate (prescribed : recipe.Prescribes method)
    (frame : Frame Library State Direct Memory) :
    backend.run method .allocate frame = (.done (.ok ()), backend.allocated recipe method frame) := by
  -- The answer is that of the operation.
  rw [run, allocate_eq backend prescribed]
  rfl

/-- An initialization among the operations, by what its hook does. -/
theorem run_init (prescribed : recipe.Prescribes method)
    (hook : backend.runInit recipe.init (backend.allocated recipe method frame) = (status, after)) :
    backend.run method .init frame = (.done (status.check HookRole.init.name), after) := by
  -- The hook starts from the state just allocated.
  rw [run, init_eq backend prescribed, hook]
  rfl

/-- An update among the operations, by what its hook does. -/
theorem run_update (prescribed : recipe.Prescribes method) {data : Bytes}
    (hook : backend.runUpdate recipe.update data frame = (status, after)) :
    backend.run method (.update data) frame =
      (.done (status.check HookRole.update.name), after) := by
  -- The operation adds a name to what the hook reports.
  rw [run, update_eq backend prescribed, hook]
  rfl

/-- A finalization without room for the digest among the operations. -/
theorem run_finalizeInto_short (prescribed : recipe.Prescribes method) {buffer : Bytes}
    (short : buffer.length < recipe.resultSize) (frame : Frame Library State Direct Memory) :
    backend.run method (.finalizeInto buffer) frame =
      (.written (.error (.bufferTooSmall recipe.resultSize buffer.length)) buffer, frame) := by
  -- The answer carries the buffer as it came.
  rw [run, finalizeInto_short backend prescribed short]
  rfl

/-- A finalization with room for the digest among the operations, by what its hook does. -/
theorem run_finalizeInto (prescribed : recipe.Prescribes method) {buffer written : Bytes}
    (room : recipe.resultSize ≤ buffer.length)
    (hook : backend.runFinal recipe.final buffer frame = (written, status, after)) :
    backend.run method (.finalizeInto buffer) frame =
      (.written ((status.check HookRole.final.name).map fun _ => recipe.resultSize) written,
        after) := by
  -- The answer carries the buffer as the hook left it.
  rw [run, finalizeInto_eq backend prescribed room, hook]
  rfl

/-- A finalization into a buffer of its own among the operations, by what its hook does. -/
theorem run_finalize (prescribed : recipe.Prescribes method) {written : Bytes}
    (hook : backend.runFinal recipe.final (List.replicate recipe.resultSize 0) frame =
      (written, status, after)) :
    backend.run method .finalize frame =
      (.digest ((status.check HookRole.final.name).map fun _ => written.take recipe.resultSize),
        after) := by
  -- The buffer was made for this call and is given out cut to length.
  rw [run, finalize_eq backend prescribed, hook]
  rfl

end Runs

end DigestProvider.Backend
