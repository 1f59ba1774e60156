import DigestProvider.Context.Operation

/-!
What the operations of a context do on a method of any kind, by what its record holds and what it lacks: one
equation for each way through the host's own checks.
-/

namespace DigestProvider.Backend

variable {Library State Direct Memory : Type} [DecidableEq Library] [DedicatedStates Library]
  (backend : Backend Library State Direct Memory) {method : Method Library}

/-- The frame of a context whose private state was just allocated in a declared kind. -/
def fresh (kind : StateKind Library) (method : Method Library)
    (frame : Frame Library State Direct Memory) : Frame Library State Direct Memory :=
  -- Earlier state is cleaned up first.
  { (backend.cleanup method frame).2 with state := some (backend.zeroState kind) }

/-- Allocation of undeclared private state is a cleanup and no more. -/
theorem allocate_undeclared (undeclared : method.stateKind = none)
    (frame : Frame Library State Direct Memory) :
    backend.allocate method frame = (.error .missingState, (backend.cleanup method frame).2) := by
  -- The cleanup has happened by the time the declaration is missed.
  simp only [allocate, undeclared]

/-- Allocation of declared private state succeeds. -/
theorem allocate_declared {kind : StateKind Library} (declared : method.stateKind = some kind)
    (frame : Frame Library State Direct Memory) :
    backend.allocate method frame = (.ok (), backend.fresh kind method frame) := by
  -- Nothing about the new state depends on what was cleaned up.
  simp only [allocate, declared, fresh]

/-- Initialization without a hook does not get as far as the allocation. -/
theorem init_absent (absent : method.init = none) (frame : Frame Library State Direct Memory) :
    backend.init method frame = (.error (.missingOperation HookRole.init.name), frame) := by
  -- The hook is looked for first, so that earlier state survives.
  simp only [init, absent]

/-- Initialization ends where private state cannot be allocated, before the hook runs. -/
theorem init_undeclared {hook : InitHook Library} (present : method.init = some hook)
    (undeclared : method.stateKind = none) (frame : Frame Library State Direct Memory) :
    backend.init method frame = (.error .missingState, (backend.cleanup method frame).2) := by
  -- What allocation left behind is left as it is.
  simp only [init, present, backend.allocate_undeclared undeclared]

/-- The init hook runs on private state just allocated, and its status is the answer. -/
theorem init_of_hook {hook : InitHook Library} {kind : StateKind Library}
    (present : method.init = some hook) (declared : method.stateKind = some kind)
    (frame : Frame Library State Direct Memory) :
    backend.init method frame =
      let outcome := backend.runInit hook (backend.fresh kind method frame)
      (outcome.1.check HookRole.init.name, outcome.2) := by
  -- Both checks are passed, and allocation cannot fail behind them.
  simp only [init, present, backend.allocate_declared declared]

/-- An update without a hook does nothing. -/
theorem update_absent (absent : method.update = none) (data : Bytes)
    (frame : Frame Library State Direct Memory) :
    backend.update method data frame = (.error (.missingOperation HookRole.update.name), frame) := by
  -- Private state is not looked at.
  simp only [update, absent]

/-- The status of the update hook is the answer. -/
theorem update_of_hook {hook : Hook Library} (present : method.update = some hook) (data : Bytes)
    (frame : Frame Library State Direct Memory) :
    backend.update method data frame =
      let outcome := backend.runUpdate hook data frame
      (outcome.1.check HookRole.update.name, outcome.2) := by
  -- The host has no check of its own for data.
  simp only [update, present]

/-- A finalization without a hook does nothing, whatever the buffer. -/
theorem finalizeInto_absent (absent : method.final = none) (buffer : Bytes)
    (frame : Frame Library State Direct Memory) :
    backend.finalizeInto method buffer frame =
      ((.error (.missingOperation HookRole.final.name), buffer), frame) := by
  -- The buffer is not measured without a hook.
  simp only [finalizeInto, absent]

/-- A buffer without room for the declared length is sent back, and the hook does not run. -/
theorem finalizeInto_of_short {hook : Hook Library} (present : method.final = some hook)
    {buffer : Bytes} (short : buffer.length < method.resultSize)
    (frame : Frame Library State Direct Memory) :
    backend.finalizeInto method buffer frame =
      ((.error (.bufferTooSmall method.resultSize buffer.length), buffer), frame) := by
  -- The room is checked once the hook is found.
  simp only [finalizeInto, present, short, if_true]

/-- With room for the declared length the status of the final hook is the answer. -/
theorem finalizeInto_of_hook {hook : Hook Library} (present : method.final = some hook)
    {buffer : Bytes} (room : method.resultSize ≤ buffer.length)
    (frame : Frame Library State Direct Memory) :
    backend.finalizeInto method buffer frame =
      let outcome := backend.runFinal hook buffer frame
      (((outcome.2.1.check HookRole.final.name).map fun _ => method.resultSize, outcome.1),
        outcome.2.2) := by
  -- The length that is given is the record's, whatever was written.
  simp only [finalizeInto, present, Nat.not_lt.mpr room, if_false]

/-- A finalization into a buffer of its own without a hook does nothing. -/
theorem finalize_absent (absent : method.final = none)
    (frame : Frame Library State Direct Memory) :
    backend.finalize method frame = (.error (.missingOperation HookRole.final.name), frame) := by
  -- The context's own buffer is thrown away.
  simp only [finalize, backend.finalizeInto_absent absent]
  rfl

/-- The buffer of its own that a context finalizes into has just the room that it takes. -/
theorem finalize_of_hook {hook : Hook Library} (present : method.final = some hook)
    (frame : Frame Library State Direct Memory) :
    backend.finalize method frame =
      let outcome := backend.runFinal hook (List.replicate method.resultSize 0) frame
      ((outcome.2.1.check HookRole.final.name).map fun _ => outcome.1.take method.resultSize,
        outcome.2.2) := by
  -- The length that is taken off the buffer is the one that the buffer was made for.
  have room : method.resultSize ≤ (List.replicate method.resultSize (0 : UInt8)).length := by simp
  simp only [finalize, backend.finalizeInto_of_hook present room]
  cases (backend.runFinal hook (List.replicate method.resultSize 0) frame).2.1 <;> rfl

end DigestProvider.Backend
