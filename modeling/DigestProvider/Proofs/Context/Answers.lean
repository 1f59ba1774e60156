import DigestProvider.Proofs.Context.FreeOnce
import DigestProvider.Proofs.Context.Kinds
import DigestProvider.Proofs.Context.Lifecycle

/-!
What the operations of a context may answer on any record, complete or not. Main statements: each fails with one of its
own errors, gives out what has the lengths that its caller relies on, and logs no bytes but those that it wrote.
-/

namespace DigestProvider

namespace OperationAnswer

/-- The error in an answer, if it is one. -/
def error? : OperationAnswer → Option DigestError
  | done (.error cause) | written (.error cause) _ | digest (.error cause) => some cause
  | _ => none

variable {cause : DigestError}

/-- An outcome without a value is an error if its result is. -/
theorem error?_done {result : Except DigestError Unit} :
    (done result).error? = some cause ↔ result = .error cause := by
  -- The answer is nothing but the result.
  cases result <;> simp [error?]

/-- So is a length. -/
theorem error?_written {result : Except DigestError Nat} {buffer : Bytes} :
    (written result buffer).error? = some cause ↔ result = .error cause := by
  -- The buffer beside it has no say.
  cases result <;> simp [error?]

/-- So is a digest. -/
theorem error?_digest {result : Except DigestError Bytes} :
    (digest result).error? = some cause ↔ result = .error cause := by
  -- A result that holds a digest holds no error.
  cases result <;> simp [error?]

end OperationAnswer

/-- The one error that a hook's status can mean bears the name of the operation. -/
theorem HostStatus.eq_of_check_eq_error {status : HostStatus} {operation : String}
    {cause : DigestError} (failed : status.check operation = .error cause) :
    cause = .operationFailed operation := by
  -- A status has one way to fail, and it carries no cause of its own.
  cases status with
  | failure => exact (Except.error.inj failed).symm
  | success => cases failed

/-- It is the same error whatever success would give. -/
theorem HostStatus.eq_of_map_check_eq_error {Value : Type} {status : HostStatus}
    {operation : String} {value : Value} {cause : DigestError}
    (failed : (status.check operation).map (fun _ => value) = .error cause) :
    cause = .operationFailed operation := by
  -- The value is never reached.
  cases status with
  | failure => exact (Except.error.inj failed).symm
  | success => cases failed

namespace Operation

/-- The errors that an operation may answer with, on a method that declares this digest length. -/
def errors (resultSize : Nat) : Operation → List DigestError
  | allocate => [.missingState]
  | init => [.missingOperation "init", .missingState, .operationFailed "init"]
  | update _ => [.missingOperation "update", .operationFailed "update"]
  | finalizeInto buffer =>
    [.missingOperation "final", .bufferTooSmall resultSize buffer.length, .operationFailed "final"]
  -- The buffer that a context makes for itself has room.
  | finalize => [.missingOperation "final", .operationFailed "final"]
  | cleanup => []

/-- An answer is of the operation's own form, and what it gives out has the lengths that the caller relies on. -/
def Fits (resultSize : Nat) : Operation → OperationAnswer → Prop
  | allocate, .done _ | init, .done _ | update _, .done _ | cleanup, .released _ => True
  | finalizeInto buffer, .written result written =>
    written.length = buffer.length ∧
      ∀ length, result = .ok length → length = resultSize ∧ length ≤ buffer.length
  | finalize, .digest result => ∀ digest, result = .ok digest → digest.length = resultSize
  | _, _ => False

end Operation

namespace Backend

section Lengths

variable {Library State Direct Memory : Type}

/-- Libraries write within the buffers that they are given. -/
structure KeepsLengths (backend : Backend Library State Direct Memory) : Prop where
  /-- A tagged final call leaves the length of the buffer. -/
  tagged : ∀ library tag buffer state memory,
    ((backend.tagged library).final tag buffer state memory).1.length = buffer.length
  /-- So does a dedicated one. -/
  direct : ∀ library buffer state memory,
    ((backend.direct library).final buffer state memory).1.length = buffer.length

/-- A record of the calls does not matter to the buffers. -/
theorem KeepsLengths.recorded {backend : Backend Library State Direct Memory}
    (keeps : backend.KeepsLengths) : backend.recorded.KeepsLengths where
  -- The record is entered beside the call, which gets the same buffer.
  tagged library tag buffer state kept := keeps.tagged library tag buffer state kept.memory
  direct library buffer state kept := keeps.direct library buffer state kept.memory

end Lengths

end Backend

namespace StockLibrary

/-- A hash is finished within the buffer, if it has room. -/
theorem length_finishInto (algorithm : Algorithm) (hasher : algorithm.Running) (buffer : Bytes) :
    (algorithm.finishInto hasher buffer).2.1.length = buffer.length := by
  unfold Algorithm.finishInto
  split
  case isTrue => rfl
  case isFalse room =>
    -- The digest goes over the front of a buffer that is long enough for it.
    refine Bytes.length_writeFront _ _ ?_
    have length : hasher.finish.length = algorithm.digestSize := algorithm.length_output _
    omega

/-- The tagged final call of the stock library leaves the length of the buffer. -/
theorem length_tagged_final (tag : Tag) (buffer : Bytes) (state : StockState) :
    (final tag buffer state).2.1.length = buffer.length := by
  -- Only a hash in progress under the tag writes at all.
  unfold final
  split
  case h_1 => rfl
  case h_2 algorithm hasher =>
    split
    case isTrue => exact length_finishInto algorithm hasher buffer
    case isFalse => rfl

/-- A call that a script settles leaves the buffer, and any other leaves its length if the library does. -/
theorem length_guardBuffer {State Memory : Type} (script : Script Memory) (entry : EntryPoint)
    {buffer : Bytes} {state : State} (memory : Memory)
    {call : Memory → Bytes × Reply State Memory}
    (keeps : ∀ memory, (call memory).1.length = buffer.length) :
    (script.guardBuffer entry buffer state memory call).1.length = buffer.length := by
  -- The script may change its own memory before it lets the call through.
  unfold Script.guardBuffer
  split
  case h_1 => rfl
  case h_2 => exact keeps _

end StockLibrary

namespace Backend

/-- The stock library writes within the buffers that it is given, under any script. -/
theorem scripted_keepsLengths (Library : Type) {Memory : Type} (script : Script Memory)
    (callsFree : Bool) : (scripted Library script callsFree).KeepsLengths where
  tagged _ tag buffer state memory :=
    StockLibrary.length_guardBuffer script .hashFinal memory fun _ =>
      StockLibrary.length_tagged_final tag buffer state
  direct _ buffer state memory := by
    -- Without a hash in progress the library writes nothing.
    refine StockLibrary.length_guardBuffer script .sha256Final memory fun _ => ?_
    cases state with
    | none => rfl
    | some hasher => exact StockLibrary.length_finishInto .sha256 hasher buffer

variable {Library State Direct Memory : Type} [DecidableEq Library] [DedicatedStates Library]
  {backend : Backend Library State Direct Memory} {method : Method Library}
  {frame : Frame Library State Direct Memory}

/-- Final hooks of every kind leave the length of the buffer. -/
theorem KeepsLengths.runFinal (keeps : backend.KeepsLengths) (hook : Hook Library)
    (buffer : Bytes) : (backend.runFinal hook buffer frame).1.length = buffer.length := by
  -- The buffer is the library's to write to, or nobody's.
  cases hook with
  | tagged library =>
    rcases frame.holds_tagged_or_absent library with ⟨tag, state, held⟩ | absent
    · rw [backend.runFinal_tagged buffer held]
      exact keeps.tagged library tag buffer state frame.memory
    · rw [backend.runFinal_tagged_absent buffer absent]
  | direct library =>
    rcases frame.holds_direct_or_absent (typeOf library) with ⟨state, held⟩ | absent
    · rw [backend.runFinal_direct buffer held]
      exact keeps.direct library buffer state frame.memory
    · rw [backend.runFinal_direct_absent buffer absent]
  | fixed status => rfl

/-- The digest in the log is the front of what was written. -/
theorem prefix_of_mem_digestLog {label named : String} {size : Option Nat} {written shown : Bytes}
    {status : LibStatus} (member : .buffer named shown ∈ digestLog label size written status) :
    shown <+: written := by
  -- What is shown is cut to a length, where it is shown at all.
  unfold digestLog at member
  split at member
  case isTrue =>
    obtain ⟨_, rfl⟩ := LogRecord.buffer.inj (List.mem_singleton.mp member)
    exact List.take_prefix _ _
  case isFalse => cases member

/-- What is logged about a failed call shows no buffer. -/
theorem buffer_not_mem_failureLog (named call : String) (shown : Bytes) (status : LibStatus) :
    .buffer named shown ∉ status.failureLog call := by
  -- It names the call and the status.
  unfold LibStatus.failureLog
  split <;> simp

/-- Final hooks of every kind log no bytes but those at the front of the buffer. -/
theorem runFinal_shows (hook : Hook Library) (buffer : Bytes) :
    ∃ told, (backend.runFinal hook buffer frame).2.2.log = frame.log ++ told ∧
      ∀ named shown, .buffer named shown ∈ told →
        shown <+: (backend.runFinal hook buffer frame).1 := by
  -- The digest that a call wrote is the one thing that has bytes logged.
  cases hook with
  | tagged library =>
    rcases frame.holds_tagged_or_absent library with ⟨tag, state, held⟩ | absent
    · rw [backend.runFinal_tagged buffer held]
      simp only [List.append_assoc]
      refine ⟨_, rfl, fun named shown member => ?_⟩
      simp only [List.mem_append, List.mem_singleton, reduceCtorEq, buffer_not_mem_failureLog,
        false_or, or_false] at member
      exact prefix_of_mem_digestLog member
    · rw [backend.runFinal_tagged_absent buffer absent]
      simp only [List.append_assoc]
      exact ⟨_, rfl, by simp⟩
  | direct library =>
    rcases frame.holds_direct_or_absent (typeOf library) with ⟨state, held⟩ | absent
    · rw [backend.runFinal_direct buffer held]
      simp only [List.append_assoc]
      refine ⟨_, rfl, fun named shown member => ?_⟩
      simp only [List.mem_append, List.mem_singleton, reduceCtorEq, buffer_not_mem_failureLog,
        false_or, or_false] at member
      exact prefix_of_mem_digestLog member
    · rw [backend.runFinal_direct_absent buffer absent]
      simp only [List.append_assoc]
      exact ⟨_, rfl, by simp⟩
  | fixed status => exact ⟨[], by simp [runFinal], by simp⟩

/-- A finalization leaves the length of the buffer, and the length it gives is the declared one and within it. -/
theorem KeepsLengths.finalizeInto (keeps : backend.KeepsLengths) (buffer : Bytes) :
    (backend.finalizeInto method buffer frame).1.2.length = buffer.length ∧
      ∀ length, (backend.finalizeInto method buffer frame).1.1 = .ok length →
        length = method.resultSize ∧ length ≤ buffer.length := by
  -- Nobody but the hook writes to the buffer, and it runs only where there is room.
  cases present : method.final with
  | none =>
    rw [backend.finalizeInto_absent present]
    exact ⟨rfl, nofun⟩
  | some hook =>
    by_cases short : buffer.length < method.resultSize
    · rw [backend.finalizeInto_of_short present short]
      exact ⟨rfl, nofun⟩
    · have room := Nat.not_lt.mp short
      rw [backend.finalizeInto_of_hook present room]
      refine ⟨keeps.runFinal hook buffer, fun length given => ?_⟩
      cases status : (backend.runFinal hook buffer frame).2.1 with
      | failure =>
        simp only [status] at given
        cases given
      | success =>
        simp only [status] at given
        obtain rfl : method.resultSize = length := Except.ok.inj given
        exact ⟨rfl, room⟩

/-- A digest that a context gives out in a buffer of its own has the declared length. -/
theorem KeepsLengths.finalize (keeps : backend.KeepsLengths) {digest : Bytes}
    (given : (backend.finalize method frame).1 = .ok digest) :
    digest.length = method.resultSize := by
  -- The buffer was made in the declared length, which the hook has kept.
  cases present : method.final with
  | none =>
    rw [backend.finalize_absent present] at given
    cases given
  | some hook =>
    rw [backend.finalize_of_hook present] at given
    have length : (backend.runFinal hook (List.replicate method.resultSize 0) frame).1.length = _ :=
      keeps.runFinal hook _
    cases status : (backend.runFinal hook (List.replicate method.resultSize 0) frame).2.1 with
    | failure =>
      simp only [status] at given
      cases given
    | success =>
      simp only [status] at given
      obtain rfl := Except.ok.inj given
      rw [List.length_take, length, List.length_replicate, Nat.min_self]

/-- Each operation answers in its own form, within the lengths that its caller relies on. -/
theorem KeepsLengths.run_fits (keeps : backend.KeepsLengths) (operation : Operation) :
    operation.Fits method.resultSize (backend.run method operation frame).1 := by
  -- Only a finalization has something to give out that has a length.
  cases operation with
  | allocate | init | update _ | cleanup => exact True.intro
  | finalizeInto buffer => exact keeps.finalizeInto buffer
  | finalize => exact fun _ => keeps.finalize

/-- Allocation fails for one reason alone. -/
theorem allocate_error {cause : DigestError}
    (failed : (backend.allocate method frame).1 = .error cause) : cause = .missingState := by
  -- The declaration is all that allocation needs.
  cases declared : method.stateKind with
  | none =>
    rw [backend.allocate_undeclared declared] at failed
    exact (Except.error.inj failed).symm
  | some kind =>
    rw [backend.allocate_declared declared] at failed
    cases failed

/-- Initialization fails for want of a hook, then for want of declared private state, then with its hook. -/
theorem init_error {cause : DigestError} (failed : (backend.init method frame).1 = .error cause) :
    (method.init = none ∧ cause = .missingOperation "init") ∨
      (method.init ≠ none ∧ method.stateKind = none ∧ cause = .missingState) ∨
      (method.init ≠ none ∧ method.stateKind ≠ none ∧ cause = .operationFailed "init") := by
  -- The cases are the host's checks in their order.
  cases present : method.init with
  | none =>
    rw [backend.init_absent present] at failed
    exact .inl ⟨rfl, (Except.error.inj failed).symm⟩
  | some hook =>
    cases declared : method.stateKind with
    | none =>
      rw [backend.init_undeclared present declared] at failed
      exact .inr (.inl ⟨nofun, rfl, (Except.error.inj failed).symm⟩)
    | some kind =>
      rw [backend.init_of_hook present declared] at failed
      exact .inr (.inr ⟨nofun, nofun, HostStatus.eq_of_check_eq_error failed⟩)

/-- An update fails for want of a hook, or with it. -/
theorem update_error {data : Bytes} {cause : DigestError}
    (failed : (backend.update method data frame).1 = .error cause) :
    (method.update = none ∧ cause = .missingOperation "update") ∨
      (method.update ≠ none ∧ cause = .operationFailed "update") := by
  -- The hook is the only check, and what fails behind it is the hook.
  cases present : method.update with
  | none =>
    rw [backend.update_absent present] at failed
    exact .inl ⟨rfl, (Except.error.inj failed).symm⟩
  | some hook =>
    rw [backend.update_of_hook present] at failed
    exact .inr ⟨nofun, HostStatus.eq_of_check_eq_error failed⟩

/-- A finalization fails for want of a hook, then of room in the buffer, then with its hook. -/
theorem finalizeInto_error {buffer : Bytes} {cause : DigestError}
    (failed : (backend.finalizeInto method buffer frame).1.1 = .error cause) :
    (method.final = none ∧ cause = .missingOperation "final") ∨
      (method.final ≠ none ∧ buffer.length < method.resultSize ∧
        cause = .bufferTooSmall method.resultSize buffer.length) ∨
      (method.final ≠ none ∧ method.resultSize ≤ buffer.length ∧
        cause = .operationFailed "final") := by
  -- The hook is looked for before the buffer is measured.
  cases present : method.final with
  | none =>
    rw [backend.finalizeInto_absent present] at failed
    exact .inl ⟨rfl, (Except.error.inj failed).symm⟩
  | some hook =>
    by_cases short : buffer.length < method.resultSize
    · rw [backend.finalizeInto_of_short present short] at failed
      exact .inr (.inl ⟨nofun, short, (Except.error.inj failed).symm⟩)
    · have room := Nat.not_lt.mp short
      rw [backend.finalizeInto_of_hook present room] at failed
      exact .inr (.inr ⟨nofun, room, HostStatus.eq_of_map_check_eq_error failed⟩)

/-- A finalization into a buffer of its own fails for want of a hook, or with it. -/
theorem finalize_error {cause : DigestError}
    (failed : (backend.finalize method frame).1 = .error cause) :
    (method.final = none ∧ cause = .missingOperation "final") ∨
      (method.final ≠ none ∧ cause = .operationFailed "final") := by
  -- Its own buffer has room, so that check is passed always.
  cases present : method.final with
  | none =>
    rw [backend.finalize_absent present] at failed
    exact .inl ⟨rfl, (Except.error.inj failed).symm⟩
  | some hook =>
    rw [backend.finalize_of_hook present] at failed
    exact .inr ⟨nofun, HostStatus.eq_of_map_check_eq_error failed⟩

/-- Each operation fails with an error of its own. -/
theorem error_mem_errors (operation : Operation) {cause : DigestError}
    (failed : (backend.run method operation frame).1.error? = some cause) :
    cause ∈ operation.errors method.resultSize := by
  -- Each way for an operation to fail stands in its list.
  cases operation with
  | allocate =>
    obtain rfl := allocate_error (OperationAnswer.error?_done.mp failed)
    exact List.mem_singleton_self _
  | init =>
    rcases init_error (OperationAnswer.error?_done.mp failed) with
      ⟨_, rfl⟩ | ⟨_, _, rfl⟩ | ⟨_, _, rfl⟩ <;> simp [Operation.errors]
  | update data =>
    rcases update_error (OperationAnswer.error?_done.mp failed) with
      ⟨_, rfl⟩ | ⟨_, rfl⟩ <;> simp [Operation.errors]
  | finalizeInto buffer =>
    rcases finalizeInto_error (OperationAnswer.error?_written.mp failed) with
      ⟨_, rfl⟩ | ⟨_, _, rfl⟩ | ⟨_, _, rfl⟩ <;> simp [Operation.errors]
  | finalize =>
    rcases finalize_error (OperationAnswer.error?_digest.mp failed) with
      ⟨_, rfl⟩ | ⟨_, rfl⟩ <;> simp [Operation.errors]
  | cleanup => cases failed

/-- A finalization logs no bytes but those at the front of the buffer. -/
theorem finalizeInto_shows (buffer : Bytes) :
    ∃ told, (backend.finalizeInto method buffer frame).2.log = frame.log ++ told ∧
      ∀ named shown, .buffer named shown ∈ told →
        shown <+: (backend.finalizeInto method buffer frame).1.2 := by
  -- The host itself logs nothing, whichever of its checks fails.
  cases present : method.final with
  | none =>
    rw [backend.finalizeInto_absent present]
    exact ⟨[], by simp, by simp⟩
  | some hook =>
    by_cases short : buffer.length < method.resultSize
    · rw [backend.finalizeInto_of_short present short]
      exact ⟨[], by simp, by simp⟩
    · rw [backend.finalizeInto_of_hook present (Nat.not_lt.mp short)]
      exact runFinal_shows hook buffer

end Backend

end DigestProvider
