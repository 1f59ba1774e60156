import DigestProvider.Context.HookRun

/-!
The operations of a digest context on its method: allocation, the four hooks behind the host's own checks, and the
digest of a whole message.
-/

namespace DigestProvider

/-- An operation of a context, with its input or the buffer it writes to. -/
inductive Operation where
  | allocate
  | init
  | update (data : Bytes)
  | finalizeInto (buffer : Bytes)
  | finalize
  | cleanup
  deriving DecidableEq, Repr

/-- What an operation answers. -/
inductive OperationAnswer where
  /-- Whether the operation succeeded. -/
  | done (result : Except DigestError Unit)
  /-- The digest length, and the buffer as it was left. -/
  | written (result : Except DigestError Nat) (buffer : Bytes)
  /-- The digest in a buffer of its own. -/
  | digest (result : Except DigestError Bytes)
  /-- What the cleanup hook reported. -/
  | released (status : HostStatus)

namespace Backend

variable {Library State Direct Memory : Type} [DecidableEq Library] [DedicatedStates Library]

/-- Runs the cleanup hook on allocated state and releases it; without state there is nothing to do. -/
def cleanup (backend : Backend Library State Direct Memory) (method : Method Library)
    (frame : Frame Library State Direct Memory) :
    HostStatus × Frame Library State Direct Memory :=
  match frame.state, method.cleanup with
  | none, _ => (.success, frame)
  | some _, none => (.success, frame.clear)
  | some _, some hook =>
    let (status, frame) := backend.runCleanup hook frame
    (status, frame.clear)

/-- Allocates private state as the method declares it, after a cleanup of any earlier one. -/
def allocate (backend : Backend Library State Direct Memory) (method : Method Library)
    (frame : Frame Library State Direct Memory) :
    Except DigestError Unit × Frame Library State Direct Memory :=
  let frame := (backend.cleanup method frame).2
  match method.stateKind with
  | none => (.error .missingState, frame)
  | some kind => (.ok (), { frame with state := some (backend.zeroState kind) })

/-- Allocates private state and runs the init hook on it. -/
def init (backend : Backend Library State Direct Memory) (method : Method Library)
    (frame : Frame Library State Direct Memory) :
    Except DigestError Unit × Frame Library State Direct Memory :=
  match method.init with
  | none => (.error (.missingOperation HookRole.init.name), frame)
  | some hook =>
    match backend.allocate method frame with
    | (.error cause, frame) => (.error cause, frame)
    | (.ok _, frame) =>
      let (status, frame) := backend.runInit hook frame
      (status.check HookRole.init.name, frame)

/-- Runs the update hook. -/
def update (backend : Backend Library State Direct Memory) (method : Method Library) (data : Bytes)
    (frame : Frame Library State Direct Memory) :
    Except DigestError Unit × Frame Library State Direct Memory :=
  match method.update with
  | none => (.error (.missingOperation HookRole.update.name), frame)
  | some hook =>
    let (status, frame) := backend.runUpdate hook data frame
    (status.check HookRole.update.name, frame)

/-- Runs the final hook on a buffer that has room for the declared digest length. -/
def finalizeInto (backend : Backend Library State Direct Memory) (method : Method Library)
    (buffer : Bytes) (frame : Frame Library State Direct Memory) :
    (Except DigestError Nat × Bytes) × Frame Library State Direct Memory :=
  match method.final with
  | none => ((.error (.missingOperation HookRole.final.name), buffer), frame)
  | some hook =>
    if buffer.length < method.resultSize then
      ((.error (.bufferTooSmall method.resultSize buffer.length), buffer), frame)
    else
      let (written, status, frame) := backend.runFinal hook buffer frame
      (((status.check HookRole.final.name).map fun _ => method.resultSize, written), frame)

/-- Runs the final hook on a zeroed buffer of the declared digest length. -/
def finalize (backend : Backend Library State Direct Memory) (method : Method Library)
    (frame : Frame Library State Direct Memory) :
    Except DigestError Bytes × Frame Library State Direct Memory :=
  let ((result, written), frame) :=
    backend.finalizeInto method (List.replicate method.resultSize 0) frame
  (result.map fun length => written.take length, frame)

/-- Runs one operation. -/
def run (backend : Backend Library State Direct Memory) (method : Method Library)
    (operation : Operation) (frame : Frame Library State Direct Memory) :
    OperationAnswer × Frame Library State Direct Memory :=
  match operation with
  | .allocate => (backend.allocate method frame).map .done id
  | .init => (backend.init method frame).map .done id
  | .update data => (backend.update method data frame).map .done id
  | .finalizeInto buffer =>
    (backend.finalizeInto method buffer frame).map (fun answer => .written answer.1 answer.2) id
  | .finalize => (backend.finalize method frame).map .digest id
  | .cleanup => (backend.cleanup method frame).map .released id

/-- Absorbs pieces in order up to the first failure. -/
def updateAll (backend : Backend Library State Direct Memory) (method : Method Library) :
    List Bytes → Frame Library State Direct Memory →
      Except DigestError Unit × Frame Library State Direct Memory
  | [], frame => (.ok (), frame)
  | piece :: rest, frame =>
    match backend.update method piece frame with
    | (.error cause, frame) => (.error cause, frame)
    | (.ok _, frame) => backend.updateAll method rest frame

/-- The digest of a message given in pieces, on a context that is cleaned up whatever happens. -/
def digestPieces (backend : Backend Library State Direct Memory) (method : Method Library)
    (pieces : List Bytes) (frame : Frame Library State Direct Memory) :
    Except DigestError Bytes × Frame Library State Direct Memory :=
  let (result, frame) :=
    match backend.init method frame with
    | (.error cause, frame) => (.error cause, frame)
    | (.ok _, frame) =>
      match backend.updateAll method pieces frame with
      | (.error cause, frame) => (.error cause, frame)
      | (.ok _, frame) => backend.finalize method frame
  (result, (backend.cleanup method frame).2)

/-- The digest of a whole message in one piece. -/
def digest (backend : Backend Library State Direct Memory) (method : Method Library) (data : Bytes)
    (frame : Frame Library State Direct Memory) :
    Except DigestError Bytes × Frame Library State Direct Memory :=
  backend.digestPieces method [data] frame

end Backend

end DigestProvider
