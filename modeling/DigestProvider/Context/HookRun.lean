import DigestProvider.Context.Frame

/-!
What each hook does to a frame. A hook that does not find private state of its own kind fails without a library
call, except that cleanup always reports success.
-/

namespace DigestProvider.Backend

variable {Library State Direct Memory : Type} [DecidableEq Library] [DedicatedStates Library]

/-- Notes that a hook returns. -/
def leave (path : HookPath) (role : HookRole)
    (outcome : HostStatus × Frame Library State Direct Memory) :
    HostStatus × Frame Library State Direct Memory :=
  (outcome.1, outcome.2.note (.hookLeft path role outcome.1))

/-- Stamps the algorithm into the private state, then starts the library's hash. -/
def taggedInit (backend : Backend Library State Direct Memory) (library : Library)
    (algorithm : Algorithm) (frame : Frame Library State Direct Memory) :
    HostStatus × Frame Library State Direct Memory :=
  match frame.tagged? library with
  | none => (.failure, frame)
  | some (_, state) =>
    let reply := (backend.tagged library).init (some algorithm) state frame.memory
    (frame.keepTagged library (some algorithm) reply).settle .hashInit reply.status

/-- Starts the library's dedicated hash. -/
def directInit (backend : Backend Library State Direct Memory) (library : Library)
    (frame : Frame Library State Direct Memory) :
    HostStatus × Frame Library State Direct Memory :=
  let type := typeOf library
  match frame.direct? type with
  | none => (.failure, frame)
  | some state =>
    let reply := (backend.direct library).init state frame.memory
    (frame.keepDirect type reply).settle .initSha256 reply.status

/-- Runs an init hook. -/
def runInit (backend : Backend Library State Direct Memory) (hook : InitHook Library)
    (frame : Frame Library State Direct Memory) :
    HostStatus × Frame Library State Direct Memory :=
  match hook with
  | .tagged library algorithm =>
    leave .tagged .init
      (backend.taggedInit library algorithm (frame.note (.initEntered .tagged algorithm)))
  | .direct library =>
    leave .direct .init (backend.directInit library (frame.note (.initEntered .direct .sha256)))
  | .fixed status => (status, frame)

/-- Hands bytes to the library's tagged hash; no bytes need no call. -/
def taggedUpdate (backend : Backend Library State Direct Memory) (library : Library) (data : Bytes)
    (frame : Frame Library State Direct Memory) :
    HostStatus × Frame Library State Direct Memory :=
  match frame.tagged? library with
  | none => (.failure, frame)
  | some (tag, state) =>
    if data.isEmpty then (.success, frame)
    else
      let reply := (backend.tagged library).update tag data state frame.memory
      (frame.keepTagged library tag reply).settle .hashUpdate reply.status

/-- Hands bytes to the library's dedicated hash; no bytes need no call. -/
def directUpdate (backend : Backend Library State Direct Memory) (library : Library) (data : Bytes)
    (frame : Frame Library State Direct Memory) :
    HostStatus × Frame Library State Direct Memory :=
  let type := typeOf library
  match frame.direct? type with
  | none => (.failure, frame)
  | some state =>
    if data.isEmpty then (.success, frame)
    else
      let reply := (backend.direct library).update data state frame.memory
      (frame.keepDirect type reply).settle .sha256Update reply.status

/-- Runs an update hook. -/
def runUpdate (backend : Backend Library State Direct Memory) (hook : Hook Library) (data : Bytes)
    (frame : Frame Library State Direct Memory) :
    HostStatus × Frame Library State Direct Memory :=
  match hook with
  | .tagged library =>
    leave .tagged .update
      (backend.taggedUpdate library data (frame.note (.updateEntered .tagged data.length)))
  | .direct library =>
    leave .direct .update
      (backend.directUpdate library data (frame.note (.updateEntered .direct data.length)))
  | .fixed status => (status, frame)

/-- Logs the digest at the front of a buffer after a final call that succeeded. -/
def noteDigest (frame : Frame Library State Direct Memory) (label : String) (size : Option Nat)
    (buffer : Bytes) (status : LibStatus) : Frame Library State Direct Memory :=
  if status.isOk then frame.note (.buffer label (buffer.take (size.getD buffer.length)))
  else frame

/-- Has the library's tagged hash write its digest. -/
def taggedFinal (backend : Backend Library State Direct Memory) (library : Library) (buffer : Bytes)
    (frame : Frame Library State Direct Memory) :
    Bytes × HostStatus × Frame Library State Direct Memory :=
  match frame.tagged? library with
  | none => (buffer, .failure, frame)
  | some (tag, state) =>
    let (written, reply) := (backend.tagged library).final tag buffer state frame.memory
    let size := (backend.tagged library).digestSize tag
    (written,
      (noteDigest (frame.keepTagged library tag reply) "Message Digest" size written reply.status).settle
        .hashFinal reply.status)

/-- Has the library's dedicated hash write its digest. -/
def directFinal (backend : Backend Library State Direct Memory) (library : Library) (buffer : Bytes)
    (frame : Frame Library State Direct Memory) :
    Bytes × HostStatus × Frame Library State Direct Memory :=
  let type := typeOf library
  match frame.direct? type with
  | none => (buffer, .failure, frame)
  | some state =>
    let (written, reply) := (backend.direct library).final buffer state frame.memory
    let size := some Algorithm.sha256.digestSize
    (written,
      (noteDigest (frame.keepDirect type reply) "SHA-256 Digest" size written reply.status).settle
        .sha256Final reply.status)

/-- Runs a final hook on a buffer. -/
def runFinal (backend : Backend Library State Direct Memory) (hook : Hook Library) (buffer : Bytes)
    (frame : Frame Library State Direct Memory) :
    Bytes × HostStatus × Frame Library State Direct Memory :=
  match hook with
  | .tagged library =>
    let (written, outcome) :=
      backend.taggedFinal library buffer (frame.note (.finalEntered .tagged))
    (written, leave .tagged .final outcome)
  | .direct library =>
    let (written, outcome) :=
      backend.directFinal library buffer (frame.note (.finalEntered .direct))
    (written, leave .direct .final outcome)
  | .fixed status => (buffer, status, frame)

/-- Logs a failed free, which goes no further. -/
def noteFree (frame : Frame Library State Direct Memory) (path : HookPath) (call : EntryPoint)
    (status : LibStatus) : Frame Library State Direct Memory :=
  if status.isOk then frame
  else frame.note (.cleanupFailure (path.hookName .cleanup) call.name status)

/-- Gives the tagged hash state back to the library, where that is called for. -/
def taggedCleanup (backend : Backend Library State Direct Memory) (library : Library)
    (frame : Frame Library State Direct Memory) : Frame Library State Direct Memory :=
  match frame.tagged? library with
  | none => frame
  | some (tag, state) =>
    if backend.callsFree then
      let reply := (backend.tagged library).free tag state frame.memory
      noteFree (frame.keepTagged library tag reply) .tagged .hashFree reply.status
    else frame

/-- Gives the dedicated hash state back to the library. -/
def directCleanup (backend : Backend Library State Direct Memory) (library : Library)
    (frame : Frame Library State Direct Memory) : Frame Library State Direct Memory :=
  let type := typeOf library
  match frame.direct? type with
  | none => frame
  | some state =>
    let reply := (backend.direct library).free state frame.memory
    noteFree (frame.keepDirect type reply) .direct .sha256Free reply.status

/-- Runs a cleanup hook. -/
def runCleanup (backend : Backend Library State Direct Memory) (hook : Hook Library)
    (frame : Frame Library State Direct Memory) :
    HostStatus × Frame Library State Direct Memory :=
  match hook with
  | .tagged library =>
    leave .tagged .cleanup
      (.success, backend.taggedCleanup library (frame.note (.cleanupEntered .tagged)))
  | .direct library =>
    leave .direct .cleanup
      (.success, backend.directCleanup library (frame.note (.cleanupEntered .direct)))
  | .fixed status => (status, frame)

end DigestProvider.Backend
