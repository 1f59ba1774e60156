import DigestProvider.Context.Operation

/-! What each hook does to private state of its own kind, for every library behind it. -/

namespace DigestProvider

section Notes

variable {Library State Direct Memory : Type}

/-- A status is read for the host, and the log tells of it only if the call failed. -/
theorem Frame.settle_eq (frame : Frame Library State Direct Memory) (call : EntryPoint)
    (status : LibStatus) :
    frame.settle call status =
      (HostStatus.ofBool status.isOk,
        { frame with log := frame.log ++ status.failureLog call.name }) := by
  -- Both sides ask the same question of the status.
  unfold Frame.settle LibStatus.failureLog
  cases status.isOk with
  | true => simp [HostStatus.ofBool]
  | false => rfl

end Notes

section Views

variable {Library State Direct Memory : Type} [DecidableEq Library]
  {frame : Frame Library State Direct Memory}

/-- Private state of a library's tagged kind is seen as its tag and hash state. -/
theorem Frame.tagged?_of_state {library : Library} {tag : Tag} {state : State}
    (held : frame.state = some (.tagged library tag state)) :
    frame.tagged? library = some (tag, state) := by
  -- The owner of the state is the library that asks.
  simp [Frame.tagged?, held]

/-- A frame without private state shows none to any library. -/
theorem Frame.tagged?_of_none (library : Library) (free : frame.state = none) :
    frame.tagged? library = none := by
  -- There is nothing to look at.
  simp [Frame.tagged?, free]

omit [DecidableEq Library] in
/-- Dedicated state of a type is seen as its hash state. -/
theorem Frame.direct?_of_state {type : StateType} {state : Direct}
    (held : frame.state = some (.ofType type state)) : frame.direct? type = some state := by
  -- The type of the state is the one that is asked for.
  simp [Frame.direct?, held]

omit [DecidableEq Library] in
/-- A frame without private state shows none of any type. -/
theorem Frame.direct?_of_none (type : StateType) (free : frame.state = none) :
    frame.direct? type = none := by
  -- There is nothing to look at.
  simp [Frame.direct?, free]

/-- A log record hides no tagged state. -/
@[simp] theorem Frame.tagged?_note (library : Library) (record : LogRecord) :
    (frame.note record).tagged? library = frame.tagged? library :=
  rfl

omit [DecidableEq Library] in
/-- A log record hides no dedicated state. -/
@[simp] theorem Frame.direct?_note (type : StateType) (record : LogRecord) :
    (frame.note record).direct? type = frame.direct? type :=
  rfl

end Views

namespace Backend

section Logs

variable {Library State Direct Memory : Type}

/-- What is logged about a digest that the library wrote: nothing unless the call succeeded. -/
def digestLog (label : String) (size : Option Nat) (written : Bytes) (status : LibStatus) :
    List LogRecord :=
  -- The digest stands at the front of the buffer, and the rest of it is not logged.
  if status.isOk then [.buffer label (written.take (size.getD written.length))] else []

/-- The digest goes behind the earlier records, and nothing else changes. -/
theorem noteDigest_eq (frame : Frame Library State Direct Memory) (label : String)
    (size : Option Nat) (written : Bytes) (status : LibStatus) :
    noteDigest frame label size written status =
      { frame with log := frame.log ++ digestLog label size written status } := by
  -- Both sides ask the same question of the status.
  unfold noteDigest digestLog
  cases status.isOk with
  | true => rfl
  | false => simp

/-- What is logged about a free call: nothing unless it failed. -/
def freeLog (path : HookPath) (call : EntryPoint) (status : LibStatus) : List LogRecord :=
  -- The caller of the hook is told nothing of it.
  if status.isOk then [] else [.cleanupFailure (path.hookName .cleanup) call.name status]

/-- A failed free goes behind the earlier records, and nothing else changes. -/
theorem noteFree_eq (frame : Frame Library State Direct Memory) (path : HookPath)
    (call : EntryPoint) (status : LibStatus) :
    noteFree frame path call status =
      { frame with log := frame.log ++ freeLog path call status } := by
  -- Both sides ask the same question of the status.
  unfold noteFree freeLog
  cases status.isOk with
  | true => simp
  | false => rfl

end Logs

variable {Library State Direct Memory : Type} [DecidableEq Library] [DedicatedStates Library]
  (backend : Backend Library State Direct Memory) {frame : Frame Library State Direct Memory}

section Tagged

variable {library : Library} {tag : Tag} {state : State}

/-- The tagged init hook stamps its algorithm whatever the library answers. -/
theorem runInit_tagged (algorithm : Algorithm)
    (held : frame.state = some (.tagged library tag state)) :
    backend.runInit (.tagged library algorithm) frame =
      let reply := (backend.tagged library).init (some algorithm) state frame.memory
      let status := HostStatus.ofBool reply.status.isOk
      (status,
        { state := some (.tagged library (some algorithm) reply.state)
          memory := reply.memory
          log := frame.log ++ [.initEntered .tagged algorithm] ++
            reply.status.failureLog EntryPoint.hashInit.name ++ [.hookLeft .tagged .init status] }) := by
  -- The hook finds state of its own kind, and the one call settles the outcome.
  simp only [runInit, leave, taggedInit, Frame.tagged?_note, Frame.tagged?_of_state held,
    Frame.settle_eq, Frame.keepTagged]
  rfl

/-- The tagged update hook needs no call for an empty piece. -/
theorem runUpdate_tagged_nil (held : frame.state = some (.tagged library tag state)) :
    backend.runUpdate (.tagged library) [] frame =
      (.success,
        { frame with
          log := frame.log ++ [.updateEntered .tagged 0] ++ [.hookLeft .tagged .update .success] }) := by
  -- The hook turns back before the call.
  simp only [runUpdate, leave, taggedUpdate, Frame.tagged?_note, Frame.tagged?_of_state held]
  rfl

/-- The tagged update hook hands a nonempty piece to the library under the tag held, which it keeps. -/
theorem runUpdate_tagged {data : Bytes} (held : frame.state = some (.tagged library tag state))
    (nonempty : data ≠ []) :
    backend.runUpdate (.tagged library) data frame =
      let reply := (backend.tagged library).update tag data state frame.memory
      let status := HostStatus.ofBool reply.status.isOk
      (status,
        { state := some (.tagged library tag reply.state)
          memory := reply.memory
          log := frame.log ++ [.updateEntered .tagged data.length] ++
            reply.status.failureLog EntryPoint.hashUpdate.name ++
            [.hookLeft .tagged .update status] }) := by
  -- The hook finds state of its own kind, and the one call settles the outcome.
  simp only [runUpdate, leave, taggedUpdate, Frame.tagged?_note, Frame.tagged?_of_state held,
    List.isEmpty_eq_false_iff.mpr nonempty, Frame.settle_eq, Frame.keepTagged]
  rfl

/-- The tagged final hook has the library write under the tag held, which it keeps. -/
theorem runFinal_tagged (buffer : Bytes) (held : frame.state = some (.tagged library tag state)) :
    backend.runFinal (.tagged library) buffer frame =
      let answer := (backend.tagged library).final tag buffer state frame.memory
      let reply := answer.2
      let size := (backend.tagged library).digestSize tag
      let status := HostStatus.ofBool reply.status.isOk
      (answer.1, status,
        { state := some (.tagged library tag reply.state)
          memory := reply.memory
          log := frame.log ++ [.finalEntered .tagged] ++
            digestLog "Message Digest" size answer.1 reply.status ++
            reply.status.failureLog EntryPoint.hashFinal.name ++ [.hookLeft .tagged .final status] }) := by
  -- The digest is logged before the outcome is.
  simp only [runFinal, leave, taggedFinal, Frame.tagged?_note, Frame.tagged?_of_state held,
    Frame.settle_eq, noteDigest_eq, Frame.keepTagged]
  rfl

/-- The tagged cleanup hook frees the state under the tag held, where the build calls for it. -/
theorem runCleanup_tagged (held : frame.state = some (.tagged library tag state))
    (frees : backend.callsFree = true) :
    backend.runCleanup (.tagged library) frame =
      let reply := (backend.tagged library).free tag state frame.memory
      (.success,
        { state := some (.tagged library tag reply.state)
          memory := reply.memory
          log := frame.log ++ [.cleanupEntered .tagged] ++ freeLog .tagged .hashFree reply.status ++
            [.hookLeft .tagged .cleanup .success] }) := by
  -- Only a failed free is told to the log.
  simp only [runCleanup, leave, taggedCleanup, Frame.tagged?_note, Frame.tagged?_of_state held,
    frees, if_true, noteFree_eq, Frame.keepTagged]
  rfl

/-- In a build without frees the tagged cleanup hook only tells that it ran. -/
theorem runCleanup_tagged_skipped (held : frame.state = some (.tagged library tag state))
    (skips : backend.callsFree = false) :
    backend.runCleanup (.tagged library) frame =
      (.success,
        { frame with
          log := frame.log ++ [.cleanupEntered .tagged] ++
            [.hookLeft .tagged .cleanup .success] }) := by
  -- The hook turns back before the call.
  simp only [runCleanup, leave, taggedCleanup, Frame.tagged?_note, Frame.tagged?_of_state held,
    skips, Bool.false_eq_true, if_false]
  rfl

/-- The tagged init hook fails without a call where it finds no state of its own kind. -/
theorem runInit_tagged_absent (algorithm : Algorithm) (absent : frame.tagged? library = none) :
    backend.runInit (.tagged library algorithm) frame =
      (.failure,
        { frame with
          log := frame.log ++ [.initEntered .tagged algorithm] ++
            [.hookLeft .tagged .init .failure] }) := by
  -- The hook turns back before the call.
  simp only [runInit, leave, taggedInit, Frame.tagged?_note, absent]
  rfl

/-- The tagged update hook fails without a call where it finds no state of its own kind. -/
theorem runUpdate_tagged_absent (data : Bytes) (absent : frame.tagged? library = none) :
    backend.runUpdate (.tagged library) data frame =
      (.failure,
        { frame with
          log := frame.log ++ [.updateEntered .tagged data.length] ++
            [.hookLeft .tagged .update .failure] }) := by
  -- The hook turns back before the call.
  simp only [runUpdate, leave, taggedUpdate, Frame.tagged?_note, absent]
  rfl

/-- The tagged final hook fails without a call where it finds no state of its own kind. -/
theorem runFinal_tagged_absent (buffer : Bytes) (absent : frame.tagged? library = none) :
    backend.runFinal (.tagged library) buffer frame =
      (buffer, .failure,
        { frame with
          log := frame.log ++ [.finalEntered .tagged] ++ [.hookLeft .tagged .final .failure] }) := by
  -- The hook turns back before the call.
  simp only [runFinal, leave, taggedFinal, Frame.tagged?_note, absent]
  rfl

/-- The tagged cleanup hook has nothing to free where it finds no state of its own kind. -/
theorem runCleanup_tagged_absent (absent : frame.tagged? library = none) :
    backend.runCleanup (.tagged library) frame =
      (.success,
        { frame with
          log := frame.log ++ [.cleanupEntered .tagged] ++
            [.hookLeft .tagged .cleanup .success] }) := by
  -- The hook turns back before the call, and reports success all the same.
  simp only [runCleanup, leave, taggedCleanup, Frame.tagged?_note, absent]
  rfl

end Tagged

section Direct

variable {library : Library} {state : Direct}

/-- The dedicated init hook starts the library's hash. -/
theorem runInit_direct (held : frame.state = some (.ofType (typeOf library) state)) :
    backend.runInit (.direct library) frame =
      let reply := (backend.direct library).init state frame.memory
      let status := HostStatus.ofBool reply.status.isOk
      (status,
        { state := some (.ofType (typeOf library) reply.state)
          memory := reply.memory
          log := frame.log ++ [.initEntered .direct .sha256] ++
            reply.status.failureLog EntryPoint.initSha256.name ++
            [.hookLeft .direct .init status] }) := by
  -- The hook finds state of its own kind, and the one call settles the outcome.
  simp only [runInit, leave, directInit, Frame.direct?_note, Frame.direct?_of_state held,
    Frame.settle_eq, Frame.keepDirect]
  rfl

/-- The dedicated update hook needs no call for an empty piece. -/
theorem runUpdate_direct_nil (held : frame.state = some (.ofType (typeOf library) state)) :
    backend.runUpdate (.direct library) [] frame =
      (.success,
        { frame with
          log := frame.log ++ [.updateEntered .direct 0] ++ [.hookLeft .direct .update .success] }) := by
  -- The hook turns back before the call.
  simp only [runUpdate, leave, directUpdate, Frame.direct?_note, Frame.direct?_of_state held]
  rfl

/-- The dedicated update hook hands a nonempty piece to the library. -/
theorem runUpdate_direct {data : Bytes} (held : frame.state = some (.ofType (typeOf library) state))
    (nonempty : data ≠ []) :
    backend.runUpdate (.direct library) data frame =
      let reply := (backend.direct library).update data state frame.memory
      let status := HostStatus.ofBool reply.status.isOk
      (status,
        { state := some (.ofType (typeOf library) reply.state)
          memory := reply.memory
          log := frame.log ++ [.updateEntered .direct data.length] ++
            reply.status.failureLog EntryPoint.sha256Update.name ++
            [.hookLeft .direct .update status] }) := by
  -- The hook finds state of its own kind, and the one call settles the outcome.
  simp only [runUpdate, leave, directUpdate, Frame.direct?_note, Frame.direct?_of_state held,
    List.isEmpty_eq_false_iff.mpr nonempty, Frame.settle_eq, Frame.keepDirect]
  rfl

/-- The dedicated final hook has the library write. -/
theorem runFinal_direct (buffer : Bytes)
    (held : frame.state = some (.ofType (typeOf library) state)) :
    backend.runFinal (.direct library) buffer frame =
      let answer := (backend.direct library).final buffer state frame.memory
      let reply := answer.2
      let size := some Algorithm.sha256.digestSize
      let status := HostStatus.ofBool reply.status.isOk
      (answer.1, status,
        { state := some (.ofType (typeOf library) reply.state)
          memory := reply.memory
          log := frame.log ++ [.finalEntered .direct] ++
            digestLog "SHA-256 Digest" size answer.1 reply.status ++
            reply.status.failureLog EntryPoint.sha256Final.name ++
            [.hookLeft .direct .final status] }) := by
  -- The digest is logged before the outcome is.
  simp only [runFinal, leave, directFinal, Frame.direct?_note, Frame.direct?_of_state held,
    Frame.settle_eq, noteDigest_eq, Frame.keepDirect]
  rfl

/-- The dedicated cleanup hook frees the state in every build. -/
theorem runCleanup_direct (held : frame.state = some (.ofType (typeOf library) state)) :
    backend.runCleanup (.direct library) frame =
      let reply := (backend.direct library).free state frame.memory
      (.success,
        { state := some (.ofType (typeOf library) reply.state)
          memory := reply.memory
          log := frame.log ++ [.cleanupEntered .direct] ++
            freeLog .direct .sha256Free reply.status ++ [.hookLeft .direct .cleanup .success] }) := by
  -- Only a failed free is told to the log.
  simp only [runCleanup, leave, directCleanup, Frame.direct?_note, Frame.direct?_of_state held,
    noteFree_eq, Frame.keepDirect]
  rfl

/-- The dedicated init hook fails without a call where it finds no state of its own kind. -/
theorem runInit_direct_absent (absent : frame.direct? (typeOf library) = none) :
    backend.runInit (.direct library) frame =
      (.failure,
        { frame with
          log := frame.log ++ [.initEntered .direct .sha256] ++
            [.hookLeft .direct .init .failure] }) := by
  -- The hook turns back before the call.
  simp only [runInit, leave, directInit, Frame.direct?_note, absent]
  rfl

/-- The dedicated update hook fails without a call where it finds no state of its own kind. -/
theorem runUpdate_direct_absent (data : Bytes) (absent : frame.direct? (typeOf library) = none) :
    backend.runUpdate (.direct library) data frame =
      (.failure,
        { frame with
          log := frame.log ++ [.updateEntered .direct data.length] ++
            [.hookLeft .direct .update .failure] }) := by
  -- The hook turns back before the call.
  simp only [runUpdate, leave, directUpdate, Frame.direct?_note, absent]
  rfl

/-- The dedicated final hook fails without a call where it finds no state of its own kind. -/
theorem runFinal_direct_absent (buffer : Bytes) (absent : frame.direct? (typeOf library) = none) :
    backend.runFinal (.direct library) buffer frame =
      (buffer, .failure,
        { frame with
          log := frame.log ++ [.finalEntered .direct] ++ [.hookLeft .direct .final .failure] }) := by
  -- The hook turns back before the call.
  simp only [runFinal, leave, directFinal, Frame.direct?_note, absent]
  rfl

/-- The dedicated cleanup hook has nothing to free where it finds no state of its own kind. -/
theorem runCleanup_direct_absent (absent : frame.direct? (typeOf library) = none) :
    backend.runCleanup (.direct library) frame =
      (.success,
        { frame with
          log := frame.log ++ [.cleanupEntered .direct] ++
            [.hookLeft .direct .cleanup .success] }) := by
  -- The hook turns back before the call, and reports success all the same.
  simp only [runCleanup, leave, directCleanup, Frame.direct?_note, absent]
  rfl

end Direct

end Backend

end DigestProvider
