import DigestProvider.Proofs.Context.FreeOnce
import DigestProvider.Proofs.Context.Kinds
import DigestProvider.Proofs.Context.AnyRecord

/-!
What comes of library calls that fail: what the log tells of them, and what the operations answer. Main statement: over
any library, each failed call is told once and in order, as an error or, for a free, as a warning, nothing else is told
as gravely, and an operation fails exactly where its call did or there was no private state to make it on.
-/

namespace DigestProvider

/-- The entry point that a hook of a path calls. -/
def HookPath.entry : HookPath → HookRole → EntryPoint
  | tagged, .init => .hashInit
  | tagged, .update => .hashUpdate
  | tagged, .final => .hashFinal
  | tagged, .cleanup => .hashFree
  | direct, .init => .initSha256
  | direct, .update => .sha256Update
  | direct, .final => .sha256Final
  | direct, .cleanup => .sha256Free

/-- What is told of a call on a path: of a failed free a warning that names the cleanup hook, of any other call that
failed an error, and of one that succeeded nothing. -/
def CallRecord.told (path : HookPath) (record : CallRecord) : List LogRecord :=
  -- The logs are empty for a status of zero, so a call that succeeded is not told at all.
  if record.call.isFree then Backend.freeLog path (path.entry .cleanup) record.status
  else record.status.failureLog record.call.entry.name

section Levels

/-- The records that a maximum level lets through are those of each part of a log. -/
@[simp] theorem visibleRecords_append (maximum : LogLevel) (log more : List LogRecord) :
    visibleRecords maximum (log ++ more) =
      visibleRecords maximum log ++ visibleRecords maximum more :=
  -- Whether a record gets through depends on its own level alone.
  List.filter_append log more

/-- The traces of entering and leaving a hook do not get through to the warnings. -/
theorem visible_between {entered left : LogRecord} (enters : entered.level = .trace)
    (leaves : left.level = .trace) (log told : List LogRecord) :
    visibleRecords .warn (log ++ [entered] ++ told ++ [left]) =
      visibleRecords .warn log ++ visibleRecords .warn told := by
  -- Traces rank below the warnings, so both are dropped.
  simp [visibleRecords, enters, leaves, LogLevel.rank]

/-- What is told of a failed call gets through to the warnings. -/
@[simp] theorem visible_failureLog (status : LibStatus) (call : String) :
    visibleRecords .warn (status.failureLog call) = status.failureLog call := by
  -- It is an error, if it is told at all.
  unfold LibStatus.failureLog
  split <;> rfl

/-- So does what is told of a failed free. -/
@[simp] theorem visible_freeLog (path : HookPath) (call : EntryPoint) (status : LibStatus) :
    visibleRecords .warn (Backend.freeLog path call status) = Backend.freeLog path call status := by
  -- It is a warning, which is just grave enough.
  unfold Backend.freeLog
  split <;> rfl

/-- A digest does not. -/
@[simp] theorem visible_digestLog (label : String) (size : Option Nat) (written : Bytes)
    (status : LibStatus) :
    visibleRecords .warn (Backend.digestLog label size written status) = [] := by
  -- Digests are shown for debugging, where they are shown at all.
  unfold Backend.digestLog
  split <;> rfl

/-- Errors and warnings are found among the records that get through to the warnings. -/
theorem filter_visible {level : LogLevel} (grave : level.rank ≤ LogLevel.warn.rank)
    (log : List LogRecord) :
    (visibleRecords .warn log).filter (·.level = level) = log.filter (·.level = level) := by
  -- A record that either filter drops is dropped by the second.
  unfold visibleRecords
  rw [List.filter_filter]
  refine List.filter_congr fun record _ => ?_
  by_cases same : record.level = level <;> simp [same, grave]

/-- Where some calls are each told by one record of a level and the others by none, those records are the records of that
level. -/
theorem filter_told {path : HookPath} {level : LogLevel} {counts : CallRecord → Bool}
    {form : CallRecord → LogRecord}
    (each : ∀ record : CallRecord, (record.told path).filter (·.level = level) =
      if counts record then [form record] else [])
    (calls : List CallRecord) :
    (calls.flatMap (CallRecord.told path)).filter (·.level = level) =
      (calls.filter counts).map form := by
  -- The induction is on the calls, which are told one behind the other.
  induction calls with
  | nil => rfl
  | cons record rest ih =>
    rw [List.flatMap_cons, List.filter_append, each, ih, List.filter_cons]
    split <;> rfl

/-- The errors among what is told of calls are those of the calls that free nothing. -/
theorem errors_told (path : HookPath) (calls : List CallRecord) :
    (calls.flatMap (CallRecord.told path)).filter (·.level = .error) =
      (calls.filter fun made => !made.call.isFree && !made.status.isOk).map fun made =>
        .libraryFailure made.call.entry.name made.status := by
  -- A free tells no error, and any other call tells one if it failed.
  refine filter_told (fun record => ?_) calls
  cases free : record.call.isFree <;> cases ok : record.status.isOk <;>
    simp [CallRecord.told, Backend.freeLog, LibStatus.failureLog, LogRecord.level, free, ok]

/-- The warnings among what is told of calls are those of the frees. -/
theorem warnings_told (path : HookPath) (calls : List CallRecord) :
    (calls.flatMap (CallRecord.told path)).filter (·.level = .warn) =
      (calls.filter fun made => made.call.isFree && !made.status.isOk).map fun made =>
        .cleanupFailure (path.hookName .cleanup) (path.entry .cleanup).name made.status := by
  -- A free tells a warning if it failed, and no other call tells any.
  refine filter_told (fun record => ?_) calls
  cases free : record.call.isFree <;> cases ok : record.status.isOk <;>
    simp [CallRecord.told, Backend.freeLog, LibStatus.failureLog, LogRecord.level, free, ok]

end Levels

section Frames

variable {Library State Direct Memory : Type}

/-- Between two frames calls were made, and the log goes on with what is told of them and nothing else as grave. -/
structure Frame.Tells (path : HookPath)
    (before after : Frame Library State Direct (Recorded Memory)) (made : List CallRecord) :
    Prop where
  /-- The calls are recorded. -/
  calls : after.memory.calls = before.memory.calls ++ made
  /-- Each is told, in order. -/
  log : visibleRecords .warn after.log =
    visibleRecords .warn before.log ++ made.flatMap (CallRecord.told path)

namespace Frame.Tells

variable {path : HookPath} {frame between after : Frame Library State Direct (Recorded Memory)}
  {made more : List CallRecord}

/-- Nothing is told where nothing happens. -/
theorem refl (path : HookPath) (frame : Frame Library State Direct (Recorded Memory)) :
    Frame.Tells path frame frame [] :=
  -- Neither the calls nor the log have grown.
  ⟨by simp, by simp⟩

/-- Further calls are told behind the earlier ones. -/
theorem trans (first : Frame.Tells path frame between made)
    (second : Frame.Tells path between after more) :
    Frame.Tells path frame after (made ++ more) where
  -- What the second stretch adds is put behind what the first has added.
  calls := by rw [second.calls, first.calls, List.append_assoc]
  log := by rw [second.log, first.log, List.append_assoc, List.flatMap_append]

/-- A hook that makes no call tells nothing. -/
theorem quiet {entered left : LogRecord} (enters : entered.level = .trace)
    (leaves : left.level = .trace) (calls : after.memory.calls = frame.memory.calls)
    (log : after.log = frame.log ++ [entered] ++ [left]) : Frame.Tells path frame after [] where
  -- Entering and leaving are all that the log gets, and neither is grave.
  calls := by rw [calls, List.append_nil]
  log := by
    have told := visible_between enters leaves frame.log []
    rw [List.append_nil] at told
    rw [log, told]
    rfl

/-- A hook that makes a call tells of it between the traces of its entering and leaving. -/
theorem call {entered left : LogRecord} (enters : entered.level = .trace)
    (leaves : left.level = .trace) {record : CallRecord} {told : List LogRecord}
    (calls : after.memory.calls = frame.memory.calls ++ [record])
    (log : after.log = frame.log ++ [entered] ++ told ++ [left])
    (visible : visibleRecords .warn told = record.told path) :
    Frame.Tells path frame after [record] where
  -- What is told in between is all that gets through to the warnings.
  calls := calls
  log := by rw [log, visible_between enters leaves, visible, List.flatMap_singleton]

end Frame.Tells

/-- An outcome is that of one call by a hook of a path, whose status is what the hook reports. -/
def HookPath.Answers (path : HookPath) (role : HookRole)
    (frame : Frame Library State Direct (Recorded Memory))
    (outcome : HostStatus × Frame Library State Direct (Recorded Memory)) : Prop :=
  -- The one call may succeed or fail; it is made and told in either case.
  ∃ made : CallRecord, made.call.entry = path.entry role ∧
    outcome.1 = .ofBool made.status.isOk ∧ Frame.Tells path frame outcome.2 [made]

end Frames

namespace Backend

variable {Library State Direct Memory : Type} [DecidableEq Library] [DedicatedStates Library]
  (backend : Backend Library State Direct Memory) {path : HookPath} {library : Library}
  {algorithm : Algorithm} {size : Nat} {method : Method Library}
  {frame : Frame Library State Direct (Recorded Memory)}

section Hooks

/-- The init hook answers by its call. -/
theorem runInit_answers (holds : frame.kind? = some (path.recipe library algorithm).stateKind) :
    path.Answers .init frame
      (backend.recorded.runInit (path.recipe library algorithm).init frame) := by
  -- The state is of the hook's own kind, so the call is made on it.
  cases path with
  | tagged =>
    obtain ⟨tag, state, held⟩ := Frame.state_of_kind_tagged holds
    simp only [HookPath.recipe, Recipe.tagged]
    rw [backend.recorded.runInit_tagged algorithm held]
    exact ⟨_, rfl, rfl, .call rfl rfl rfl rfl (visible_failureLog _ _)⟩
  | direct =>
    obtain ⟨state, held⟩ := Frame.state_of_kind_direct holds
    simp only [HookPath.recipe, Recipe.direct]
    rw [backend.recorded.runInit_direct held]
    exact ⟨_, rfl, rfl, .call rfl rfl rfl rfl (visible_failureLog _ _)⟩

/-- The update hook answers by its call, if there are bytes to absorb. -/
theorem runUpdate_answers (holds : frame.kind? = some (path.recipe library algorithm).stateKind)
    {data : Bytes} (nonempty : data ≠ []) :
    path.Answers .update frame
      (backend.recorded.runUpdate (path.recipe library algorithm).update data frame) := by
  -- With state of its own kind and something to absorb, the hook makes its call.
  cases path with
  | tagged =>
    obtain ⟨tag, state, held⟩ := Frame.state_of_kind_tagged holds
    simp only [HookPath.recipe, Recipe.tagged]
    rw [backend.recorded.runUpdate_tagged held nonempty]
    exact ⟨_, rfl, rfl, .call rfl rfl rfl rfl (visible_failureLog _ _)⟩
  | direct =>
    obtain ⟨state, held⟩ := Frame.state_of_kind_direct holds
    simp only [HookPath.recipe, Recipe.direct]
    rw [backend.recorded.runUpdate_direct held nonempty]
    exact ⟨_, rfl, rfl, .call rfl rfl rfl rfl (visible_failureLog _ _)⟩

/-- The update hook needs no call for an empty piece. -/
theorem runUpdate_nil_tells
    (holds : frame.kind? = some (path.recipe library algorithm).stateKind) :
    ∃ after, backend.recorded.runUpdate (path.recipe library algorithm).update [] frame =
      (.success, after) ∧ Frame.Tells path frame after [] := by
  -- The hook turns back with success before it would call.
  cases path with
  | tagged =>
    obtain ⟨tag, state, held⟩ := Frame.state_of_kind_tagged holds
    exact ⟨_, backend.recorded.runUpdate_tagged_nil held, .quiet rfl rfl rfl rfl⟩
  | direct =>
    obtain ⟨state, held⟩ := Frame.state_of_kind_direct holds
    exact ⟨_, backend.recorded.runUpdate_direct_nil held, .quiet rfl rfl rfl rfl⟩

variable (path library algorithm) in
/-- The update hook fails without a call where there is no private state. -/
theorem runUpdate_unallocated (data : Bytes) (free : frame.state = none) :
    ∃ after, backend.recorded.runUpdate (path.recipe library algorithm).update data frame =
      (.failure, after) ∧ Frame.Tells path frame after [] := by
  -- The check for private state comes first.
  cases path with
  | tagged =>
    have absent := Frame.tagged?_of_none library free
    exact ⟨_, backend.recorded.runUpdate_tagged_absent data absent, .quiet rfl rfl rfl rfl⟩
  | direct =>
    have absent := Frame.direct?_of_none (typeOf library) free
    exact ⟨_, backend.recorded.runUpdate_direct_absent data absent, .quiet rfl rfl rfl rfl⟩

/-- The final hook answers by its call. -/
theorem runFinal_answers (holds : frame.kind? = some (path.recipe library algorithm).stateKind)
    (buffer : Bytes) :
    path.Answers .final frame
      (backend.recorded.runFinal (path.recipe library algorithm).final buffer frame).2 := by
  -- The digest that the log shows is no more than a detail.
  cases path with
  | tagged =>
    obtain ⟨tag, state, held⟩ := Frame.state_of_kind_tagged holds
    simp only [HookPath.recipe, Recipe.tagged]
    rw [backend.recorded.runFinal_tagged buffer held]
    refine ⟨_, rfl, rfl, .call rfl rfl rfl (congrArg (· ++ _) (List.append_assoc _ _ _)) ?_⟩
    rw [visibleRecords_append, visible_digestLog, visible_failureLog]
    rfl
  | direct =>
    obtain ⟨state, held⟩ := Frame.state_of_kind_direct holds
    simp only [HookPath.recipe, Recipe.direct]
    rw [backend.recorded.runFinal_direct buffer held]
    refine ⟨_, rfl, rfl, .call rfl rfl rfl (congrArg (· ++ _) (List.append_assoc _ _ _)) ?_⟩
    rw [visibleRecords_append, visible_digestLog, visible_failureLog]
    rfl

variable (path library algorithm) in
/-- The final hook fails without a call where there is no private state. -/
theorem runFinal_unallocated (buffer : Bytes) (free : frame.state = none) :
    ∃ after, backend.recorded.runFinal (path.recipe library algorithm).final buffer frame =
      (buffer, .failure, after) ∧ Frame.Tells path frame after [] := by
  -- The check for private state comes first, and the buffer is not touched.
  cases path with
  | tagged =>
    have absent := Frame.tagged?_of_none library free
    exact ⟨_, backend.recorded.runFinal_tagged_absent buffer absent, .quiet rfl rfl rfl rfl⟩
  | direct =>
    have absent := Frame.direct?_of_none (typeOf library) free
    exact ⟨_, backend.recorded.runFinal_direct_absent buffer absent, .quiet rfl rfl rfl rfl⟩

/-- The cleanup hook reports success whatever its call returned, if it makes one. -/
theorem runCleanup_tells (holds : frame.kind? = some (path.recipe library algorithm).stateKind) :
    ∃ after freed,
      backend.recorded.runCleanup (path.recipe library algorithm).cleanup frame =
        (.success, after) ∧
      (∀ made ∈ freed, made.call.entry = path.entry .cleanup) ∧
      Frame.Tells path frame after freed := by
  -- Cleanup is not stopped by a free that fails; the failure goes to the log only.
  cases path with
  | tagged =>
    obtain ⟨tag, state, held⟩ := Frame.state_of_kind_tagged holds
    -- The tagged hook frees in some builds only, the dedicated one in all.
    cases frees : backend.callsFree with
    | true =>
      exact ⟨_, _, backend.recorded.runCleanup_tagged held frees, List.forall_mem_singleton.mpr rfl,
        .call rfl rfl rfl rfl (visible_freeLog _ _ _)⟩
    | false =>
      exact ⟨_, [], backend.recorded.runCleanup_tagged_skipped held frees, List.forall_mem_nil _,
        .quiet rfl rfl rfl rfl⟩
  | direct =>
    obtain ⟨state, held⟩ := Frame.state_of_kind_direct holds
    exact ⟨_, _, backend.recorded.runCleanup_direct held, List.forall_mem_singleton.mpr rfl,
      .call rfl rfl rfl rfl (visible_freeLog _ _ _)⟩

end Hooks

/-- An outcome is that of one call by a hook of a path behind earlier calls: an error exactly if its status is not
zero. -/
def FailsByCall {Value : Type} (path : HookPath) (role : HookRole) (earlier : List CallRecord)
    (outcome : Except DigestError Value × Frame Library State Direct (Recorded Memory)) : Prop :=
  -- The call has been made in either case, behind what was called earlier.
  ∃ made : CallRecord, made.call.entry = path.entry role ∧
    outcome.2.memory.calls = earlier ++ [made] ∧
    ((∃ cause, outcome.1 = .error cause) ↔ made.status.code ≠ 0)

omit [DecidableEq Library] [DedicatedStates Library] in
/-- An operation that answers with the status of its hook fails as the call does. -/
theorem failsByCall_of_answers {role : HookRole}
    {outcome : HostStatus × Frame Library State Direct (Recorded Memory)}
    (answers : path.Answers role frame outcome) (operation : String) :
    FailsByCall path role frame.memory.calls (outcome.1.check operation, outcome.2) := by
  obtain ⟨made, named, reported, tells⟩ := answers
  refine ⟨made, named, tells.calls, ?_⟩
  -- The library reports success by zero alone.
  rw [reported]
  cases ok : made.status.isOk with
  | true => simp [HostStatus.ofBool, HostStatus.check, of_decide_eq_true ok]
  | false => simp [HostStatus.ofBool, HostStatus.check, of_decide_eq_false ok]

omit [DecidableEq Library] [DedicatedStates Library] in
/-- It does so whatever it makes of a success. -/
theorem FailsByCall.map {Value Result : Type} {role : HookRole} {earlier : List CallRecord}
    {result : Except DigestError Value} {after : Frame Library State Direct (Recorded Memory)}
    (fails : FailsByCall path role earlier (result, after)) (make : Value → Result) :
    FailsByCall path role earlier (result.map make, after) := by
  -- A success is turned into a success, and a failure is handed on.
  obtain ⟨made, named, calls, failed⟩ := fails
  refine ⟨made, named, calls, ?_⟩
  rw [← failed]
  cases result <;> simp [Except.map]

/-- An outcome is an error without any call. -/
def FailsUncalled {Value : Type} (earlier : List CallRecord)
    (outcome : Except DigestError Value × Frame Library State Direct (Recorded Memory)) : Prop :=
  -- The failure is the hook's own, before it would have called.
  (∃ cause, outcome.1 = .error cause) ∧ outcome.2.memory.calls = earlier

/-- The operations of a context fail where their library calls do, or where there is no private state to make them on,
and nowhere else. -/
structure FailsAsCalled (backend : Backend Library State Direct (Recorded Memory))
    (path : HookPath) (method : Method Library)
    (frame : Frame Library State Direct (Recorded Memory)) : Prop where
  /-- Initialization answers by its call, which comes behind the cleanup of earlier private state. -/
  init : FailsByCall path .init (backend.cleanup method frame).2.memory.calls
    (backend.init method frame)
  /-- An update of some bytes answers by its call. -/
  update : frame.state ≠ none → ∀ data, data ≠ [] →
    FailsByCall path .update frame.memory.calls (backend.update method data frame)
  /-- An update of no bytes succeeds without a call. -/
  update_nothing : frame.state ≠ none → (backend.update method [] frame).1 = .ok () ∧
    (backend.update method [] frame).2.memory.calls = frame.memory.calls
  /-- Without private state every update fails. -/
  update_unallocated : frame.state = none → ∀ data,
    FailsUncalled frame.memory.calls (backend.update method data frame)
  /-- A finalization into a buffer with room answers by its call. -/
  final : frame.state ≠ none → ∀ buffer, method.resultSize ≤ buffer.length →
    FailsByCall path .final frame.memory.calls
      ((backend.finalizeInto method buffer frame).1.1, (backend.finalizeInto method buffer frame).2)
  /-- Without private state it fails. -/
  final_unallocated : frame.state = none → ∀ buffer, method.resultSize ≤ buffer.length →
    FailsUncalled frame.memory.calls
      ((backend.finalizeInto method buffer frame).1.1, (backend.finalizeInto method buffer frame).2)
  /-- A cleanup succeeds, and makes no calls but frees. -/
  cleanup : (backend.cleanup method frame).1 = .success ∧
    ∃ freed : List CallRecord, (∀ made ∈ freed, made.call.entry = path.entry .cleanup) ∧
      (backend.cleanup method frame).2.memory.calls = frame.memory.calls ++ freed

section Operations

variable (path library algorithm size method frame) in
/-- Allocation tells no more than the cleanup before it, and the init hook answers by its call on what was allocated. -/
theorem init_answers :
    path.Answers .init (backend.recorded.cleanup method frame).2
      (backend.recorded.runInit (path.recipe library algorithm).init
        (backend.recorded.allocated ((path.recipe library algorithm).declaring size) method
          frame)) := by
  -- What was allocated is of the kind that the record declares, which is the hook's.
  have kind : (backend.recorded.allocated ((path.recipe library algorithm).declaring size) method
      frame).kind? = some (path.recipe library algorithm).stateKind := by
    simp [Frame.kind?, state_allocated, Recipe.declaring]
  obtain ⟨made, named, reported, tells⟩ := runInit_answers backend kind
  exact ⟨made, named, reported, tells.calls, tells.log⟩

variable (prescribed : ((path.recipe library algorithm).declaring size).Prescribes method)
  (asDeclared : frame.AsDeclared method)
include prescribed asDeclared

omit [DecidableEq Library] in
/-- Private state is of the path's kind, if there is any. -/
theorem none_or_kind_of_asDeclared :
    frame.state = none ∨ frame.kind? = some (path.recipe library algorithm).stateKind := by
  -- The record declares the kind of the path's own recipe.
  cases held : frame.state with
  | none => exact .inl rfl
  | some state =>
    have kind : frame.kind? = some state.kind := by rw [Frame.kind?, held, Option.map_some]
    exact .inr (kind.trans ((asDeclared _ kind).symm.trans prescribed.stateKind))

/-- A cleanup succeeds, and tells of the free that it makes, if it makes one. -/
theorem cleanup_tells :
    (backend.recorded.cleanup method frame).1 = .success ∧
      ∃ freed, (∀ made ∈ freed, made.call.entry = path.entry .cleanup) ∧
        Frame.Tells path frame (backend.recorded.cleanup method frame).2 freed := by
  -- Without private state the cleanup hook is not run.
  cases held : frame.state with
  | none =>
    rw [cleanup_of_none _ method held]
    exact ⟨rfl, [], List.forall_mem_nil _, .refl path frame⟩
  | some state =>
    have kind := (none_or_kind_of_asDeclared prescribed asDeclared).resolve_left (by simp [held])
    obtain ⟨after, freed, hook, named, tells⟩ := runCleanup_tells backend kind
    -- Dropping the private state behind the hook tells nothing.
    rw [cleanup_of_some _ prescribed held]
    simp only [Recipe.declaring, hook]
    exact ⟨trivial, freed, named, tells.calls, tells.log⟩

/-- The final hook tells of the call that it makes, if it makes one. -/
theorem runFinal_tells (buffer : Bytes) :
    ∃ made, Frame.Tells path frame
      (backend.recorded.runFinal (path.recipe library algorithm).final buffer frame).2.2 made := by
  -- Whether there is private state decides if the call is made.
  rcases none_or_kind_of_asDeclared prescribed asDeclared with free | kind
  · obtain ⟨after, hook, tells⟩ := runFinal_unallocated backend path library algorithm buffer free
    exact ⟨[], hook ▸ tells⟩
  · obtain ⟨made, _, _, tells⟩ := runFinal_answers backend kind buffer
    exact ⟨[made], tells⟩

/-- An operation tells of the calls that it makes, and of nothing else as grave. -/
theorem run_tells (operation : Operation) :
    ∃ made, Frame.Tells path frame (backend.recorded.run method operation frame).2 made := by
  -- Each operation runs at most a cleanup and one hook, in this order.
  obtain ⟨_, freed, _, cleaned⟩ := cleanup_tells backend prescribed asDeclared
  cases operation with
  | allocate =>
    rw [run_allocate prescribed]
    exact ⟨freed, cleaned.calls, cleaned.log⟩
  | init =>
    obtain ⟨made, _, _, tells⟩ := init_answers backend path library algorithm size method frame
    rw [run, init_eq _ prescribed]
    exact ⟨freed ++ [made], cleaned.trans tells⟩
  | update data =>
    rw [run, update_eq _ prescribed]
    rcases none_or_kind_of_asDeclared prescribed asDeclared with free | kind
    · obtain ⟨after, hook, tells⟩ := runUpdate_unallocated backend path library algorithm data free
      exact ⟨[], hook ▸ tells⟩
    · by_cases empty : data = []
      · -- An empty piece is not handed on, which nothing is told about.
        obtain ⟨after, hook, tells⟩ := runUpdate_nil_tells backend kind
        exact ⟨[], empty ▸ hook ▸ tells⟩
      · obtain ⟨made, _, _, tells⟩ := runUpdate_answers backend kind empty
        exact ⟨[made], tells⟩
  | finalizeInto buffer =>
    by_cases short : buffer.length < size
    · -- A buffer that is too short is turned back by the host, without a record in the log.
      rw [run_finalizeInto_short prescribed short]
      exact ⟨[], .refl path frame⟩
    · rw [run, finalizeInto_eq _ prescribed (Nat.not_lt.mp short)]
      exact runFinal_tells backend prescribed asDeclared buffer
  | finalize =>
    rw [run, finalize_eq _ prescribed]
    exact runFinal_tells backend prescribed asDeclared (List.replicate size 0)
  | cleanup => exact ⟨freed, cleaned⟩

/-- Operations one after another tell of the calls that they make, and of nothing else as grave. -/
theorem runAll_tells (operations : List Operation) :
    ∃ made, Frame.Tells path frame (backend.recorded.runAll method operations frame) made := by
  -- The induction is on the operations; each tells behind what the earlier ones have told.
  induction operations generalizing frame with
  | nil => exact ⟨[], .refl path frame⟩
  | cons operation rest ih =>
    obtain ⟨made, first⟩ := run_tells backend prescribed asDeclared operation
    obtain ⟨more, later⟩ := ih (backend.recorded.run_asDeclared operation asDeclared)
    exact ⟨made ++ more, first.trans later⟩

/-- Where private state is as declared, the operations fail as their calls do. -/
theorem failsAsCalled_of_asDeclared : FailsAsCalled backend.recorded path method frame where
  init := by
    -- The cleanup that comes first fails nobody, so the init hook's call decides.
    rw [init_eq _ prescribed]
    exact failsByCall_of_answers (init_answers ..) _
  update held data nonempty := by
    -- Private state that is held is of the kind that the hook looks for.
    have kind := (none_or_kind_of_asDeclared prescribed asDeclared).resolve_left held
    rw [update_eq _ prescribed]
    exact failsByCall_of_answers (runUpdate_answers backend kind nonempty) _
  update_nothing held := by
    have kind := (none_or_kind_of_asDeclared prescribed asDeclared).resolve_left held
    obtain ⟨after, hook, tells⟩ := runUpdate_nil_tells backend kind
    rw [update_eq _ prescribed]
    simp only [Recipe.declaring, hook, HostStatus.check, tells.calls, List.append_nil, and_self]
  update_unallocated free data := by
    obtain ⟨after, hook, tells⟩ := runUpdate_unallocated backend path library algorithm data free
    rw [update_eq _ prescribed]
    simp only [Recipe.declaring, hook]
    exact ⟨⟨_, rfl⟩, tells.calls.trans (List.append_nil _)⟩
  final held buffer room := by
    have kind := (none_or_kind_of_asDeclared prescribed asDeclared).resolve_left held
    rw [finalizeInto_eq _ prescribed (prescribed.resultSize ▸ room)]
    -- The answer of a success is the record's length, whatever the library wrote.
    exact (failsByCall_of_answers (runFinal_answers backend kind buffer) _).map _
  final_unallocated free buffer room := by
    obtain ⟨after, hook, tells⟩ := runFinal_unallocated backend path library algorithm buffer free
    rw [finalizeInto_eq _ prescribed (prescribed.resultSize ▸ room)]
    simp only [Recipe.declaring, hook]
    exact ⟨⟨_, rfl⟩, tells.calls.trans (List.append_nil _)⟩
  cleanup := by
    obtain ⟨succeeds, freed, named, tells⟩ := cleanup_tells backend prescribed asDeclared
    exact ⟨succeeds, freed, named, tells.calls⟩

end Operations

/-- Over any library, whatever statuses its calls return, a context on a complete record of a generic or dedicated recipe
tells of each failed call once and in order: of init, update and final calls by an error that names the call, of frees
by a warning that names the cleanup and the free of the path. Nothing else is told as an error or a warning, up to and
including the drop of the context, and each operation fails exactly where its call did or there was no private state. -/
theorem failures_told {HostMemory : Type} {host : Host Library HostMemory}
    (loyal : host.StoresOrSkips) (givesEmpty : host.GivesEmpty) {pkeyNids : List Nid}
    {site : Site HostMemory} {record : Record Library}
    (built : (((path.recipe library algorithm).declaring size).build host pkeyNids site).1 =
      .ok record)
    (complete : record.method.isComplete = true) (memory : Memory) (operations : List Operation) :
    let start : Frame Library State Direct (Recorded Memory) := { memory := ⟨memory, []⟩ }
    let reached := backend.recorded.runAll record.method operations start
    let dropped := (backend.recorded.cleanup record.method reached).2
    (dropped.log.filter (·.level = .error)).map LogRecord.message =
      ((dropped.memory.calls.filter fun made => !made.call.isFree && !made.status.isOk).map
        fun made => "Library call failed: " ++ made.call.entry.name ++
          " (status: " ++ made.status.text ++ ")") ∧
    (dropped.log.filter (·.level = .warn)).map LogRecord.message =
      ((dropped.memory.calls.filter fun made => made.call.isFree && !made.status.isOk).map
        fun made => "Component cleanup failed: " ++ path.hookName .cleanup ++
          " (" ++ (path.entry .cleanup).name ++ " status: " ++ made.status.text ++ ")") ∧
    FailsAsCalled backend.recorded path record.method reached := by
  intro start reached dropped
  -- A complete record is the recipe's, and a context on it starts without private state.
  have prescribed := Recipe.prescribes_of_complete loyal givesEmpty built complete
  have unallocated : start.AsDeclared record.method := Frame.asDeclared_of_none rfl
  have asDeclared : reached.AsDeclared record.method := runAll_asDeclared operations unallocated
  obtain ⟨made, ran⟩ := runAll_tells backend prescribed unallocated operations
  obtain ⟨_, freed, _, cleaned⟩ := cleanup_tells backend prescribed asDeclared
  -- The log and the calls both start out empty.
  have whole : Frame.Tells path start dropped (made ++ freed) := ran.trans cleaned
  have calls : dropped.memory.calls = made ++ freed := whole.calls
  have told : visibleRecords .warn dropped.log =
      dropped.memory.calls.flatMap (CallRecord.told path) := by
    rw [calls]
    exact whole.log
  refine ⟨?_, ?_, failsAsCalled_of_asDeclared backend prescribed asDeclared⟩
  · -- Errors get through to the warnings, where only calls have told anything.
    rw [← filter_visible (by decide), told, errors_told, List.map_map]
    rfl
  · rw [← filter_visible (by decide), told, warnings_told, List.map_map]
    rfl

/-- A library whose init and update calls return nonzero statuses of either sign, and whose free fails: each is told. -/
theorem failures_told_of_either_sign :
    let backend : Backend Unit Unit Unit Unit :=
      { tagged := fun _ =>
          { zero := ()
            init := fun _ state memory => ⟨⟨5⟩, state, memory⟩
            update := fun _ _ state memory => ⟨⟨-1⟩, state, memory⟩
            final := fun _ buffer state memory => (buffer, ⟨.ok, state, memory⟩)
            free := fun _ state memory => ⟨⟨-9⟩, state, memory⟩ }
        direct := fun _ =>
          { init := fun state memory => ⟨.ok, state, memory⟩
            update := fun _ state memory => ⟨.ok, state, memory⟩
            final := fun buffer state memory => (buffer, ⟨.ok, state, memory⟩)
            free := fun state memory => ⟨.ok, state, memory⟩ }
        directZero := fun _ => () }
    let recipe : Recipe Unit := (HookPath.tagged.recipe () .sha256).declaring 40
    let method := recipe.fill [] (Method.empty recipe.nid none)
    let start : Frame Unit Unit Unit (Recorded Unit) := { memory := ⟨(), []⟩ }
    let reached := backend.recorded.runAll method [.init, .update [1], .init, .finalize] start
    let dropped := (backend.recorded.cleanup method reached).2
    (dropped.log.filter (·.level = .error)).map LogRecord.message =
        ["Library call failed: hash_init (status: 5)", "Library call failed: hash_update (status: -1)",
          "Library call failed: hash_init (status: 5)"] ∧
      (dropped.log.filter (·.level = .warn)).map LogRecord.message =
        List.replicate 2 "Component cleanup failed: digest_cleanup (hash_free status: -9)" ∧
      FailsAsCalled backend.recorded .tagged method reached := by
  intro backend recipe method start reached dropped
  have built : (recipe.build Host.stock [] { memory := () }).1 = .ok ⟨0, method⟩ := rfl
  -- The second init frees the state of the first, and the drop frees the last.
  obtain ⟨errors, warnings, fails⟩ := failures_told backend
    Host.stock_stores.storesOrSkips Host.stock_givesEmpty built rfl ()
    [.init, .update [1], .init, .finalize]
  exact ⟨errors.trans (by decide +kernel), warnings.trans (by decide +kernel), fails⟩

end Backend

end DigestProvider
