import DigestProvider.Hook
import DigestProvider.Library.Scripted
import DigestProvider.Proofs.Library.Calls

/-!
The two kinds of entry points of the stock library are twins: on states that correspond they answer alike and leave
states that correspond, also where a schedule forces a status on both.
-/

namespace DigestProvider

/-- The hook that calls an entry point. -/
def EntryPoint.role : EntryPoint → HookRole
  | hashInit | initSha256 => .init
  | hashUpdate | sha256Update => .update
  | hashFinal | sha256Final => .final
  | hashFree | sha256Free => .cleanup

/-- Whether the calls of a hook are compared: where tagged cleanup makes none, those of cleanup are not. -/
def HookRole.seen (frees : Bool) (role : HookRole) : Bool :=
  frees || role ≠ .cleanup

/-- The calls of any hook but cleanup are compared. -/
theorem HookRole.seen_of_ne {role : HookRole} (other : role ≠ .cleanup) (frees : Bool) :
    role.seen frees = true := by
  -- Cleanup is the one hook whose calls may go uncompared.
  simp [seen, other]

/-- How many calls each hook has made. -/
abbrev CallCounts := HookRole → Nat

namespace CallCounts

/-- One more call by a hook. -/
def count (counts : CallCounts) (role : HookRole) : CallCounts := fun other =>
  if other = role then counts other + 1 else counts other

/-- The hooks that are compared have made as many calls as each other. -/
def Agree (frees : Bool) (counts others : CallCounts) : Prop :=
  ∀ role : HookRole, role.seen frees = true → counts role = others role

/-- One more call on both sides leaves them in agreement. -/
theorem Agree.count {frees : Bool} {counts others : CallCounts} (agree : Agree frees counts others)
    (role : HookRole) : Agree frees (counts.count role) (others.count role) := by
  -- The hook's own number goes up on both sides, and the others stay.
  intro other seen
  simp only [CallCounts.count, agree other seen]

/-- One more call that is not compared leaves them in agreement. -/
theorem Agree.countUnseen {frees : Bool} {counts others : CallCounts}
    (agree : Agree frees counts others) {role : HookRole} (unseen : role.seen frees = false) :
    Agree frees counts (others.count role) := by
  -- A hook that is compared is another one.
  intro other seen
  have apart : other ≠ role := by
    rintro rfl
    simp [unseen] at seen
  simp only [CallCounts.count, if_neg apart, agree other seen]

end CallCounts

/-- The statuses forced on the calls of each hook, by how many it has made before. Each call of a run has a place of its
own here, so that any choice of calls and statuses is a schedule. -/
abbrev Schedule := HookRole → Nat → Option LibStatus

/-- The script of a schedule counts calls, and does not tell tagged entry points from dedicated ones. -/
def Schedule.script (schedule : Schedule) : Script CallCounts := fun entry counts =>
  (schedule entry.role (counts entry.role), counts.count entry.role)

/-- The dedicated call that corresponds to a tagged one. -/
def LibraryCall.counterpart? : LibraryCall → Option LibraryCall
  | hashInit _ => some initSha256
  | hashUpdate _ length => some (sha256Update length)
  | hashFinal _ room => some (sha256Final room)
  | hashFree _ => some sha256Free
  | initSha256 | sha256Update _ | sha256Final _ | sha256Free => none

/-- Corresponding calls are made by the same hook. -/
theorem LibraryCall.role_of_counterpart? {call twin : LibraryCall}
    (corresponds : call.counterpart? = some twin) : call.entry.role = twin.entry.role := by
  -- Only the tagged calls have a counterpart.
  cases call with
  | hashInit _ | hashUpdate _ _ | hashFinal _ _ | hashFree _ =>
    cases corresponds
    rfl
  | initSha256 | sha256Update _ | sha256Final _ | sha256Free => cases corresponds

namespace CallRecord

/-- The corresponding call, with the same status. -/
def counterpart? (record : CallRecord) : Option CallRecord :=
  record.call.counterpart?.map fun call => ⟨call, record.status⟩

/-- Whether a call is compared. -/
def seen (frees : Bool) (record : CallRecord) : Bool :=
  record.call.entry.role.seen frees

/-- Dedicated calls, as far as they are compared, correspond to tagged ones: in order, with the same lengths and
statuses. -/
def Correspond (frees : Bool) (tagged dedicated : List CallRecord) : Prop :=
  tagged.map counterpart? = (dedicated.filter (seen frees)).map some

/-- One more call on each side that corresponds. -/
theorem Correspond.call {frees : Bool} {tagged dedicated : List CallRecord}
    (correspond : Correspond frees tagged dedicated) {call twin : LibraryCall}
    (twins : call.counterpart? = some twin) (seen : twin.entry.role.seen frees = true)
    (status : LibStatus) :
    Correspond frees (tagged ++ [⟨call, status⟩]) (dedicated ++ [⟨twin, status⟩]) := by
  -- The dedicated call passes the filter, and its counterpart has the same status.
  have kept : CallRecord.seen frees ⟨twin, status⟩ = true := seen
  simp only [Correspond] at correspond ⊢
  simp [correspond, kept, counterpart?, twins]

/-- One more dedicated call that is not compared. -/
theorem Correspond.callUnseen {frees : Bool} {tagged dedicated : List CallRecord}
    (correspond : Correspond frees tagged dedicated) {record : CallRecord}
    (unseen : record.seen frees = false) : Correspond frees tagged (dedicated ++ [record]) := by
  -- The filter drops the call, so the compared lists are the ones there were.
  simp only [Correspond] at correspond ⊢
  simp [correspond, unseen]

end CallRecord

/-- A tagged state corresponds to a dedicated one: both are empty, whatever the tag, or the same SHA-256 hash is in
progress in both, under its own tag. -/
inductive StockState.Twins : Tag → StockState → StockLibrary.DirectState → Prop where
  | empty (tag : Tag) : Twins tag .empty none
  | running (hasher : Algorithm.sha256.Running) :
    Twins (some .sha256) (.running .sha256 hasher) (some hasher)

/-- States that correspond under any tag do so when they are stamped with SHA-256. -/
theorem StockState.Twins.stamp {tag : Tag} {state : StockState} {other : StockLibrary.DirectState}
    (twins : StockState.Twins tag state other) : StockState.Twins (some .sha256) state other := by
  -- An empty state corresponds under any tag, and a hash in progress has this one already.
  cases twins with
  | empty => exact .empty _
  | running hasher => exact .running hasher

/-- Two calls returned alike, with states and memories that correspond. -/
structure Reply.Twins {First Second : Type} (alike : First → Second → Prop) (tag : Tag)
    (reply : Reply StockState First) (other : Reply StockLibrary.DirectState Second) : Prop where
  /-- The statuses are the same. -/
  status : reply.status = other.status
  /-- The states correspond. -/
  state : StockState.Twins tag reply.state other.state
  /-- So do the memories. -/
  memory : alike reply.memory other.memory

section Guards

variable {frees : Bool} {tag : Tag} {state : StockState} {other : StockLibrary.DirectState}
  {counts others : CallCounts}

/-- Calls that answer alike still do so under a schedule, since it forces the same status on both or none. -/
theorem Schedule.guard_twins (schedule : Schedule) {entry twin : EntryPoint}
    (roles : entry.role = twin.role) (seen : entry.role.seen frees = true)
    (agree : CallCounts.Agree frees counts others) (states : StockState.Twins tag state other)
    {call : CallCounts → Reply StockState CallCounts}
    {rival : CallCounts → Reply StockLibrary.DirectState CallCounts}
    (calls : ∀ counts others, CallCounts.Agree frees counts others →
      Reply.Twins (CallCounts.Agree frees) tag (call counts) (rival others)) :
    Reply.Twins (CallCounts.Agree frees) tag (schedule.script.guard entry state counts call)
      (schedule.script.guard twin other others rival) := by
  -- The schedule looks at the hook and the number of its calls, which are the same on both sides.
  have counted := agree.count entry.role
  unfold Script.guard script
  rw [← roles, ← agree entry.role seen]
  cases schedule entry.role (counts entry.role) with
  | some status => exact ⟨rfl, states, counted⟩
  | none => exact calls _ _ counted

/-- Likewise for calls that write into a buffer. -/
theorem Schedule.guardBuffer_twins (schedule : Schedule) {entry twin : EntryPoint}
    (roles : entry.role = twin.role) (seen : entry.role.seen frees = true)
    (agree : CallCounts.Agree frees counts others) (states : StockState.Twins tag state other)
    (buffer : Bytes) {call : CallCounts → Bytes × Reply StockState CallCounts}
    {rival : CallCounts → Bytes × Reply StockLibrary.DirectState CallCounts}
    (calls : ∀ counts others, CallCounts.Agree frees counts others →
      (call counts).1 = (rival others).1 ∧
        Reply.Twins (CallCounts.Agree frees) tag (call counts).2 (rival others).2) :
    (schedule.script.guardBuffer entry buffer state counts call).1 =
        (schedule.script.guardBuffer twin buffer other others rival).1 ∧
      Reply.Twins (CallCounts.Agree frees) tag
        (schedule.script.guardBuffer entry buffer state counts call).2
        (schedule.script.guardBuffer twin buffer other others rival).2 := by
  -- A call that is forced leaves the buffer alone on both sides.
  have counted := agree.count entry.role
  unfold Script.guardBuffer script
  rw [← roles, ← agree entry.role seen]
  cases schedule entry.role (counts entry.role) with
  | some status => exact ⟨rfl, rfl, states, counted⟩
  | none => exact calls _ _ counted

end Guards

/-- The memories of two recorded libraries correspond: in their counts, and in their calls. -/
structure Recorded.Twins (frees : Bool) (kept other : Recorded CallCounts) : Prop where
  /-- The counts agree. -/
  counts : CallCounts.Agree frees kept.memory other.memory
  /-- The calls correspond. -/
  calls : CallRecord.Correspond frees kept.calls other.calls

/-- Records of corresponding calls that returned alike correspond. -/
theorem Reply.Twins.recorded {frees : Bool} {tag : Tag} {reply : Reply StockState CallCounts}
    {other : Reply StockLibrary.DirectState CallCounts}
    (twins : Reply.Twins (CallCounts.Agree frees) tag reply other) {call twin : LibraryCall}
    (corresponds : call.counterpart? = some twin) (seen : twin.entry.role.seen frees = true)
    {tagged dedicated : List CallRecord}
    (correspond : CallRecord.Correspond frees tagged dedicated) :
    Reply.Twins (Recorded.Twins frees) tag (reply.recorded call tagged)
      (other.recorded twin dedicated) := by
  -- The two records hold the same status, since the replies do.
  obtain ⟨status, state, memory⟩ := twins
  refine ⟨status, state, memory, ?_⟩
  have called := correspond.call corresponds seen reply.status
  simp only [Reply.recorded, ← status]
  exact called

namespace Schedule

variable (schedule : Schedule)

/-- The stock library's tagged entry points under a schedule, with a record kept of each call. -/
def tagged : HashLibrary StockState (Recorded CallCounts) :=
  ((StockLibrary.tagged CallCounts).scripted schedule.script).recorded

/-- The stock library's dedicated entry points under a schedule, with a record kept of each call. -/
def direct : DirectSha256 StockLibrary.DirectState (Recorded CallCounts) :=
  ((StockLibrary.direct CallCounts).scripted schedule.script).recorded

variable {frees : Bool} {tag : Tag} {state : StockState} {other : StockLibrary.DirectState}
  {kept rest : Recorded CallCounts}

/-- Recorded calls under a schedule return alike if the library's own do. -/
theorem call_twins {call twin : LibraryCall} (corresponds : call.counterpart? = some twin)
    (seen : twin.entry.role.seen frees = true) (states : StockState.Twins tag state other)
    (memories : Recorded.Twins frees kept rest)
    {answer : CallCounts → Reply StockState CallCounts}
    {rival : CallCounts → Reply StockLibrary.DirectState CallCounts}
    (answers : ∀ counts others, CallCounts.Agree frees counts others →
      Reply.Twins (CallCounts.Agree frees) tag (answer counts) (rival others)) :
    Reply.Twins (Recorded.Twins frees) tag
      ((schedule.script.guard call.entry state kept.memory answer).recorded call kept.calls)
      ((schedule.script.guard twin.entry other rest.memory rival).recorded twin rest.calls) := by
  -- The schedule is behind the record on both sides, so the guarded replies are what is recorded.
  have roles := LibraryCall.role_of_counterpart? corresponds
  have guarded := schedule.guard_twins roles (roles ▸ seen) memories.counts states answers
  exact guarded.recorded corresponds seen memories.calls

/-- Both init calls start a SHA-256 hash, and where they are forced the tag is stamped on the state as it was. -/
theorem init_twins (states : StockState.Twins tag state other)
    (memories : Recorded.Twins frees kept rest) :
    Reply.Twins (Recorded.Twins frees) (some .sha256)
      (schedule.tagged.init (some .sha256) state kept) (schedule.direct.init other rest) := by
  -- Whatever was in progress is given up on both sides for a new SHA-256 hash.
  have corresponds : (LibraryCall.hashInit (some .sha256)).counterpart? = some .initSha256 := rfl
  have seen : HookRole.init.seen frees = true := HookRole.seen_of_ne (by decide) frees
  refine schedule.call_twins corresponds seen states.stamp memories ?_
  intro counts others agree
  exact ⟨rfl, .running _, agree⟩

/-- Both update calls absorb the bytes into a hash in progress, and refuse them without one. -/
theorem update_twins (data : Bytes) (states : StockState.Twins tag state other)
    (memories : Recorded.Twins frees kept rest) :
    Reply.Twins (Recorded.Twins frees) tag (schedule.tagged.update tag data state kept)
      (schedule.direct.update data other rest) := by
  have corresponds : (LibraryCall.hashUpdate tag data.length).counterpart? =
      some (.sha256Update data.length) := rfl
  have seen : HookRole.update.seen frees = true := HookRole.seen_of_ne (by decide) frees
  refine schedule.call_twins corresponds seen states memories ?_
  -- The tag is the one in progress if there is any hash in progress.
  intro counts others agree
  cases states with
  | empty => exact ⟨rfl, .empty tag, agree⟩
  | running hasher =>
    rw [StockLibrary.tagged_update_running]
    exact ⟨rfl, .running _, agree⟩

/-- Both final calls finish a hash in progress into the buffer if it has room, and refuse without one. -/
theorem final_twins (buffer : Bytes) (states : StockState.Twins tag state other)
    (memories : Recorded.Twins frees kept rest) :
    (schedule.tagged.final tag buffer state kept).1 =
        (schedule.direct.final buffer other rest).1 ∧
      Reply.Twins (Recorded.Twins frees) tag (schedule.tagged.final tag buffer state kept).2
        (schedule.direct.final buffer other rest).2 := by
  -- Without a hash both refuse; with one both finish it into the same buffer.
  have seen : HookRole.final.seen frees = true := HookRole.seen_of_ne (by decide) frees
  have corresponds : (LibraryCall.hashFinal tag buffer.length).counterpart? =
      some (.sha256Final buffer.length) := rfl
  have answers (counts others : CallCounts) (agree : CallCounts.Agree frees counts others) :
      ((StockLibrary.tagged CallCounts).final tag buffer state counts).1 =
          ((StockLibrary.direct CallCounts).final buffer other others).1 ∧
        Reply.Twins (CallCounts.Agree frees) tag
          ((StockLibrary.tagged CallCounts).final tag buffer state counts).2
          ((StockLibrary.direct CallCounts).final buffer other others).2 := by
    cases states with
    | empty => exact ⟨rfl, rfl, .empty tag, agree⟩
    | running hasher =>
      -- Both write by the same function, whether or not there is room.
      simp only [StockLibrary.tagged, StockLibrary.final, StockLibrary.direct, if_true, true_and]
      exact ⟨rfl, .running _, agree⟩
  obtain ⟨written, guarded⟩ := schedule.guardBuffer_twins (LibraryCall.role_of_counterpart?
    corresponds) seen memories.counts states buffer answers
  exact ⟨written, guarded.recorded corresponds seen memories.calls⟩

/-- Both free calls leave an empty state, under the tag that it had. -/
theorem free_twins (states : StockState.Twins tag state other)
    (memories : Recorded.Twins true kept rest) :
    Reply.Twins (Recorded.Twins true) tag (schedule.tagged.free tag state kept)
      (schedule.direct.free other rest) := by
  -- The states are emptied unless both calls are forced.
  have corresponds : (LibraryCall.hashFree tag).counterpart? = some .sha256Free := rfl
  refine schedule.call_twins corresponds rfl states memories ?_
  intro counts others agree
  exact ⟨rfl, .empty tag, agree⟩

/-- Where frees are not compared, a dedicated one alone leaves the memories in correspondence. -/
theorem free_unseen (other : StockLibrary.DirectState) (memories : Recorded.Twins false kept rest) :
    Recorded.Twins false kept (schedule.direct.free other rest).memory := by
  -- The counts that are compared leave the cleanup hook out, and so do the calls.
  obtain ⟨counts, calls⟩ := memories
  have counted : CallCounts.Agree false kept.memory (rest.memory.count .cleanup) :=
    counts.countUnseen rfl
  -- The call is counted and recorded whether or not it is forced.
  refine ⟨?_, calls.callUnseen rfl⟩
  simp only [direct, DirectSha256.recorded, DirectSha256.scripted, Reply.recorded, Script.guard,
    script, EntryPoint.role]
  cases schedule .cleanup (rest.memory .cleanup) with
  | some status => exact counted
  | none => exact counted

end Schedule

end DigestProvider
