import DigestProvider.Proofs.Context.FreeOnce
import DigestProvider.Proofs.Context.Lifecycle
import DigestProvider.Proofs.Context.Preserved
import DigestProvider.Proofs.Library.Twins

/-!
The two paths to SHA-256: a context on the tagged hooks and one on the dedicated hooks. Main statement: over the stock
library, whatever statuses a schedule forces, the two cannot be told apart by what they answer or by their calls.
-/

namespace DigestProvider

section Frames

variable {Library : Type} [DedicatedStates Library]

/-- Private states correspond: both are absent, or the one is of the library's tagged kind and the other of the
dedicated kind, with hash states that correspond. -/
def PrivateState.Twins (library : Library)
    (state other : Option (PrivateState Library StockState StockLibrary.DirectState)) : Prop :=
  -- The tag has no counterpart on the dedicated path, but the hash under it has.
  state = none ∧ other = none ∨
    ∃ tag hash hasher, state = some (.tagged library tag hash) ∧
      other = some (.ofType (typeOf library) hasher) ∧ StockState.Twins tag hash hasher

/-- Frames correspond, whatever their logs are. -/
structure Frame.Twins (library : Library) (frees : Bool)
    (frame other : Frame Library StockState StockLibrary.DirectState (Recorded CallCounts)) :
    Prop where
  /-- The private states correspond. -/
  state : PrivateState.Twins library frame.state other.state
  /-- So do the memories. -/
  memory : Recorded.Twins frees frame.memory other.memory

/-- Two outcomes have the same answer, and frames that correspond. -/
def Frame.Agree {Answer : Type} (library : Library) (frees : Bool)
    (one two : Answer × Frame Library StockState StockLibrary.DirectState (Recorded CallCounts)) :
    Prop :=
  one.1 = two.1 ∧ Frame.Twins library frees one.2 two.2

/-- Outcomes that agree still do when the same is made of their answers. -/
theorem Frame.Agree.map {Answer Result : Type} {library : Library} {frees : Bool}
    {one two : Answer × Frame Library StockState StockLibrary.DirectState (Recorded CallCounts)}
    (agree : Frame.Agree library frees one two) (make : Answer → Result) :
    Frame.Agree library frees (make one.1, one.2) (make two.1, two.2) :=
  -- The frames are not touched.
  ⟨congrArg make agree.1, agree.2⟩

end Frames

/-- Where cleanup is not compared, the calls that are compared are those that free nothing. -/
theorem CallRecord.seen_false : CallRecord.seen false = fun record => !record.call.isFree := by
  -- The frees are the calls of the cleanup hook.
  funext record
  obtain ⟨call, status⟩ := record
  cases call <;> rfl

namespace Schedule

/-- The stock library under a schedule, by every name, with a record kept of each call. -/
def backend (Library : Type) (schedule : Schedule) (callsFree : Bool) :
    Backend Library StockState StockLibrary.DirectState (Recorded CallCounts) :=
  (Backend.scripted Library schedule.script callsFree).recorded

variable {Library : Type} [DecidableEq Library] [DedicatedStates Library] {library : Library}
  {frees : Bool}
  {frame other : Frame Library StockState StockLibrary.DirectState (Recorded CallCounts)}
  (schedule : Schedule)

section Hooks

/-- The two init hooks agree. -/
theorem runInit_twins (twins : Frame.Twins library frees frame other) :
    Frame.Agree library frees
      ((schedule.backend Library frees).runInit (.tagged library .sha256) frame)
      ((schedule.backend Library frees).runInit (.direct library) other) := by
  -- Without private state both fail before the call; with it, the call settles the outcome on both sides.
  obtain ⟨⟨absent, alsoAbsent⟩ | ⟨tag, hash, hasher, held, alsoHeld, states⟩, memory⟩ := twins
  · rw [Backend.runInit_tagged_absent _ .sha256 (Frame.tagged?_of_none library absent),
      Backend.runInit_direct_absent _ (Frame.direct?_of_none (typeOf library) alsoAbsent)]
    exact ⟨rfl, .inl ⟨absent, alsoAbsent⟩, memory⟩
  · obtain ⟨status, state, memory⟩ := schedule.init_twins states memory
    rw [Backend.runInit_tagged _ .sha256 held, Backend.runInit_direct _ alsoHeld]
    exact ⟨congrArg (HostStatus.ofBool ·.isOk) status, .inr ⟨_, _, _, rfl, rfl, state⟩, memory⟩

/-- The two update hooks agree. -/
theorem runUpdate_twins (data : Bytes) (twins : Frame.Twins library frees frame other) :
    Frame.Agree library frees
      ((schedule.backend Library frees).runUpdate (.tagged library) data frame)
      ((schedule.backend Library frees).runUpdate (.direct library) data other) := by
  -- No call is made without private state, nor for an empty piece.
  obtain ⟨⟨absent, alsoAbsent⟩ | ⟨tag, hash, hasher, held, alsoHeld, states⟩, memory⟩ := twins
  · rw [Backend.runUpdate_tagged_absent _ data (Frame.tagged?_of_none library absent),
      Backend.runUpdate_direct_absent _ data (Frame.direct?_of_none (typeOf library) alsoAbsent)]
    exact ⟨rfl, .inl ⟨absent, alsoAbsent⟩, memory⟩
  · by_cases empty : data = []
    · subst empty
      rw [Backend.runUpdate_tagged_nil _ held, Backend.runUpdate_direct_nil _ alsoHeld]
      exact ⟨rfl, .inr ⟨tag, hash, hasher, held, alsoHeld, states⟩, memory⟩
    · obtain ⟨status, state, memory⟩ := schedule.update_twins data states memory
      rw [Backend.runUpdate_tagged _ held empty, Backend.runUpdate_direct _ alsoHeld empty]
      exact ⟨congrArg (HostStatus.ofBool ·.isOk) status, .inr ⟨_, _, _, rfl, rfl, state⟩, memory⟩

/-- The two final hooks agree, and leave the same in the buffer. -/
theorem runFinal_twins (buffer : Bytes) (twins : Frame.Twins library frees frame other) :
    let one := (schedule.backend Library frees).runFinal (.tagged library) buffer frame
    let two := (schedule.backend Library frees).runFinal (.direct library) buffer other
    one.1 = two.1 ∧ Frame.Agree library frees one.2 two.2 := by
  -- The buffer is written by the call alone.
  obtain ⟨⟨absent, alsoAbsent⟩ | ⟨tag, hash, hasher, held, alsoHeld, states⟩, memory⟩ := twins
  · rw [Backend.runFinal_tagged_absent _ buffer (Frame.tagged?_of_none library absent),
      Backend.runFinal_direct_absent _ buffer (Frame.direct?_of_none (typeOf library) alsoAbsent)]
    exact ⟨rfl, rfl, .inl ⟨absent, alsoAbsent⟩, memory⟩
  · obtain ⟨written, status, state, memory⟩ := schedule.final_twins buffer states memory
    rw [Backend.runFinal_tagged _ buffer held, Backend.runFinal_direct _ buffer alsoHeld]
    exact ⟨written, congrArg (HostStatus.ofBool ·.isOk) status, .inr ⟨_, _, _, rfl, rfl, state⟩,
      memory⟩

/-- The two cleanup hooks agree where the tagged one frees. -/
theorem runCleanup_twins (twins : Frame.Twins library true frame other) :
    Frame.Agree library true
      ((schedule.backend Library true).runCleanup (.tagged library) frame)
      ((schedule.backend Library true).runCleanup (.direct library) other) := by
  -- Both report success whatever the free returns.
  obtain ⟨⟨absent, alsoAbsent⟩ | ⟨tag, hash, hasher, held, alsoHeld, states⟩, memory⟩ := twins
  · rw [Backend.runCleanup_tagged_absent _ (Frame.tagged?_of_none library absent),
      Backend.runCleanup_direct_absent _ (Frame.direct?_of_none (typeOf library) alsoAbsent)]
    exact ⟨rfl, .inl ⟨absent, alsoAbsent⟩, memory⟩
  · obtain ⟨_, state, memory⟩ := schedule.free_twins states memory
    rw [Backend.runCleanup_tagged _ held rfl, Backend.runCleanup_direct _ alsoHeld]
    exact ⟨rfl, .inr ⟨_, _, _, rfl, rfl, state⟩, memory⟩

end Hooks

section Operations

variable {generic direct : Method Library}
  (prescribed : (Recipe.tagged library .sha256).Prescribes generic)
  (also : (Recipe.direct library).Prescribes direct)
include prescribed also

/-- The two cleanups agree, also where the dedicated one alone frees, since no state is left by either. -/
theorem cleanup_twins (twins : Frame.Twins library frees frame other) :
    Frame.Agree library frees ((schedule.backend Library frees).cleanup generic frame)
      ((schedule.backend Library frees).cleanup direct other) := by
  -- Where the tagged hook makes no call, the free of the other goes unseen.
  obtain ⟨absent, alsoAbsent⟩ | ⟨tag, hash, hasher, held, alsoHeld, states⟩ := twins.state
  · rw [Backend.cleanup_of_none _ generic absent, Backend.cleanup_of_none _ direct alsoAbsent]
    exact ⟨rfl, twins⟩
  · rw [Backend.cleanup_of_some _ prescribed held, Backend.cleanup_of_some _ also alsoHeld]
    cases frees with
    | true =>
      obtain ⟨status, after⟩ := schedule.runCleanup_twins twins
      exact ⟨status, .inl ⟨rfl, rfl⟩, after.memory⟩
    | false =>
      simp only [Recipe.tagged, Recipe.direct]
      rw [Backend.runCleanup_tagged_skipped _ held rfl, Backend.runCleanup_direct _ alsoHeld]
      exact ⟨rfl, .inl ⟨rfl, rfl⟩, schedule.free_unseen hasher twins.memory⟩

/-- The two allocations leave states that correspond. -/
theorem allocated_twins (twins : Frame.Twins library frees frame other) :
    Frame.Twins library frees
      ((schedule.backend Library frees).allocated (Recipe.tagged library .sha256) generic frame)
      ((schedule.backend Library frees).allocated (Recipe.direct library) direct other) := by
  -- Both begin without a hash in progress, and the tagged one without a tag.
  obtain ⟨_, _, memory⟩ := schedule.cleanup_twins prescribed also twins
  exact ⟨.inr ⟨none, .empty, none, rfl, rfl, .empty none⟩, memory⟩

/-- The two finalizations into a buffer agree, also where it is too short. -/
theorem finalizeInto_twins (buffer : Bytes) (twins : Frame.Twins library frees frame other) :
    Frame.Agree library frees
      ((schedule.backend Library frees).finalizeInto generic buffer frame)
      ((schedule.backend Library frees).finalizeInto direct buffer other) := by
  -- Both records declare the same digest length.
  by_cases short : buffer.length < Algorithm.sha256.digestSize
  · rw [Backend.finalizeInto_short _ prescribed short, Backend.finalizeInto_short _ also short]
    exact ⟨rfl, twins⟩
  · have room := Nat.not_lt.mp short
    obtain ⟨written, status, after⟩ := schedule.runFinal_twins buffer twins
    rw [Backend.finalizeInto_eq _ prescribed room, Backend.finalizeInto_eq _ also room]
    refine ⟨Prod.ext ?_ written, after⟩
    exact congrArg (fun status : HostStatus =>
      (status.check HookRole.final.name).map fun _ => Algorithm.sha256.digestSize) status

/-- An operation on both contexts has the same answer. -/
theorem run_twins (operation : Operation) (twins : Frame.Twins library frees frame other) :
    Frame.Agree library frees ((schedule.backend Library frees).run generic operation frame)
      ((schedule.backend Library frees).run direct operation other) := by
  -- Each answer is made of what the hooks report, in the same way for both records.
  cases operation with
  | allocate =>
    rw [Backend.run_allocate prescribed, Backend.run_allocate also]
    exact ⟨rfl, schedule.allocated_twins prescribed also twins⟩
  | init =>
    have hooks := schedule.runInit_twins (schedule.allocated_twins prescribed also twins)
    rw [Backend.run, Backend.run, Backend.init_eq _ prescribed, Backend.init_eq _ also]
    exact hooks.map fun status => OperationAnswer.done (status.check HookRole.init.name)
  | update data =>
    have hooks := schedule.runUpdate_twins data twins
    rw [Backend.run, Backend.run, Backend.update_eq _ prescribed, Backend.update_eq _ also]
    exact hooks.map fun status => OperationAnswer.done (status.check HookRole.update.name)
  | finalizeInto buffer =>
    have answers := schedule.finalizeInto_twins prescribed also buffer twins
    exact answers.map fun answer => OperationAnswer.written answer.1 answer.2
  | finalize =>
    have answers := schedule.finalizeInto_twins prescribed also
      (List.replicate Algorithm.sha256.digestSize 0) twins
    simp only [Backend.run, Backend.finalize, prescribed.resultSize, also.resultSize]
    exact answers.map fun answer =>
      OperationAnswer.digest (answer.1.map fun length => answer.2.take length)
  | cleanup =>
    have cleanups := schedule.cleanup_twins prescribed also twins
    exact cleanups.map OperationAnswer.released

/-- A step on both contexts has the same answer, if the two cleanup hooks are not called where only one frees. -/
theorem take_twins {step : ContextStep} (fair : frees = true ∨ step ≠ .cleanupHook)
    (twins : Frame.Twins library frees frame other) :
    Frame.Agree library frees ((schedule.backend Library frees).take generic step frame)
      ((schedule.backend Library frees).take direct step other) := by
  -- Both records have all four hooks set.
  cases step with
  | operate operation =>
    exact (schedule.run_twins prescribed also operation twins).map StepAnswer.operated
  | initHook =>
    simp only [Backend.take, prescribed.init, also.init, Option.map_some]
    exact (schedule.runInit_twins twins).map fun status => StepAnswer.hooked (some status) []
  | updateHook data =>
    simp only [Backend.take, prescribed.update, also.update, Option.map_some]
    exact (schedule.runUpdate_twins data twins).map fun status => StepAnswer.hooked (some status) []
  | finalHook buffer =>
    obtain ⟨written, status, after⟩ := schedule.runFinal_twins buffer twins
    simp only [Backend.take, prescribed.final, also.final, Recipe.tagged, Recipe.direct]
    refine ⟨?_, after⟩
    simp only [written, status]
  | cleanupHook =>
    obtain rfl : frees = true := by simpa using fair
    simp only [Backend.take, prescribed.cleanup, also.cleanup, Option.map_some]
    exact (schedule.runCleanup_twins twins).map fun status => StepAnswer.hooked (some status) []

/-- Steps one after another have the same answers. -/
theorem takeAll_twins {steps : List ContextStep}
    (fair : frees = true ∨ .cleanupHook ∉ steps)
    (twins : Frame.Twins library frees frame other) :
    Frame.Agree library frees ((schedule.backend Library frees).takeAll generic steps frame)
      ((schedule.backend Library frees).takeAll direct steps other) := by
  -- The induction is on the steps; each leaves frames that correspond, from which the rest goes on.
  induction steps generalizing frame other with
  | nil => exact ⟨rfl, twins⟩
  | cons step rest ih =>
    have first : frees = true ∨ step ≠ .cleanupHook :=
      fair.imp_right fun absent same => absent (same ▸ List.mem_cons_self)
    have later : frees = true ∨ .cleanupHook ∉ rest :=
      fair.imp_right fun absent member => absent (List.mem_cons_of_mem step member)
    obtain ⟨answer, next⟩ := schedule.take_twins prescribed also first twins
    obtain ⟨answers, after⟩ := ih later next
    refine ⟨?_, after⟩
    simp only [Backend.takeAll, answer, answers]

end Operations

/-- Over the stock library, with the same statuses forced on corresponding calls, the generic and the dedicated SHA-256
record answer every sequence of steps alike and make corresponding calls, in every build that frees; in any other, so
they do but for the frees, as long as the cleanup hook is left to the operations. -/
theorem sha256_paths_agree {generic direct : Record Library}
    (made : (Recipe.tagged library .sha256).Makes generic)
    (alsoMade : (Recipe.direct library).Makes direct) (callsFree : Bool) (log : List LogRecord) :
    let start : Frame Library StockState StockLibrary.DirectState (Recorded CallCounts) :=
      { memory := ⟨fun _ => 0, []⟩, log }
    let backend := (Backend.scripted Library schedule.script callsFree).recorded
    let one := fun steps => backend.takeAll generic.method steps start
    let two := fun steps => backend.takeAll direct.method steps start
    (callsFree = true → ∀ steps,
      (one steps).1 = (two steps).1 ∧
        (one steps).2.memory.calls.map CallRecord.counterpart? =
          (two steps).2.memory.calls.map some) ∧
    (callsFree = false → ∀ steps, .cleanupHook ∉ steps →
      (one steps).1 = (two steps).1 ∧
        (one steps).2.memory.calls.map CallRecord.counterpart? =
          ((two steps).2.memory.calls.filter fun record => !record.call.isFree).map some) := by
  intro start backend one two
  have prescribed := made.prescribes
  have also := alsoMade.prescribes
  have fresh : Frame.Twins library callsFree start start :=
    ⟨.inl ⟨rfl, rfl⟩, fun _ _ => rfl, rfl⟩
  constructor
  · rintro rfl steps
    have fair : true = true ∨ .cleanupHook ∉ steps := .inl rfl
    obtain ⟨answers, _, _, calls⟩ := schedule.takeAll_twins prescribed also fair fresh
    -- All calls are compared.
    have every : (two steps).2.memory.calls.filter (CallRecord.seen true) =
        (two steps).2.memory.calls := List.filter_eq_self.mpr fun _ _ => rfl
    rw [← every]
    exact ⟨answers, calls⟩
  · rintro rfl steps absent
    obtain ⟨answers, _, _, calls⟩ := schedule.takeAll_twins prescribed also (.inr absent) fresh
    rw [← CallRecord.seen_false]
    exact ⟨answers, calls⟩

/-- The first init call is forced to succeed without effect and the first free to fail, and still the two records
agree, whether or not the build frees. -/
theorem sha256_paths_agree_forced :
    let schedule : Schedule := fun role earlier =>
      if earlier = 0 then
        match role with
        | .init => some .ok
        | .cleanup => some ⟨-1⟩
        | .update | .final => none
      else none
    let record := fun recipe : Recipe Unit =>
      (⟨0, recipe.fill [] (Method.empty recipe.nid none)⟩ : Record Unit)
    let start : Frame Unit StockState StockLibrary.DirectState (Recorded CallCounts) :=
      { memory := ⟨fun _ => 0, []⟩, log := [] }
    let operations : List ContextStep :=
      [.operate .init, .operate (.update [97]), .operate .allocate, .operate .finalize]
    let steps : List ContextStep := operations ++ [.cleanupHook, .finalHook []]
    let after := fun callsFree recipe steps =>
      (Backend.scripted Unit schedule.script callsFree).recorded.takeAll (record recipe).method
        steps start
    let generic : Recipe Unit := .tagged () .sha256
    (after true generic steps).1 = (after true (.direct ()) steps).1 ∧
      (after true (.direct ()) steps).2.memory.calls.length = 6 ∧
      (after false generic operations).1 = (after false (.direct ()) operations).1 ∧
      (after false (.direct ()) operations).2.memory.calls.length = 4 := by
  intro schedule record start operations steps after generic
  have made : (Recipe.tagged () .sha256).Makes (record generic) :=
    ⟨Unit, Host.stock, [], { memory := () }, Host.stock_stores, rfl⟩
  have alsoMade : (Recipe.direct ()).Makes (record (.direct ())) :=
    ⟨Unit, Host.stock, [], { memory := () }, Host.stock_stores, rfl⟩
  obtain ⟨full, _⟩ := schedule.sha256_paths_agree made alsoMade true []
  obtain ⟨_, bare⟩ := schedule.sha256_paths_agree made alsoMade false []
  obtain ⟨answers, _⟩ := full rfl steps
  obtain ⟨others, _⟩ := bare rfl operations (by decide)
  exact ⟨answers, by rfl, others, by rfl⟩

end Schedule

end DigestProvider
