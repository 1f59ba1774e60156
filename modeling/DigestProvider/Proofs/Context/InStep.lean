import DigestProvider.Proofs.Context.TwoPaths

/-!
The tag in private state and the stock library's hash under it. Main statement: whatever calls a script settles, and
with whatever status, the tag is the algorithm's from the first init hook on until the next allocation, no hash is ever
in progress under another tag than its own, and so the library refuses an update or a finalization for its tag only
where no hash is in progress.
-/

namespace DigestProvider

namespace Script

variable {State Memory : Type} (script : Script Memory) (entry : EntryPoint) {state : State}

/-- What holds of a state as it is, and as the library leaves it, holds behind a guarded call. -/
theorem state_guard {Holds : State → Prop} (memory : Memory)
    {call : Memory → Reply State Memory} (kept : Holds state)
    (called : ∀ memory, Holds (call memory).state) :
    Holds (script.guard entry state memory call).state := by
  -- A call that is settled leaves the state as it is.
  unfold Script.guard
  split
  · exact kept
  · exact called _

/-- Likewise for a call that writes into a buffer. -/
theorem state_guardBuffer {Holds : State → Prop} (buffer : Bytes) (memory : Memory)
    {call : Memory → Bytes × Reply State Memory} (kept : Holds state)
    (called : ∀ memory, Holds (call memory).2.state) :
    Holds (script.guardBuffer entry buffer state memory call).2.state := by
  -- The buffer goes its own way and says nothing about the state.
  unfold Script.guardBuffer
  split
  · exact kept
  · exact called _

/-- A call that the script does not settle is the library's. -/
theorem guard_of_passed {memory : Memory} (passed : (script entry memory).1 = none) (state : State)
    (call : Memory → Reply State Memory) :
    ∃ after, script.guard entry state memory call = call after := by
  -- The library is called with whatever the script remembers after it was asked.
  rcases asked : script entry memory with ⟨answer, after⟩
  obtain rfl : answer = none := by rwa [asked] at passed
  exact ⟨after, by simp only [Script.guard, asked]⟩

/-- Likewise for a call that writes into a buffer. -/
theorem guardBuffer_of_passed {memory : Memory} (passed : (script entry memory).1 = none)
    (buffer : Bytes) (state : State) (call : Memory → Bytes × Reply State Memory) :
    ∃ after, script.guardBuffer entry buffer state memory call = call after := by
  -- What the script remembers is again all that it adds to the call.
  rcases asked : script entry memory with ⟨answer, after⟩
  obtain rfl : answer = none := by rwa [asked] at passed
  exact ⟨after, by simp only [Script.guardBuffer, asked]⟩

end Script

/-- A hash state is in step with the tag it is kept under: the tag is none or the algorithm's, and any hash in progress
is the algorithm's, under its tag. -/
def StockState.InStep (algorithm : Algorithm) (tag : Tag) (hash : StockState) : Prop :=
  -- The tag may be ahead of the hash, which has to be begun by an init call first, but never behind it.
  (tag = none ∨ tag = some algorithm) ∧
    (hash = .empty ∨ tag = some algorithm ∧ ∃ hasher, hash = .running algorithm hasher)

/-- No hash in step is of another algorithm than its tag. -/
theorem StockState.InStep.tag_eq {algorithm : Algorithm} {tag : Tag} {hash : StockState}
    (inStep : hash.InStep algorithm tag) : hash.tag = none ∨ hash.tag = tag := by
  -- An empty state has no algorithm, and a hash in progress is under its own tag.
  obtain ⟨_, rfl | ⟨rfl, hasher, rfl⟩⟩ := inStep
  · exact .inl rfl
  · exact .inr rfl

namespace StockLibrary

variable {algorithm : Algorithm} {tag : Tag} {hash : StockState}

/-- Nothing is in progress to be out of step. -/
theorem inStep_empty (tagged : tag = none ∨ tag = some algorithm) :
    StockState.empty.InStep algorithm tag :=
  -- Only a hash in progress could contradict the tag.
  ⟨tagged, .inl rfl⟩

/-- A hash of the algorithm is in step with its tag. -/
theorem inStep_running (hasher : algorithm.Running) :
    (StockState.running algorithm hasher).InStep algorithm (some algorithm) :=
  -- Tag and hash name the same algorithm.
  ⟨.inr rfl, .inr ⟨rfl, hasher, rfl⟩⟩

/-- Stamping the algorithm leaves the state in step, whether or not the init call that follows does anything. -/
theorem inStep_stamp (inStep : hash.InStep algorithm tag) :
    hash.InStep algorithm (some algorithm) := by
  -- A hash in progress was begun by the algorithm's own init call, so the stamp is the tag that it had.
  obtain ⟨_, rfl | ⟨_, hasher, rfl⟩⟩ := inStep
  · exact inStep_empty (.inr rfl)
  · exact inStep_running hasher

/-- An update call under the tag held leaves the state in step. -/
theorem inStep_update (data : Bytes) (inStep : hash.InStep algorithm tag) :
    (update tag data hash).2.InStep algorithm tag := by
  -- A hash in progress is led on, for it is under its own tag.
  obtain ⟨tagged, rfl | ⟨rfl, hasher, rfl⟩⟩ := inStep
  · exact inStep_empty tagged
  · -- The tags agree, so the call is served and the hash stays one of the algorithm's.
    simp only [update, if_true]
    exact inStep_running _

/-- A final call under the tag held leaves the state in step. -/
theorem inStep_final (buffer : Bytes) (inStep : hash.InStep algorithm tag) :
    (final tag buffer hash).2.2.InStep algorithm tag := by
  -- A hash that is finished starts anew under the tag, and with too little room it is left alone.
  obtain ⟨tagged, rfl | ⟨rfl, hasher, rfl⟩⟩ := inStep
  · exact inStep_empty tagged
  · simp only [final, if_true]
    exact inStep_running _

/-- An update call on a state in step is refused for its tag only where no hash is in progress. -/
theorem empty_of_update_refused {data : Bytes} (inStep : hash.InStep algorithm tag)
    (refused : (update tag data hash).1 = .badArgument) : hash = .empty := by
  -- A hash in progress is under its own tag, so the library has nothing to refuse.
  obtain ⟨_, empty | ⟨rfl, hasher, rfl⟩⟩ := inStep
  · exact empty
  · simp only [update, if_true] at refused
    exact absurd refused (by decide)

/-- A final call on a state in step is refused for its tag only where no hash is in progress. -/
theorem empty_of_final_refused {buffer : Bytes} (inStep : hash.InStep algorithm tag)
    (refused : (final tag buffer hash).1 = .badArgument) : hash = .empty := by
  -- As for updates, the tag of a hash in progress is the one that the library looks for.
  obtain ⟨_, empty | ⟨rfl, hasher, rfl⟩⟩ := inStep
  · exact empty
  · -- A hash in progress complains of nothing but the room.
    have others : LibStatus.bufferTooShort ≠ .badArgument ∧ LibStatus.ok ≠ .badArgument := by decide
    simp only [final, Algorithm.finishInto, if_true] at refused
    split at refused
    · exact absurd refused others.1
    · exact absurd refused others.2

end StockLibrary

/-- The tag that a call is given, if its entry point takes one. -/
def LibraryCall.tag? : LibraryCall → Option Tag
  | hashInit tag | hashUpdate tag _ | hashFinal tag _ | hashFree tag => some tag
  | initSha256 | sha256Update _ | sha256Final _ | sha256Free => none

section Frames

variable {Library Memory : Type}

/-- Private state is in step with what is held: it is absent, or kept under the tag held. -/
def Frame.InStep (library : Library) (algorithm : Algorithm) (held : Option Tag)
    (frame : Frame Library StockState StockLibrary.DirectState Memory) : Prop :=
  -- State of another library's or of a dedicated kind is in step with nothing.
  match held with
  | none => frame.state = none
  | some tag =>
    ∃ hash, frame.state = some (.tagged library tag hash) ∧ hash.InStep algorithm tag

/-- The tag that private state is kept under, if it is of a tagged kind. -/
def Frame.tag? (frame : Frame Library StockState StockLibrary.DirectState Memory) : Option Tag :=
  match frame.state with
  | some (.tagged _ tag _) => some tag
  | _ => none

/-- The tag in private state is the tag held. -/
theorem Frame.InStep.tag?_eq {library : Library} {algorithm : Algorithm} {held : Option Tag}
    {frame : Frame Library StockState StockLibrary.DirectState Memory}
    (inStep : frame.InStep library algorithm held) : frame.tag? = held := by
  -- What is held says whether there is private state, and under which tag.
  cases held with
  | none =>
    have free : frame.state = none := inStep
    rw [Frame.tag?, free]
  | some tag =>
    obtain ⟨hash, state, _⟩ := inStep
    rw [Frame.tag?, state]

/-- A call is made under the tag held, on a hash state that is not of another algorithm; unless the script settles it,
the library refuses the argument only where no hash is in progress. -/
def CallRecord.Agrees (library : Library) (script : Script Memory)
    (frame : Frame Library StockState StockLibrary.DirectState (Recorded Memory))
    (record : CallRecord) : Prop :=
  -- The frame is the one before the call: the state is as the call finds it.
  ∃ tag hash, frame.state = some (.tagged library tag hash) ∧ record.call.tag? = some tag ∧
    (hash.tag = none ∨ hash.tag = tag) ∧
    ((script record.call.entry frame.memory.memory).1 = none →
      record.status = .badArgument → hash = .empty)

/-- Whatever update and final calls are made between two frames agree with the private state that they are made on. -/
def Frame.CallsAgree (library : Library) (script : Script Memory)
    (before after : Frame Library StockState StockLibrary.DirectState (Recorded Memory)) : Prop :=
  ∃ made, after.memory.calls = before.memory.calls ++ made ∧
    ∀ record ∈ made, record.call.entry = .hashUpdate ∨ record.call.entry = .hashFinal →
      record.Agrees library script before

/-- Whatever calls are made between two frames are those of init and cleanup hooks. -/
def Frame.CallsOthers
    (before after : Frame Library StockState StockLibrary.DirectState (Recorded Memory)) : Prop :=
  ∃ made, after.memory.calls = before.memory.calls ++ made ∧
    ∀ record ∈ made, record.call.entry = .hashInit ∨ record.call.entry = .hashFree

namespace Frame.CallsOthers

variable
  {before between after : Frame Library StockState StockLibrary.DirectState (Recorded Memory)}

/-- There may be no calls at all. -/
theorem none (calls : after.memory.calls = before.memory.calls) : Frame.CallsOthers before after :=
  -- An empty run of calls has no member to ask about.
  ⟨[], by rw [calls, List.append_nil], List.forall_mem_nil _⟩

/-- There may be one. -/
theorem one {record : CallRecord} (calls : after.memory.calls = before.memory.calls ++ [record])
    (other : record.call.entry = .hashInit ∨ record.call.entry = .hashFree) :
    Frame.CallsOthers before after :=
  -- The calls made are just this one.
  ⟨[record], calls, List.forall_mem_singleton.mpr other⟩

/-- Further ones may follow. -/
theorem trans (first : Frame.CallsOthers before between)
    (second : Frame.CallsOthers between after) : Frame.CallsOthers before after := by
  -- The calls of the second stretch are put behind those of the first.
  obtain ⟨made, calls, others⟩ := first
  obtain ⟨more, further, likewise⟩ := second
  exact ⟨made ++ more, by rw [further, calls, List.append_assoc],
    List.forall_mem_append.mpr ⟨others, likewise⟩⟩

end Frame.CallsOthers

namespace Frame.CallsAgree

variable {library : Library} {script : Script Memory}
  {before after : Frame Library StockState StockLibrary.DirectState (Recorded Memory)}

/-- No calls agree with anything. -/
theorem none (calls : after.memory.calls = before.memory.calls) :
    Frame.CallsAgree library script before after :=
  -- Nothing was called, so nothing can disagree.
  ⟨[], by rw [calls, List.append_nil], List.forall_mem_nil _⟩

/-- One call. -/
theorem one {record : CallRecord} (calls : after.memory.calls = before.memory.calls ++ [record])
    (agrees : record.Agrees library script before) :
    Frame.CallsAgree library script before after :=
  -- The only call made is the one that is known to agree.
  ⟨[record], calls, List.forall_mem_singleton.mpr fun _ => agrees⟩

/-- Calls that neither update nor finalize. -/
theorem others (others : Frame.CallsOthers before after) :
    Frame.CallsAgree library script before after := by
  -- Init and free calls are none that would have to agree.
  obtain ⟨made, calls, others⟩ := others
  refine ⟨made, calls, fun record member absorbs => ?_⟩
  -- The record's entry point cannot be of both sorts.
  rcases others record member with other | other <;> simp [other] at absorbs

end Frame.CallsAgree

end Frames

namespace Backend

variable {Library Memory : Type} [DecidableEq Library] [DedicatedStates Library] {library : Library}
  {algorithm : Algorithm} (script : Script Memory) (callsFree : Bool) {size : Nat}
  {method : Method Library} {held : Option Tag}
  {frame : Frame Library StockState StockLibrary.DirectState (Recorded Memory)}

section Hooks

/-- The init hook stamps the algorithm on private state, if there is any. -/
theorem runInit_inStep (inStep : frame.InStep library algorithm held) :
    let after := ((scripted Library script callsFree).recorded.runInit (.tagged library algorithm)
      frame).2
    after.InStep library algorithm (held.map fun _ => some algorithm) ∧
      Frame.CallsOthers frame after := by
  -- Without private state there is nothing to stamp, and the hook fails before any call.
  cases held with
  | none =>
    rw [runInit_tagged_absent _ algorithm (Frame.tagged?_of_none library inStep)]
    exact ⟨inStep, .none rfl⟩
  | some tag =>
    obtain ⟨hash, state, fits⟩ := inStep
    rw [runInit_tagged _ algorithm state]
    refine ⟨⟨_, rfl, ?_⟩, .one rfl (.inl rfl)⟩
    -- The tag is stamped before the call, which may be settled without effect.
    exact script.state_guard .hashInit frame.memory.memory (StockLibrary.inStep_stamp fits)
      fun _ => StockLibrary.inStep_running _

/-- The update hook leaves private state in step under the tag held, with which its call agrees. -/
theorem runUpdate_inStep (data : Bytes) (inStep : frame.InStep library algorithm held) :
    let after := ((scripted Library script callsFree).recorded.runUpdate (.tagged library) data
      frame).2
    after.InStep library algorithm held ∧ Frame.CallsAgree library script frame after := by
  -- The hook hands the piece on under the tag that it finds.
  cases held with
  | none =>
    rw [runUpdate_tagged_absent _ data (Frame.tagged?_of_none library inStep)]
    exact ⟨inStep, .none rfl⟩
  | some tag =>
    obtain ⟨hash, state, fits⟩ := inStep
    by_cases empty : data = []
    · -- An empty piece is not handed on at all.
      rw [empty, runUpdate_tagged_nil _ state]
      exact ⟨⟨hash, state, fits⟩, .none rfl⟩
    · rw [runUpdate_tagged _ state empty]
      refine ⟨⟨_, rfl, ?_⟩, .one rfl ⟨tag, hash, state, rfl, fits.tag_eq, ?_⟩⟩
      · -- Settled or served, the call leaves the hash under its tag.
        exact script.state_guard .hashUpdate frame.memory.memory fits
          fun _ => StockLibrary.inStep_update data fits
      · -- The refusal is the library's own, since the script let the call pass.
        intro passed refused
        obtain ⟨after, call⟩ := script.guard_of_passed .hashUpdate passed hash
          ((StockLibrary.tagged Memory).update tag data hash)
        have status : (StockLibrary.update tag data hash).1 = .badArgument :=
          (congrArg Reply.status call).symm.trans refused
        exact StockLibrary.empty_of_update_refused fits status

/-- The final hook leaves private state in step under the tag held, with which its call agrees. -/
theorem runFinal_inStep (buffer : Bytes) (inStep : frame.InStep library algorithm held) :
    let after := ((scripted Library script callsFree).recorded.runFinal (.tagged library) buffer
      frame).2.2
    after.InStep library algorithm held ∧ Frame.CallsAgree library script frame after := by
  -- The hook has the hash finished under the tag that it finds.
  cases held with
  | none =>
    rw [runFinal_tagged_absent _ buffer (Frame.tagged?_of_none library inStep)]
    exact ⟨inStep, .none rfl⟩
  | some tag =>
    obtain ⟨hash, state, fits⟩ := inStep
    rw [runFinal_tagged _ buffer state]
    refine ⟨⟨_, rfl, ?_⟩, .one rfl ⟨tag, hash, state, rfl, fits.tag_eq, ?_⟩⟩
    · -- Whoever settles the call, it is under the tag that is held.
      exact script.state_guardBuffer .hashFinal buffer frame.memory.memory fits
        fun _ => StockLibrary.inStep_final buffer fits
    · -- Again the refusal can only be the library's own.
      intro passed refused
      obtain ⟨after, call⟩ := script.guardBuffer_of_passed .hashFinal passed buffer hash
        ((StockLibrary.tagged Memory).final tag buffer hash)
      have status : (StockLibrary.final tag buffer hash).1 = .badArgument :=
        (congrArg (·.2.status) call).symm.trans refused
      exact StockLibrary.empty_of_final_refused fits status

/-- The cleanup hook leaves private state in step under the tag held, whether or not its free does anything. -/
theorem runCleanup_inStep (inStep : frame.InStep library algorithm held) :
    let after := ((scripted Library script callsFree).recorded.runCleanup (.tagged library) frame).2
    after.InStep library algorithm held ∧ Frame.CallsOthers frame after := by
  -- The hook clears the hash but not the tag.
  cases held with
  | none =>
    rw [runCleanup_tagged_absent _ (Frame.tagged?_of_none library inStep)]
    exact ⟨inStep, .none rfl⟩
  | some tag =>
    obtain ⟨hash, state, fits⟩ := inStep
    cases callsFree with
    | true =>
      -- The free leaves an empty state, or the hash as it was where the script settles it.
      rw [runCleanup_tagged _ state rfl]
      refine ⟨⟨_, rfl, ?_⟩, .one rfl (.inr rfl)⟩
      exact script.state_guard .hashFree frame.memory.memory fits
        fun _ => StockLibrary.inStep_empty fits.1
    | false =>
      -- In a build without frees the hook makes no call.
      rw [runCleanup_tagged_skipped _ state rfl]
      exact ⟨⟨hash, state, fits⟩, .none rfl⟩

end Hooks

end Backend

/-- The tag of private state behind a step, by the tag before it: none behind an allocation, the algorithm's behind an
init hook, and otherwise the same. -/
def ContextStep.tagging (algorithm : Algorithm) (held : Option Tag) : ContextStep → Option Tag
  | .operate .allocate => some none
  | .operate .init => some (some algorithm)
  | .operate .cleanup => none
  -- A hook needs private state to stamp.
  | .initHook => held.map fun _ => some algorithm
  | .operate (.update _) | .operate (.finalizeInto _) | .operate .finalize => held
  | .updateHook _ | .finalHook _ | .cleanupHook => held

namespace Backend

section Steps

variable {Library Memory : Type} [DecidableEq Library] [DedicatedStates Library] {library : Library}
  {algorithm : Algorithm} (script : Script Memory) (callsFree : Bool) {size : Nat}
  {method : Method Library} {held : Option Tag}
  {frame : Frame Library StockState StockLibrary.DirectState (Recorded Memory)}
  (prescribed : ((Recipe.tagged library algorithm).declaring size).Prescribes method)
include prescribed

/-- A cleanup makes no calls but the cleanup hook's. -/
theorem cleanup_callsOthers (inStep : frame.InStep library algorithm held) :
    Frame.CallsOthers frame
      ((scripted Library script callsFree).recorded.cleanup method frame).2 := by
  -- Whether there is private state decides if the hook is run.
  cases allocated : frame.state with
  | none =>
    rw [cleanup_of_none _ method allocated]
    exact .none rfl
  | some state =>
    rw [cleanup_of_some _ prescribed allocated]
    exact (runCleanup_inStep script callsFree inStep).2

/-- Private state just allocated is in step, under no tag. -/
theorem allocated_inStep (inStep : frame.InStep library algorithm held) :
    let after := (scripted Library script callsFree).recorded.allocated
      ((Recipe.tagged library algorithm).declaring size) method frame
    after.InStep library algorithm (some none) ∧ Frame.CallsOthers frame after :=
  -- The state before goes through cleanup, and the new one is empty and without a tag.
  ⟨⟨.empty, rfl, StockLibrary.inStep_empty (.inl rfl)⟩,
    cleanup_callsOthers script callsFree prescribed inStep⟩

/-- A step leaves private state in step under the tag that follows, with which its calls agree. -/
theorem take_inStep (step : ContextStep) (inStep : frame.InStep library algorithm held) :
    let after := ((scripted Library script callsFree).recorded.take method step frame).2
    after.InStep library algorithm (step.tagging algorithm held) ∧
      Frame.CallsAgree library script frame after := by
  -- The record has all four hooks, and none of the host's checks but the one for room stands in their way.
  cases step with
  | operate operation =>
    cases operation with
    -- Allocation and cleanup make none of the calls that have to agree.
    | allocate =>
      obtain ⟨fresh, others⟩ := allocated_inStep script callsFree
        prescribed inStep
      simp only [take, run_allocate prescribed]
      exact ⟨fresh, .others others⟩
    | init =>
      obtain ⟨fresh, others⟩ := allocated_inStep script callsFree
        prescribed inStep
      obtain ⟨stamped, more⟩ := runInit_inStep script callsFree fresh
      simp only [take, run, init_eq _ prescribed]
      exact ⟨stamped, .others (others.trans more)⟩
    | update data =>
      simp only [take, run, update_eq _ prescribed]
      exact runUpdate_inStep script callsFree data inStep
    | finalizeInto buffer =>
      -- A buffer that is too short is turned back by the host, before the hook.
      by_cases short : buffer.length < size
      · simp only [take, run_finalizeInto_short prescribed short]
        exact ⟨inStep, .none rfl⟩
      · simp only [take, run, finalizeInto_eq _ prescribed (Nat.not_lt.mp short)]
        exact runFinal_inStep script callsFree buffer inStep
    | finalize =>
      simp only [take, run, finalize_eq _ prescribed]
      exact runFinal_inStep script callsFree _ inStep
    | cleanup =>
      exact ⟨state_cleanup _ method frame,
        .others (cleanup_callsOthers script callsFree prescribed inStep)⟩
  -- The hooks called directly do what the operations do, without the host's checks.
  | initHook =>
    simp only [take, prescribed.init, Option.map_some]
    obtain ⟨stamped, others⟩ := runInit_inStep script callsFree inStep
    exact ⟨stamped, .others others⟩
  | updateHook data =>
    simp only [take, prescribed.update, Option.map_some]
    exact runUpdate_inStep script callsFree data inStep
  | finalHook buffer =>
    simp only [take, prescribed.final]
    exact runFinal_inStep script callsFree buffer inStep
  | cleanupHook =>
    simp only [take, prescribed.cleanup, Option.map_some]
    obtain ⟨kept, others⟩ := runCleanup_inStep script callsFree inStep
    exact ⟨kept, .others others⟩

/-- Steps one after another leave private state in step under the tag that follows from them all. -/
theorem takeAll_inStep (steps : List ContextStep) (inStep : frame.InStep library algorithm held) :
    ((scripted Library script callsFree).recorded.takeAll method steps frame).2.InStep library
      algorithm (steps.foldl (ContextStep.tagging algorithm) held) := by
  -- The induction is on the steps; each leaves private state in step for the rest.
  induction steps generalizing frame held with
  | nil => exact inStep
  | cons step rest ih => exact ih (take_inStep script callsFree prescribed step inStep).1

end Steps

section Runs

/-- The last step is taken behind all others. -/
theorem takeAll_concat {Library State Direct Memory : Type} [DecidableEq Library]
    [DedicatedStates Library]
    (backend : Backend Library State Direct Memory) (method : Method Library)
    (steps : List ContextStep) (last : ContextStep) (frame : Frame Library State Direct Memory) :
    (backend.takeAll method (steps ++ [last]) frame).2 =
      (backend.take method last (backend.takeAll method steps frame).2).2 := by
  -- The steps in front are taken first, wherever the list is cut.
  induction steps generalizing frame with
  | nil => rfl
  | cons step rest ih => exact ih _

variable {Library Memory : Type} [DecidableEq Library] [DedicatedStates Library] {library : Library}
  {algorithm : Algorithm} {size : Nat}

/-- Over the stock library, whatever calls a script settles and with whatever statuses, private state on a record of the
algorithm's is at all times kept under no tag or the algorithm's, with no hash in progress but one of the algorithm
under its own tag. The tag changes as the steps have it, whatever their calls return, and update and final calls are
made under the tag held, so that the library refuses one for its tag only where no hash is in progress. -/
theorem tag_in_step {record : Record Library}
    (made : ((Recipe.tagged library algorithm).declaring size).Makes record)
    (script : Script Memory) (callsFree : Bool) (memory : Memory) (log : List LogRecord)
    (steps : List ContextStep) :
    let backend := (scripted Library script callsFree).recorded
    let start : Frame Library StockState StockLibrary.DirectState (Recorded Memory) :=
  -- A context starts without private state, which is in step with nothing being held.
      { memory := ⟨memory, []⟩, log }
    let after := fun steps => (backend.takeAll record.method steps start).2
    (∀ state, (after steps).state = some state →
      ∃ tag hash, state = .tagged library tag hash ∧ hash.InStep algorithm tag) ∧
    ∀ step,
      (after (steps ++ [step])).tag? = step.tagging algorithm (after steps).tag? ∧
      Frame.CallsAgree library script (after steps) (after (steps ++ [step])) := by
  intro backend start after
  have prescribed := made.prescribes
  have fresh : start.InStep library algorithm none := rfl
  have inStep : (after steps).InStep library algorithm _ :=
    takeAll_inStep script callsFree prescribed steps fresh
  refine ⟨fun state allocated => ?_, fun step => ?_⟩
  · -- What is held after all the steps says what private state there is.
    generalize steps.foldl (ContextStep.tagging algorithm) none = held at inStep
    cases held with
    | none =>
      have free : (after steps).state = none := inStep
      rw [free] at allocated
      cases allocated
    | some tag =>
      obtain ⟨hash, kept, fits⟩ := inStep
      exact ⟨tag, hash, Option.some.inj (allocated.symm.trans kept), fits⟩
  · -- One more step starts where those before it have ended.
    have next : after (steps ++ [step]) = (backend.take record.method step (after steps)).2 :=
      takeAll_concat backend record.method steps step start
    obtain ⟨follows, agree⟩ := take_inStep script callsFree prescribed
      step inStep
    rw [next, inStep.tag?_eq]
    exact ⟨follows.tag?_eq, agree⟩

/-- The first init call is settled as a success without effect: the tag is stamped all the same, and the library refuses
the update that follows, for no hash is in progress. -/
theorem tag_in_step_without_hash :
    let script : Script Nat := fun entry earlier =>
      (if entry = .hashInit ∧ earlier = 0 then some .ok else none, earlier + 1)
    let recipe : Recipe Unit := (Recipe.tagged () .sha256).declaring 32
    let method := recipe.fill [] (Method.empty recipe.nid none)
    let start : Frame Unit StockState StockLibrary.DirectState (Recorded Nat) :=
      { memory := ⟨0, []⟩, log := [] }
    let after := fun steps =>
      ((scripted Unit script true).recorded.takeAll method steps start).2
    (after [.operate .init, .updateHook [1]]).tag? = some (some .sha256) ∧
      Frame.CallsAgree () script (after [.operate .init]) (after [.operate .init, .updateHook [1]]) ∧
      (after [.operate .init, .updateHook [1]]).memory.calls.map CallRecord.status =
        [.ok, .badArgument] := by
  intro script recipe method start after
  -- The record is one that the stock host would have completed.
  have made : recipe.Makes ⟨0, method⟩ :=
    ⟨Unit, Host.stock, [], { memory := () }, Host.stock_stores, rfl⟩
  obtain ⟨_, steps⟩ := tag_in_step made script true 0 [] [.operate .init]
  obtain ⟨tagged, agree⟩ := steps (.updateHook [1])
  exact ⟨tagged, agree, rfl⟩

end Runs

end Backend

end DigestProvider
