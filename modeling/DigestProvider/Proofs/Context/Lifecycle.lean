import DigestProvider.Proofs.Context.Prescribed
import DigestProvider.Proofs.Library.Forced

/-!
The life of a context as its user sees it: a machine of three phases, which each operation on a tag-dispatching
method follows over a stock library whose calls may be made to fail.
-/

namespace DigestProvider

/-- The phases in the life of a context. -/
inductive Phase where
  /-- There is no private state. -/
  | unallocated
  /-- There is private state, and no hash is in progress. -/
  | idle
  /-- A hash is in progress, and has absorbed these bytes. -/
  | running (message : Bytes)
  deriving DecidableEq, Repr

namespace Phase

/-- The digest that finalization gives out, if any; the hash then starts anew. -/
def final (algorithm : Algorithm) (forced : List EntryPoint) : Phase → Option Bytes × Phase
  | running message =>
    if .hashFinal ∈ forced then (none, running message)
    else (some (algorithm.digest message), running [])
  | phase => (none, phase)

/-- What an operation answers and the phase it leads to, given the calls that were made to fail meanwhile. -/
def step (algorithm : Algorithm) (forced : List EntryPoint) (operation : Operation)
    (phase : Phase) : OperationAnswer × Phase :=
  match operation with
  -- What was allocated before is given back whatever the phase was.
  | .allocate => (.done (.ok ()), idle)
  | .init =>
    if .hashInit ∈ forced then (.done (.error (.operationFailed "init")), idle)
    else (.done (.ok ()), running [])
  | .update data =>
    match phase with
    | unallocated => (.done (.error (.operationFailed "update")), unallocated)
    | idle =>
      -- No bytes are no reason to complain.
      if data = [] then (.done (.ok ()), idle)
      else (.done (.error (.operationFailed "update")), idle)
    | running message =>
      if .hashUpdate ∈ forced then
        (.done (.error (.operationFailed "update")), running message)
      else (.done (.ok ()), running (message ++ data))
  | .finalizeInto buffer =>
    -- The room is checked before the phase.
    if buffer.length < algorithm.digestSize then
      (.written (.error (.bufferTooSmall algorithm.digestSize buffer.length)) buffer, phase)
    else
      match phase.final algorithm forced with
      | (some digest, next) =>
        (.written (.ok algorithm.digestSize) (Bytes.writeFront digest buffer), next)
      | (none, next) => (.written (.error (.operationFailed "final")) buffer, next)
  | .finalize =>
    match phase.final algorithm forced with
    | (some digest, next) => (.digest (.ok digest), next)
    | (none, next) => (.digest (.error (.operationFailed "final")), next)
  | .cleanup => (.released .success, unallocated)

/-- The answers to operations one after another, each given with the calls that were made to fail meanwhile. -/
def answers (algorithm : Algorithm) : Phase → List (Operation × List EntryPoint) →
    List OperationAnswer
  | _, [] => []
  -- Each operation starts from the phase that the one before it led to.
  | phase, (operation, forced) :: rest =>
    (phase.step algorithm forced operation).1 ::
      answers algorithm (phase.step algorithm forced operation).2 rest

/-- A digest that finalization gives out has the algorithm's length. -/
theorem length_of_final {algorithm : Algorithm} {forced : List EntryPoint} {phase next : Phase}
    {digest : Bytes} (given : phase.final algorithm forced = (some digest, next)) :
    digest.length = algorithm.digestSize := by
  -- Only a hash in progress has a digest to give out.
  cases phase with
  | unallocated => cases given
  | idle => cases given
  | running message =>
    simp only [final] at given
    split at given
    · cases given
    · cases given
      exact algorithm.length_digest message

/-- Private state is as the phase has it. -/
def Matches {Library : Type} (library : Library) (algorithm : Algorithm) (phase : Phase)
    (state : Option (PrivateState Library StockState StockLibrary.DirectState)) : Prop :=
  match phase with
  | unallocated => state = none
  -- A failed initialization leaves the tag stamped.
  | idle => ∃ tag, state = some (.tagged library tag .empty)
  | running message =>
    ∃ hasher : algorithm.Running, hasher.Stands message ∧
      state = some (.tagged library (some algorithm) (.running algorithm hasher))

/-- An outcome is as the machine has it, given the calls noted as made to fail. -/
def Predicts {Library Memory : Type} (library : Library) (algorithm : Algorithm)
    (operation : Operation) (phase : Phase)
    (outcome : OperationAnswer ×
      Frame Library StockState StockLibrary.DirectState (Memory × List EntryPoint)) : Prop :=
  -- Both the answer and the phase behind it are those of the machine's step.
  outcome.1 = (phase.step algorithm outcome.2.memory.2 operation).1 ∧
    (phase.step algorithm outcome.2.memory.2 operation).2.Matches library algorithm
      outcome.2.state

/-- In every phase private state is absent or of the library's tagged kind. -/
theorem Matches.none_or_tagged {Library : Type} {library : Library} {algorithm : Algorithm}
    {phase : Phase} {state : Option (PrivateState Library StockState StockLibrary.DirectState)}
    (matched : phase.Matches library algorithm state) :
    state = none ∨ ∃ tag hash, state = some (.tagged library tag hash) := by
  -- The phases differ in the hash state alone, once there is any.
  cases phase with
  | unallocated => exact .inl matched
  | idle =>
    obtain ⟨tag, held⟩ := matched
    exact .inr ⟨tag, .empty, held⟩
  | running message =>
    obtain ⟨hasher, _, held⟩ := matched
    exact .inr ⟨some algorithm, .running algorithm hasher, held⟩

end Phase

namespace Backend

/-- The stock library under a script, by every name, for a build that calls its free or leaves it out. -/
def scripted (Library : Type) {Memory : Type} (script : Script Memory) (callsFree : Bool) :
    Backend Library StockState StockLibrary.DirectState Memory where
  tagged _ := (StockLibrary.tagged Memory).scripted script
  direct _ := (StockLibrary.direct Memory).scripted script
  directZero _ := none
  callsFree := callsFree

variable {Library Memory : Type} [DecidableEq Library] [DedicatedStates Library] {library : Library}
  {algorithm : Algorithm} {method : Method Library} {script : Script Memory}
  {phase : Phase}
  {frame : Frame Library StockState StockLibrary.DirectState (Memory × List EntryPoint)}

/-- A cleanup succeeds and makes no call fail but the free. -/
theorem cleanup_follows (prescribed : (Recipe.tagged library algorithm).Prescribes method)
    (fails : script.OnlyFails) (callsFree : Bool)
    (matched : phase.Matches library algorithm frame.state) (fresh : frame.memory.2 = []) :
    ((scripted Library script.noted callsFree).cleanup method frame).1 = .success ∧
      ∀ entry ∈ ((scripted Library script.noted callsFree).cleanup method frame).2.memory.2,
        entry = .hashFree := by
  rcases matched.none_or_tagged with absent | ⟨tag, hash, held⟩
  · rw [cleanup_of_none _ method absent, fresh]
    exact ⟨rfl, by simp⟩
  · rw [cleanup_of_some _ prescribed held]
    simp only [Recipe.tagged]
    cases callsFree with
    | false =>
      rw [runCleanup_tagged_skipped _ held rfl]
      exact ⟨rfl, by simp [Frame.clear, fresh]⟩
    | true =>
      rw [runCleanup_tagged _ held rfl]
      refine ⟨rfl, ?_⟩
      intro entry member
      -- The free is noted if it is made to fail, and nothing was noted before it.
      rcases StockLibrary.free_noted fails tag hash frame.memory with quiet | noted
      · have nothing : entry ∈ frame.memory.2 := quiet ▸ member
        rw [fresh] at nothing
        cases nothing
      · have one : entry ∈ frame.memory.2 ++ [EntryPoint.hashFree] := noted.subst member
        rw [fresh] at one
        exact List.mem_singleton.mp one

/-- An initialization is as the machine has it. -/
theorem init_predicted (prescribed : (Recipe.tagged library algorithm).Prescribes method)
    (fails : script.OnlyFails) (callsFree : Bool)
    (matched : phase.Matches library algorithm frame.state) (fresh : frame.memory.2 = []) :
    phase.Predicts library algorithm .init
      ((scripted Library script.noted callsFree).run method .init frame) := by
  let before := (scripted Library script.noted callsFree).allocated (.tagged library algorithm)
    method frame
  have held : before.state = some (.tagged library none .empty) := rfl
  -- Nothing but a free was noted by the time of the init call.
  have emptied := (cleanup_follows prescribed fails callsFree matched fresh).2
  have unnoted : .hashInit ∉ before.memory.2 := fun member => nomatch emptied _ member
  let reply := ((StockLibrary.tagged _).scripted script.noted).init (some algorithm) .empty
    before.memory
  obtain ⟨log, hook⟩ : ∃ log, (scripted Library script.noted callsFree).runInit
      (.tagged library algorithm) before = (HostStatus.ofBool reply.status.isOk,
        ⟨some (.tagged library (some algorithm) reply.state), reply.memory, log⟩) :=
    ⟨_, runInit_tagged _ algorithm held⟩
  rw [run_init prescribed hook]
  rcases StockLibrary.init_noted algorithm fails .empty unnoted with
    ⟨forced, failed, kept⟩ | ⟨passed, succeeded, started⟩
  · have stepped : phase.step algorithm reply.memory.2 .init =
        (.done (.error (.operationFailed "init")), .idle) := if_pos forced
    rw [Phase.Predicts, stepped, failed, kept]
    exact ⟨rfl, some algorithm, rfl⟩
  · have stepped : phase.step algorithm reply.memory.2 .init =
        (.done (.ok ()), .running []) := if_neg passed
    rw [Phase.Predicts, stepped, succeeded, started]
    exact ⟨rfl, algorithm.startHash, Hasher.stands_fresh, rfl⟩

/-- An update with no hash in progress succeeds for no bytes and fails for any others. -/
theorem update_predicted_idle (prescribed : (Recipe.tagged library algorithm).Prescribes method)
    (fails : script.OnlyFails) (callsFree : Bool) (data : Bytes) {tag : Tag}
    (held : frame.state = some (.tagged library tag .empty)) :
    Phase.idle.Predicts library algorithm (.update data)
      ((scripted Library script.noted callsFree).run method (.update data) frame) := by
  let backend := scripted Library script.noted callsFree
  by_cases empty : data = []
  · -- No bytes need no call.
    subst empty
    rw [run_update prescribed (backend.runUpdate_tagged_nil held)]
    exact ⟨rfl, tag, held⟩
  · -- The call fails whether it is made to or not.
    let reply := ((StockLibrary.tagged _).scripted script.noted).update tag data .empty
      frame.memory
    obtain ⟨log, hook⟩ : ∃ log, backend.runUpdate (.tagged library) data frame =
        (HostStatus.ofBool reply.status.isOk,
          ⟨some (.tagged library tag reply.state), reply.memory, log⟩) :=
      ⟨_, runUpdate_tagged _ held empty⟩
    obtain ⟨failed, kept⟩ := StockLibrary.update_noted_empty fails tag data frame.memory
    have stepped : ∀ forced, Phase.idle.step algorithm forced (.update data) =
        (.done (.error (.operationFailed "update")), .idle) := fun _ => if_neg empty
    rw [run_update prescribed hook, Phase.Predicts, stepped, failed, kept]
    exact ⟨rfl, tag, rfl⟩

/-- An update of a hash in progress makes its message longer unless its update call is made to fail. -/
theorem update_predicted_running
    (prescribed : (Recipe.tagged library algorithm).Prescribes method) (fails : script.OnlyFails)
    (callsFree : Bool) (data : Bytes) {message : Bytes}
    (matched : (Phase.running message).Matches library algorithm frame.state)
    (fresh : frame.memory.2 = []) :
    (Phase.running message).Predicts library algorithm (.update data)
      ((scripted Library script.noted callsFree).run method (.update data) frame) := by
  let backend := scripted Library script.noted callsFree
  have unnoted : .hashUpdate ∉ frame.memory.2 := by simp [fresh]
  obtain ⟨hasher, stands, held⟩ := matched
  by_cases empty : data = []
  · -- No bytes need no call, and make the message no longer.
    subst empty
    have stepped : (Phase.running message).step algorithm frame.memory.2 (.update []) =
        (.done (.ok ()), .running (message ++ [])) := if_neg unnoted
    rw [run_update prescribed (backend.runUpdate_tagged_nil held), Phase.Predicts, stepped,
      List.append_nil]
    exact ⟨rfl, hasher, stands, held⟩
  · -- The call is made to fail, or absorbs the bytes.
    let reply := ((StockLibrary.tagged _).scripted script.noted).update (some algorithm) data
      (.running algorithm hasher) frame.memory
    obtain ⟨log, hook⟩ : ∃ log, backend.runUpdate (.tagged library) data frame =
        (HostStatus.ofBool reply.status.isOk,
          ⟨some (.tagged library (some algorithm) reply.state), reply.memory, log⟩) :=
      ⟨_, runUpdate_tagged _ held empty⟩
    rw [run_update prescribed hook]
    rcases StockLibrary.update_noted algorithm fails data hasher unnoted with
      ⟨forced, failed, kept⟩ | ⟨passed, succeeded, absorbed⟩
    · have stepped : (Phase.running message).step algorithm reply.memory.2 (.update data) =
          (.done (.error (.operationFailed "update")), .running message) := if_pos forced
      rw [Phase.Predicts, stepped, failed, kept]
      exact ⟨rfl, hasher, stands, rfl⟩
    · have stepped : (Phase.running message).step algorithm reply.memory.2 (.update data) =
          (.done (.ok ()), .running (message ++ data)) := if_neg passed
      rw [Phase.Predicts, stepped, succeeded, absorbed]
      exact ⟨rfl, hasher.absorb data, stands.absorb data, rfl⟩

/-- An update is as the machine has it. -/
theorem update_predicted (prescribed : (Recipe.tagged library algorithm).Prescribes method)
    (fails : script.OnlyFails) (callsFree : Bool) (data : Bytes)
    (matched : phase.Matches library algorithm frame.state) (fresh : frame.memory.2 = []) :
    phase.Predicts library algorithm (.update data)
      ((scripted Library script.noted callsFree).run method (.update data) frame) := by
  cases phase with
  | unallocated =>
    -- The hook finds no state, and makes no call.
    have absent := Frame.tagged?_of_none library matched
    rw [run_update prescribed (runUpdate_tagged_absent _ data absent)]
    exact ⟨rfl, matched⟩
  | idle =>
    obtain ⟨tag, held⟩ := matched
    exact update_predicted_idle prescribed fails callsFree data held
  | running message =>
    exact update_predicted_running prescribed fails callsFree data matched fresh

/-- With room for the digest, the final hook gives it out as the machine has it. -/
theorem runFinal_predicted (fails : script.OnlyFails) (callsFree : Bool) {buffer : Bytes}
    (room : algorithm.digestSize ≤ buffer.length)
    (matched : phase.Matches library algorithm frame.state) (fresh : frame.memory.2 = []) :
    ∃ written status after,
      (scripted Library script.noted callsFree).runFinal (.tagged library) buffer frame =
        (written, status, after) ∧
      written = (phase.final algorithm after.memory.2).1.elim buffer
        (fun digest => Bytes.writeFront digest buffer) ∧
      status = HostStatus.ofBool (phase.final algorithm after.memory.2).1.isSome ∧
      (phase.final algorithm after.memory.2).2.Matches library algorithm after.state := by
  -- Only a hash in progress has a digest to give out, and only if its final call is not made to fail.
  let backend := scripted Library script.noted callsFree
  have unnoted : .hashFinal ∉ frame.memory.2 := by simp [fresh]
  cases phase with
  | unallocated =>
    have absent := Frame.tagged?_of_none library matched
    exact ⟨_, _, _, backend.runFinal_tagged_absent buffer absent, rfl, rfl, matched⟩
  | idle =>
    obtain ⟨tag, held⟩ := matched
    obtain ⟨failed, untouched, kept⟩ :=
      StockLibrary.final_noted_empty fails tag buffer frame.memory
    refine ⟨_, _, _, backend.runFinal_tagged buffer held, untouched, ?_, tag, ?_⟩
    · exact congrArg HostStatus.ofBool failed
    · exact congrArg (fun state => some (PrivateState.tagged library tag state)) kept
  | running message =>
    obtain ⟨hasher, stands, held⟩ := matched
    let answer := ((StockLibrary.tagged _).scripted script.noted).final (some algorithm) buffer
      (.running algorithm hasher) frame.memory
    obtain ⟨log, hook⟩ : ∃ log, backend.runFinal (.tagged library) buffer frame =
        (answer.1, HostStatus.ofBool answer.2.status.isOk,
          ⟨some (.tagged library (some algorithm) answer.2.state), answer.2.memory, log⟩) :=
      ⟨_, runFinal_tagged _ buffer held⟩
    refine ⟨_, _, _, hook, ?_⟩
    rcases StockLibrary.final_noted algorithm fails room hasher unnoted with
      ⟨forced, failed, untouched, kept⟩ | ⟨passed, succeeded, written, started⟩
    · have stepped : (Phase.running message).final algorithm answer.2.memory.2 =
          (none, .running message) := if_pos forced
      dsimp only
      rw [stepped, failed, untouched, kept]
      exact ⟨rfl, rfl, hasher, stands, rfl⟩
    · have stepped : (Phase.running message).final algorithm answer.2.memory.2 =
          (some (algorithm.digest message), .running []) := if_neg passed
      dsimp only
      rw [stepped, succeeded, written, started, stands.finish]
      exact ⟨rfl, rfl, algorithm.startHash, Hasher.stands_fresh, rfl⟩

/-- A finalization into a buffer is as the machine has it. -/
theorem finalizeInto_predicted (prescribed : (Recipe.tagged library algorithm).Prescribes method)
    (fails : script.OnlyFails) (callsFree : Bool) (buffer : Bytes)
    (matched : phase.Matches library algorithm frame.state) (fresh : frame.memory.2 = []) :
    phase.Predicts library algorithm (.finalizeInto buffer)
      ((scripted Library script.noted callsFree).run method (.finalizeInto buffer) frame) := by
  by_cases short : buffer.length < algorithm.digestSize
  · -- The buffer is sent back before anything runs.
    have stepped : ∀ forced, phase.step algorithm forced (.finalizeInto buffer) =
        (.written (.error (.bufferTooSmall algorithm.digestSize buffer.length)) buffer, phase) :=
      fun _ => if_pos short
    rw [run_finalizeInto_short prescribed short, Phase.Predicts, stepped]
    exact ⟨rfl, matched⟩
  · -- The answer and the buffer tell whether a digest was given out.
    have room := Nat.not_lt.mp short
    obtain ⟨written, status, after, hook, writes, reports, follows⟩ :=
      runFinal_predicted fails callsFree room matched fresh
    rw [run_finalizeInto prescribed room hook, Phase.Predicts, Phase.step, if_neg short]
    rcases given : phase.final algorithm after.memory.2 with ⟨digest, next⟩
    rw [given] at writes reports follows
    cases digest with
    | none =>
      rw [writes, reports]
      exact ⟨rfl, follows⟩
    | some digest =>
      rw [writes, reports]
      exact ⟨rfl, follows⟩

/-- A finalization into a buffer of its own is as the machine has it. -/
theorem finalize_predicted (prescribed : (Recipe.tagged library algorithm).Prescribes method)
    (fails : script.OnlyFails) (callsFree : Bool)
    (matched : phase.Matches library algorithm frame.state) (fresh : frame.memory.2 = []) :
    phase.Predicts library algorithm .finalize
      ((scripted Library script.noted callsFree).run method .finalize frame) := by
  have room : algorithm.digestSize ≤
      (List.replicate algorithm.digestSize (0 : UInt8)).length := by simp
  obtain ⟨written, status, after, hook, writes, reports, follows⟩ :=
    runFinal_predicted fails callsFree room matched fresh
  rw [run_finalize prescribed hook, Phase.Predicts, Phase.step]
  rcases given : phase.final algorithm after.memory.2 with ⟨digest, next⟩
  rw [given] at writes reports follows
  cases digest with
  | none =>
    rw [reports]
    exact ⟨rfl, follows⟩
  | some digest =>
    -- The digest fills the buffer from its front, and just its length is taken off again.
    have length := Phase.length_of_final given
    rw [writes, reports]
    refine ⟨?_, follows⟩
    show OperationAnswer.digest (.ok ((Bytes.writeFront digest _).take algorithm.digestSize)) = _
    rw [← length, Bytes.take_writeFront]

/-- Every operation is as the machine has it. -/
theorem run_predicted (prescribed : (Recipe.tagged library algorithm).Prescribes method)
    (fails : script.OnlyFails) (callsFree : Bool) (operation : Operation)
    (matched : phase.Matches library algorithm frame.state) (fresh : frame.memory.2 = []) :
    phase.Predicts library algorithm operation
      ((scripted Library script.noted callsFree).run method operation frame) := by
  -- Allocation and cleanup cannot be made to fail, and the others have been dealt with.
  cases operation with
  | allocate =>
    rw [run_allocate prescribed]
    exact ⟨rfl, none, rfl⟩
  | init => exact init_predicted prescribed fails callsFree matched fresh
  | update data => exact update_predicted prescribed fails callsFree data matched fresh
  | finalizeInto buffer =>
    exact finalizeInto_predicted prescribed fails callsFree buffer matched fresh
  | finalize => exact finalize_predicted prescribed fails callsFree matched fresh
  | cleanup =>
    obtain ⟨reported, _⟩ := cleanup_follows prescribed fails callsFree matched fresh
    exact ⟨congrArg OperationAnswer.released reported, state_cleanup _ method frame⟩

end Backend

end DigestProvider
