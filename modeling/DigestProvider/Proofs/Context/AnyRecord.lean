import DigestProvider.Proofs.Context.Answers

/-!
Contexts on records of any kind, complete or not, with hooks and private state that need not belong together. Main
statement: whatever operations came before, a hook that the record lacks or that does not fit the private state does
no harm.
-/

namespace DigestProvider.Backend

variable {Library State Direct Memory : Type} [DecidableEq Library] [DedicatedStates Library]
  {backend : Backend Library State Direct Memory} {method : Method Library}
  {frame : Frame Library State Direct Memory}

/-- Operations one after another leave private state of the declared kind, or none. -/
theorem runAll_asDeclared (operations : List Operation) (asDeclared : frame.AsDeclared method) :
    (backend.runAll method operations frame).AsDeclared method := by
  -- The induction is on the operations; each keeps what the rest starts from.
  induction operations generalizing frame with
  | nil => exact asDeclared
  | cons operation rest ih => exact ih (backend.run_asDeclared operation asDeclared)

/-- A context comes to no harm by what it does next, whatever the record of its method holds and what it lacks. -/
structure SafeAt (backend : Backend Library State Direct Memory) (method : Method Library)
    (frame : Frame Library State Direct Memory) : Prop where
  /-- Private state is of the kind that the record declares. -/
  declared : frame.AsDeclared method
  /-- Each operation answers in its own form, within the lengths that its caller relies on. -/
  fits : ∀ operation : Operation,
    operation.Fits method.resultSize (backend.run method operation frame).1
  /-- Each operation fails with an error of its own. -/
  fails : ∀ (operation : Operation) cause,
    (backend.run method operation frame).1.error? = some cause →
      cause ∈ operation.errors method.resultSize
  /-- A finalization logs no bytes but those at the front of the buffer. -/
  shows : ∀ buffer, ∃ told, (backend.finalizeInto method buffer frame).2.log = frame.log ++ told ∧
    ∀ named shown, .buffer named shown ∈ told →
      shown <+: (backend.finalizeInto method buffer frame).1.2
  /-- Initialization misses its hook exactly if the record has none. -/
  init_absent : (backend.init method frame).1 = .error (.missingOperation "init") ↔
    method.init = none
  /-- In that case it leaves everything as it was. -/
  init_untouched : method.init = none → (backend.init method frame).2 = frame
  /-- With a hook it misses private state exactly if none is declared. -/
  init_undeclared : method.init ≠ none →
    ((backend.init method frame).1 = .error .missingState ↔ method.stateKind = none)
  /-- In that case none is allocated. -/
  init_unallocated : method.init ≠ none → method.stateKind = none →
    (backend.init method frame).2.state = none
  /-- An update without a hook touches nothing. -/
  update_absent : method.update = none → ∀ data,
    backend.update method data frame = (.error (.missingOperation "update"), frame)
  /-- A finalization without a hook touches nothing, the buffer included. -/
  final_absent : method.final = none → ∀ buffer,
    backend.finalizeInto method buffer frame = ((.error (.missingOperation "final"), buffer), frame)
  /-- An init hook that lacks private state of its kind fails, and only the log tells. -/
  init_hook : ∀ (hook : InitHook Library) kind,
    hook.kind? = some kind → frame.kind? ≠ some kind →
      ∃ told, backend.runInit hook frame = (.failure, frame.tell told)
  /-- So does an update hook. -/
  update_hook : ∀ (hook : Hook Library) kind data,
    hook.kind? = some kind → frame.kind? ≠ some kind →
      ∃ told, backend.runUpdate hook data frame = (.failure, frame.tell told)
  /-- So does a final hook, which leaves the buffer. -/
  final_hook : ∀ (hook : Hook Library) kind buffer,
    hook.kind? = some kind → frame.kind? ≠ some kind →
      ∃ told, backend.runFinal hook buffer frame = (buffer, .failure, frame.tell told)
  /-- Initialization with a hook of another kind than the declared one ends with the state as it was allocated. -/
  init_misfit : ∀ (hook : InitHook Library) kind other, method.init = some hook →
    hook.kind? = some kind → method.stateKind = some other → other ≠ kind →
      ∃ told, backend.init method frame =
        (.error (.operationFailed "init"), (backend.fresh other method frame).tell told)
  /-- An update fails with its hook. -/
  update_misfit : ∀ (hook : Hook Library) kind data, method.update = some hook →
    hook.kind? = some kind → frame.kind? ≠ some kind →
      ∃ told, backend.update method data frame =
        (.error (.operationFailed "update"), frame.tell told)
  /-- A finalization into a buffer with room fails with its hook. -/
  final_misfit : ∀ (hook : Hook Library) kind buffer, method.final = some hook →
    method.resultSize ≤ buffer.length → hook.kind? = some kind → frame.kind? ≠ some kind →
      ∃ told, backend.finalizeInto method buffer frame =
        ((.error (.operationFailed "final"), buffer), frame.tell told)
  /-- After a cleanup there is no private state. -/
  cleaned : (backend.cleanup method frame).2.state = none

/-- Where private state is as declared, a context is safe. -/
theorem safeAt_of_asDeclared (keeps : backend.KeepsLengths) (asDeclared : frame.AsDeclared method) :
    backend.SafeAt method frame where
  declared := asDeclared
  fits := keeps.run_fits
  fails operation _ := error_mem_errors operation
  shows := finalizeInto_shows
  init_absent := by
    -- The three errors of an initialization differ, and each has its own cause.
    constructor
    · intro failed
      rcases init_error failed with ⟨absent, _⟩ | ⟨_, _, other⟩ | ⟨_, _, other⟩
      · exact absent
      · cases other
      · cases other
    · intro absent
      rw [backend.init_absent absent]
      rfl
  init_untouched absent := by rw [backend.init_absent absent]
  init_undeclared present := by
    constructor
    · intro failed
      rcases init_error failed with ⟨absent, _⟩ | ⟨_, undeclared, _⟩ | ⟨_, _, other⟩
      · exact absurd absent present
      · exact undeclared
      · cases other
    · intro undeclared
      -- The declaration is missed behind the hook.
      obtain ⟨hook, present⟩ := Option.ne_none_iff_exists'.mp present
      rw [backend.init_undeclared present undeclared]
  init_unallocated present undeclared := by
    obtain ⟨hook, present⟩ := Option.ne_none_iff_exists'.mp present
    rw [backend.init_undeclared present undeclared]
    -- Earlier state is cleaned up before the declaration is looked for.
    exact backend.state_cleanup method frame
  update_absent absent data := backend.update_absent absent data frame
  final_absent absent buffer := backend.finalizeInto_absent absent buffer frame
  init_hook _ _ works lacks := backend.runInit_of_lacks _ works lacks
  update_hook _ _ data works lacks := backend.runUpdate_of_lacks _ works lacks data
  final_hook _ _ buffer works lacks := backend.runFinal_of_lacks _ works lacks buffer
  init_misfit hook kind other present works declared differs := by
    -- The hook meets the state that was just allocated.
    have lacks : (backend.fresh other method frame).kind? ≠ some kind := fun holds =>
      differs (Option.some.inj (declared.symm.trans (backend.asDeclared_fresh declared kind holds)))
    obtain ⟨told, ran⟩ := backend.runInit_of_lacks _ works lacks
    rw [backend.init_of_hook present declared, ran]
    exact ⟨told, rfl⟩
  update_misfit hook kind data present works lacks := by
    -- The host reports the hook's failure under the operation's name.
    obtain ⟨told, ran⟩ := backend.runUpdate_of_lacks _ works lacks data
    rw [backend.update_of_hook present, ran]
    exact ⟨told, rfl⟩
  final_misfit hook kind buffer present room works lacks := by
    -- The room is there, so the failure is the hook's.
    obtain ⟨told, ran⟩ := backend.runFinal_of_lacks _ works lacks buffer
    rw [backend.finalizeInto_of_hook present room, ran]
    exact ⟨told, rfl⟩
  cleaned := backend.state_cleanup method frame

section Calls

variable {frame : Frame Library State Direct (Recorded Memory)} {kind : StateKind Library}

/-- An outcome is that of one library call, whose status is the answer. -/
def AnswersCall (frame : Frame Library State Direct (Recorded Memory))
    (outcome : HostStatus × Frame Library State Direct (Recorded Memory)) : Prop :=
  -- Which call it was is left open, and so is its status.
  ∃ record : CallRecord, outcome.1 = .ofBool record.status.isOk ∧
    outcome.2.memory.calls = frame.memory.calls ++ [record]

/-- An init hook that finds private state of its kind makes its call. -/
theorem runInit_answersCall (hook : InitHook Library) (works : hook.kind? = some kind)
    (holds : frame.kind? = some kind) :
    AnswersCall frame (backend.recorded.runInit hook frame) := by
  -- The hook finds what it looks for, and so goes on to its call.
  cases hook with
  | tagged library algorithm =>
    cases works
    obtain ⟨tag, state, held⟩ := Frame.state_of_kind_tagged holds
    rw [backend.recorded.runInit_tagged algorithm held]
    exact ⟨_, rfl, rfl⟩
  | direct library =>
    cases works
    obtain ⟨state, held⟩ := Frame.state_of_kind_direct holds
    rw [backend.recorded.runInit_direct held]
    exact ⟨_, rfl, rfl⟩
  | fixed status => cases works

/-- An update hook that finds private state of its kind makes its call, if there are bytes to absorb. -/
theorem runUpdate_answersCall (hook : Hook Library) (works : hook.kind? = some kind)
    (holds : frame.kind? = some kind) {data : Bytes} (nonempty : data ≠ []) :
    AnswersCall frame (backend.recorded.runUpdate hook data frame) := by
  -- A fixed status is no call and works on no kind of state.
  cases hook with
  | tagged library =>
    cases works
    obtain ⟨tag, state, held⟩ := Frame.state_of_kind_tagged holds
    rw [backend.recorded.runUpdate_tagged held nonempty]
    exact ⟨_, rfl, rfl⟩
  | direct library =>
    cases works
    obtain ⟨state, held⟩ := Frame.state_of_kind_direct holds
    rw [backend.recorded.runUpdate_direct held nonempty]
    exact ⟨_, rfl, rfl⟩
  | fixed status => cases works

/-- A final hook that finds private state of its kind makes its call. -/
theorem runFinal_answersCall (hook : Hook Library) (works : hook.kind? = some kind)
    (holds : frame.kind? = some kind) (buffer : Bytes) :
    AnswersCall frame (backend.recorded.runFinal hook buffer frame).2 := by
  -- The buffer is no obstacle to the call; its room is the library's business.
  cases hook with
  | tagged library =>
    cases works
    obtain ⟨tag, state, held⟩ := Frame.state_of_kind_tagged holds
    rw [backend.recorded.runFinal_tagged buffer held]
    exact ⟨_, rfl, rfl⟩
  | direct library =>
    cases works
    obtain ⟨state, held⟩ := Frame.state_of_kind_direct holds
    rw [backend.recorded.runFinal_direct buffer held]
    exact ⟨_, rfl, rfl⟩
  | fixed status => cases works

end Calls

/-- Over all libraries that write within their buffers, a context on any record at all is safe after any operations,
whatever a host gave out and whatever its setters stored of whichever hooks and private state. A hook fails without a
call only where it does not find state of its kind, and else answers by its call. -/
theorem runAll_safe (keeps : backend.KeepsLengths) (method : Method Library)
    (operations : List Operation) (memory : Recorded Memory) (log : List LogRecord) :
    let reached := backend.recorded.runAll method operations { memory, log }
    backend.recorded.SafeAt method reached ∧
      ∀ kind, reached.kind? = some kind →
        (∀ hook : InitHook Library, hook.kind? = some kind →
          AnswersCall reached (backend.recorded.runInit hook reached)) ∧
        (∀ (hook : Hook Library) data, hook.kind? = some kind → data ≠ [] →
          AnswersCall reached (backend.recorded.runUpdate hook data reached)) ∧
        ∀ (hook : Hook Library) buffer, hook.kind? = some kind →
          AnswersCall reached (backend.recorded.runFinal hook buffer reached).2 := by
  intro reached
  -- A hook that leaves the memory as it was has made no call, for the calls are recorded in it.
  have safe : backend.recorded.SafeAt method reached := safeAt_of_asDeclared keeps.recorded
    (runAll_asDeclared operations (Frame.asDeclared_of_none rfl))
  refine ⟨safe, fun kind holds => ⟨?_, ?_, ?_⟩⟩
  · exact fun hook works => runInit_answersCall hook works holds
  · exact fun hook data works nonempty => runUpdate_answersCall hook works holds nonempty
  · exact fun hook buffer works => runFinal_answersCall hook works holds buffer

/-- A host that skips the final hook gives out a record whose other hooks come from two libraries, each with dedicated
states of its own type, and a fixed status. The update hook takes no state of the other library's, and makes no call. -/
theorem runAll_safe_of_mixed :
    let _ : DedicatedStates Bool := { typeOf := fun library => { number := library.toNat } }
    let recipe : Recipe Bool :=
      { nid := Algorithm.sha256.nid, resultSize := 32, init := .direct true
        update := .direct false, final := .tagged true, cleanup := .fixed .failure
        stateKind := .direct (typeOf true) }
    let method : Method Bool :=
      { nid := Algorithm.sha256.nid, init := some recipe.init, update := some recipe.update
        cleanup := some recipe.cleanup, resultSize := 32, stateKind := some recipe.stateKind }
    let host : Host Bool Unit := Host.stock.faulty { skipStep := some .final }
    let backend := scripted Bool (fun _ memory => (none, memory) : Script Unit) true
    let used := backend.recorded.runAll method [.init, .update [1]] { memory := ⟨(), []⟩, log := [] }
    (recipe.build host [] { memory := () }).1 = .ok ⟨0, method⟩ ∧ backend.KeepsLengths ∧
      used.memory.calls = [⟨.initSha256, .ok⟩] ∧
      (∃ told, backend.recorded.update method [2] used =
        (.error (.operationFailed "update"), used.tell told)) ∧
      backend.recorded.finalizeInto method [0] used =
        ((.error (.missingOperation "final"), [0]), used) ∧
      (backend.recorded.cleanup method used).2.state = none := by
  intro types recipe method host backend used
  have keeps : backend.KeepsLengths := scripted_keepsLengths Bool _ true
  -- The stock library writes within its buffers, whatever the record puts together.
  obtain ⟨safe, _⟩ := runAll_safe keeps method [.init, .update [1]] ⟨(), []⟩ []
  -- The record declares one library's dedicated state, so the context never holds any of the other's.
  have apart : typeOf true ≠ typeOf false := fun same =>
    Nat.one_ne_zero (congrArg StateType.number same)
  have lacks : used.kind? ≠ some (.direct (typeOf false)) := by
    intro holds
    exact apart (StateKind.direct.inj (Option.some.inj (safe.declared _ holds)))
  exact ⟨rfl, keeps, rfl, safe.update_misfit _ _ [2] rfl rfl lacks, safe.final_absent rfl [0],
    safe.cleaned⟩

end DigestProvider.Backend
