import DigestProvider.Library.Scripted
import DigestProvider.Proofs.Context.Prescribed

/-!
Private state is given back to its library exactly once, whatever the library answers. Main statement: the frees made
and the state still held make up the states allocated, and a drop leaves none over.
-/

namespace DigestProvider

/-- Whether a call gives a state back. -/
def LibraryCall.isFree : LibraryCall → Bool
  | hashFree _ | sha256Free => true
  | _ => false

/-- The free calls among recorded ones. -/
def freeCount (calls : List CallRecord) : Nat :=
  calls.countP (·.call.isFree)

/-- Recorded calls go on with these frees, and then with calls that free nothing. -/
def GoesOn (frees : List LibraryCall) (before after : List CallRecord) : Prop :=
  -- What the calls returned is left open.
  ∃ freed others : List CallRecord, after = before ++ (freed ++ others) ∧
    freed.map CallRecord.call = frees ∧ ∀ record ∈ others, record.call.isFree = false

namespace GoesOn

/-- No calls free nothing. -/
theorem refl (calls : List CallRecord) : GoesOn [] calls calls :=
  -- Neither kind of call was made.
  ⟨[], [], by simp, rfl, by simp⟩

/-- One call that frees nothing. -/
theorem other {record : CallRecord} (other : record.call.isFree = false)
    (calls : List CallRecord) : GoesOn [] calls (calls ++ [record]) := by
  -- The call stands behind no frees.
  refine ⟨[], [record], by simp, rfl, ?_⟩
  intro made member
  rw [List.mem_singleton.mp member]
  exact other

/-- One call that frees. -/
theorem free (record : CallRecord) (calls : List CallRecord) :
    GoesOn [record.call] calls (calls ++ [record]) :=
  ⟨[record], [], by simp, rfl, by simp⟩

/-- Calls that free nothing may follow. -/
theorem trans {frees : List LibraryCall} {before between after : List CallRecord}
    (first : GoesOn frees before between) (second : GoesOn [] between after) :
    GoesOn frees before after := by
  -- The later calls join those that free nothing.
  obtain ⟨freed, others, split, named, quiet⟩ := first
  obtain ⟨none, more, rfl, unnamed, silent⟩ := second
  obtain rfl := List.map_eq_nil_iff.mp unnamed
  refine ⟨freed, others ++ more, by simp [split], named, ?_⟩
  intro record member
  rcases List.mem_append.mp member with earlier | later
  · exact quiet record earlier
  · exact silent record later

/-- Each of the frees counts, and no other call. -/
theorem freeCount_eq {frees : List LibraryCall} {before after : List CallRecord}
    (goesOn : GoesOn frees before after) (genuine : ∀ call ∈ frees, call.isFree = true) :
    freeCount after = freeCount before + frees.length := by
  -- The two kinds of calls are counted apart.
  obtain ⟨freed, others, rfl, rfl, quiet⟩ := goesOn
  have all : freed.countP (·.call.isFree) = freed.length := by
    rw [List.countP_eq_length]
    intro record member
    exact genuine record.call (List.mem_map_of_mem member)
  have none : others.countP (·.call.isFree) = 0 := by
    rw [List.countP_eq_zero]
    intro record member
    simp [quiet record member]
  simp only [freeCount, List.countP_append, all, none, List.length_map]
  omega

end GoesOn

namespace Operation

/-- Whether an operation allocates private state. -/
def allocates : Operation → Bool
  | allocate | init => true
  | _ => false

/-- Whether an operation releases the private state that it finds. -/
def releases : Operation → Bool
  | allocate | init | cleanup => true
  | _ => false

/-- The tag on the private state behind an operation, if there is any: an algorithm's once the init hook has run. -/
def holding (algorithm : Algorithm) (held : Option Tag) : Operation → Option Tag
  | allocate => some none
  | init => some (some algorithm)
  | cleanup => none
  | update _ | finalizeInto _ | finalize => held

/-- The tag on the private state behind operations on a context that began without any. -/
def heldAfter (algorithm : Algorithm) (operations : List Operation) : Option Tag :=
  -- No private state is the same as no tag at all, which a state without an algorithm's tag is not.
  operations.foldl (holding algorithm) none

end Operation

namespace HookPath

variable {Library State Direct : Type} [DedicatedStates Library]

/-- The recipe of a path: any algorithm's for the tagged one, and that of SHA-256 for the direct one. -/
def recipe (path : HookPath) (library : Library) (algorithm : Algorithm) : Recipe Library :=
  match path with
  | tagged => .tagged library algorithm
  | direct => .direct library

/-- Whether cleanup frees: always on the direct path, and on the tagged one if the build calls for it. -/
def frees (path : HookPath) (callsFree : Bool) : Bool :=
  match path with
  | tagged => callsFree
  | direct => true

/-- The call that frees a state under a tag. -/
def freeCall (path : HookPath) (tag : Tag) : LibraryCall :=
  match path with
  | tagged => .hashFree tag
  | direct => .sha256Free

/-- A free call is one. -/
theorem isFree_freeCall (path : HookPath) (tag : Tag) : (path.freeCall tag).isFree = true := by
  -- There is one for each path.
  cases path <;> rfl

/-- The calls that free held private state, as the build has it. -/
def freesOf (path : HookPath) (callsFree : Bool) (held : Option Tag) : List LibraryCall :=
  if path.frees callsFree then held.toList.map path.freeCall else []

/-- Where the path frees, there is one free for what is held. -/
theorem length_freesOf {path : HookPath} {callsFree : Bool} (frees : path.frees callsFree = true)
    (held : Option Tag) : (path.freesOf callsFree held).length = held.isSome.toNat := by
  -- There is at most one state to free.
  rw [freesOf, if_pos frees]
  cases held <;> rfl

/-- The frees of what is held are free calls. -/
theorem isFree_of_mem_freesOf {path : HookPath} {callsFree : Bool} {held : Option Tag}
    {call : LibraryCall} (member : call ∈ path.freesOf callsFree held) : call.isFree = true := by
  -- The one call there may be is the path's.
  unfold freesOf at member
  split at member
  · obtain ⟨tag, _, rfl⟩ := List.mem_map.mp member
    exact path.isFree_freeCall tag
  · cases member

/-- Private state is of the path's kind, under the tag that is held. -/
def Holds (path : HookPath) (library : Library) (held : Option Tag)
    (state : Option (PrivateState Library State Direct)) : Prop :=
  match held, path with
  | none, _ => state = none
  | some tag, tagged => ∃ hash, state = some (.tagged library tag hash)
  -- There is no tag in the state of dedicated hooks.
  | some _, direct => ∃ hash, state = some (.ofType (typeOf library) hash)

/-- Private state is there exactly if a tag is held. -/
theorem Holds.isSome_eq {path : HookPath} {library : Library} {held : Option Tag}
    {state : Option (PrivateState Library State Direct)} (holds : path.Holds library held state) :
    state.isSome = held.isSome := by
  -- The kind of state does not matter to its presence.
  cases held with
  | none =>
    obtain rfl : state = none := holds
    rfl
  | some tag =>
    cases path with
    | tagged =>
      obtain ⟨hash, rfl⟩ := holds
      rfl
    | direct =>
      obtain ⟨hash, rfl⟩ := holds
      rfl

end HookPath

namespace Backend

variable {Library State Direct Memory : Type}

/-- The backend with a record kept of each library call. -/
def recorded (backend : Backend Library State Direct Memory) :
    Backend Library State Direct (Recorded Memory) where
  tagged library := (backend.tagged library).recorded
  direct library := (backend.direct library).recorded
  directZero := backend.directZero
  callsFree := backend.callsFree

variable [DecidableEq Library] [DedicatedStates Library]
  (backend : Backend Library State Direct Memory) {path : HookPath} {library : Library}
  {algorithm : Algorithm} {method : Method Library}
  {frame : Frame Library State Direct (Recorded Memory)}

/-- The init hook makes one call, which frees nothing, and stamps the state. -/
theorem runInit_recorded {tag : Tag} (holds : path.Holds library (some tag) frame.state) :
    ∃ status after,
      backend.recorded.runInit (path.recipe library algorithm).init frame = (status, after) ∧
      path.Holds library (some (some algorithm)) after.state ∧
      GoesOn [] frame.memory.calls after.memory.calls := by
  -- Whatever the call returns, the hook keeps what it left behind.
  cases path with
  | tagged =>
    obtain ⟨hash, held⟩ := holds
    exact ⟨_, _, backend.recorded.runInit_tagged algorithm held, ⟨_, rfl⟩, GoesOn.other rfl _⟩
  | direct =>
    obtain ⟨hash, held⟩ := holds
    exact ⟨_, _, backend.recorded.runInit_direct held, ⟨_, rfl⟩, GoesOn.other rfl _⟩

/-- The update hook frees nothing and keeps the state. -/
theorem runUpdate_recorded (data : Bytes) {held : Option Tag}
    (holds : path.Holds library held frame.state) :
    ∃ status after,
      backend.recorded.runUpdate (path.recipe library algorithm).update data frame =
        (status, after) ∧
      path.Holds library held after.state ∧ GoesOn [] frame.memory.calls after.memory.calls := by
  -- Without state no call is made, nor for an empty piece.
  cases held with
  | none =>
    cases path with
    | tagged =>
      have absent := Frame.tagged?_of_none library holds
      exact ⟨_, _, backend.recorded.runUpdate_tagged_absent data absent, holds, GoesOn.refl _⟩
    | direct =>
      have absent := Frame.direct?_of_none (typeOf library) holds
      exact ⟨_, _, backend.recorded.runUpdate_direct_absent data absent, holds, GoesOn.refl _⟩
  | some tag =>
    cases path with
    | tagged =>
      obtain ⟨hash, held⟩ := holds
      by_cases empty : data = []
      · subst empty
        exact ⟨_, _, backend.recorded.runUpdate_tagged_nil held, ⟨hash, held⟩, GoesOn.refl _⟩
      · exact ⟨_, _, backend.recorded.runUpdate_tagged held empty, ⟨_, rfl⟩, GoesOn.other rfl _⟩
    | direct =>
      obtain ⟨hash, held⟩ := holds
      by_cases empty : data = []
      · subst empty
        exact ⟨_, _, backend.recorded.runUpdate_direct_nil held, ⟨hash, held⟩, GoesOn.refl _⟩
      · exact ⟨_, _, backend.recorded.runUpdate_direct held empty, ⟨_, rfl⟩, GoesOn.other rfl _⟩

/-- The final hook frees nothing and keeps the state. -/
theorem runFinal_recorded (buffer : Bytes) {held : Option Tag}
    (holds : path.Holds library held frame.state) :
    ∃ written status after,
      backend.recorded.runFinal (path.recipe library algorithm).final buffer frame =
        (written, status, after) ∧
      path.Holds library held after.state ∧ GoesOn [] frame.memory.calls after.memory.calls := by
  -- Without state no call is made.
  cases held with
  | none =>
    cases path with
    | tagged =>
      have absent := Frame.tagged?_of_none library holds
      exact ⟨_, _, _, backend.recorded.runFinal_tagged_absent buffer absent, holds, GoesOn.refl _⟩
    | direct =>
      have absent := Frame.direct?_of_none (typeOf library) holds
      exact ⟨_, _, _, backend.recorded.runFinal_direct_absent buffer absent, holds, GoesOn.refl _⟩
  | some tag =>
    cases path with
    | tagged =>
      obtain ⟨hash, held⟩ := holds
      exact ⟨_, _, _, backend.recorded.runFinal_tagged buffer held, ⟨_, rfl⟩, GoesOn.other rfl _⟩
    | direct =>
      obtain ⟨hash, held⟩ := holds
      exact ⟨_, _, _, backend.recorded.runFinal_direct buffer held, ⟨_, rfl⟩, GoesOn.other rfl _⟩

/-- A cleanup frees what is held, once, and leaves no state. -/
theorem cleanup_recorded (prescribed : (path.recipe library algorithm).Prescribes method)
    {held : Option Tag} (holds : path.Holds library held frame.state) :
    path.Holds library none (backend.recorded.cleanup method frame).2.state ∧
      GoesOn (path.freesOf backend.callsFree held) frame.memory.calls
        (backend.recorded.cleanup method frame).2.memory.calls := by
  -- Only held state has the hook run, which frees it where the path does.
  refine ⟨state_cleanup _ method frame, ?_⟩
  cases held with
  | none =>
    rw [cleanup_of_none _ method holds]
    have nothing : path.freesOf backend.callsFree none = [] := by simp [HookPath.freesOf]
    rw [nothing]
    exact GoesOn.refl _
  | some tag =>
    cases path with
    | tagged =>
      obtain ⟨hash, held⟩ := holds
      rw [cleanup_of_some _ prescribed held]
      cases frees : backend.callsFree with
      | true =>
        have hook := backend.recorded.runCleanup_tagged held frees
        simp only [HookPath.recipe, Recipe.tagged]
        rw [hook]
        exact GoesOn.free _ _
      | false =>
        have hook := backend.recorded.runCleanup_tagged_skipped held frees
        simp only [HookPath.recipe, Recipe.tagged]
        rw [hook]
        exact GoesOn.refl _
    | direct =>
      obtain ⟨hash, held⟩ := holds
      rw [cleanup_of_some _ prescribed held]
      have hook : backend.recorded.runCleanup (.direct library) frame = _ :=
        backend.recorded.runCleanup_direct held
      simp only [HookPath.recipe, Recipe.direct]
      rw [hook]
      exact GoesOn.free _ _

/-- Allocation frees what is held, and what it allocates bears no algorithm's tag. -/
theorem allocated_recorded (prescribed : (path.recipe library algorithm).Prescribes method)
    {held : Option Tag} (holds : path.Holds library held frame.state) :
    path.Holds library (some none)
        (backend.recorded.allocated (path.recipe library algorithm) method frame).state ∧
      GoesOn (path.freesOf backend.callsFree held) frame.memory.calls
        (backend.recorded.allocated (path.recipe library algorithm) method frame).memory.calls := by
  -- The calls are those of the cleanup, and the state is that of the path's kind.
  obtain ⟨_, goesOn⟩ := backend.cleanup_recorded prescribed holds
  refine ⟨?_, goesOn⟩
  cases path with
  | tagged => exact ⟨_, rfl⟩
  | direct => exact ⟨_, rfl⟩

/-- An operation frees what it releases before any other call, and nothing else. -/
theorem run_recorded (prescribed : (path.recipe library algorithm).Prescribes method)
    (operation : Operation) {held : Option Tag} (holds : path.Holds library held frame.state) :
    path.Holds library (operation.holding algorithm held)
        (backend.recorded.run method operation frame).2.state ∧
      GoesOn (if operation.releases then path.freesOf backend.callsFree held else [])
        frame.memory.calls (backend.recorded.run method operation frame).2.memory.calls := by
  -- Three operations release, and the calls of the others free nothing.
  cases operation with
  | allocate =>
    rw [run_allocate prescribed]
    exact backend.allocated_recorded prescribed holds
  | init =>
    obtain ⟨fresh, freed⟩ := backend.allocated_recorded prescribed holds
    obtain ⟨status, after, hook, stamped, called⟩ := backend.runInit_recorded fresh
    rw [run_init prescribed hook]
    exact ⟨stamped, freed.trans called⟩
  | update data =>
    obtain ⟨status, after, hook, kept, called⟩ := backend.runUpdate_recorded data holds
    rw [run_update prescribed hook]
    exact ⟨kept, called⟩
  | finalizeInto buffer =>
    by_cases short : buffer.length < (path.recipe library algorithm).resultSize
    · rw [run_finalizeInto_short prescribed short]
      exact ⟨holds, GoesOn.refl _⟩
    · obtain ⟨written, status, after, hook, kept, called⟩ := backend.runFinal_recorded buffer holds
      rw [run_finalizeInto prescribed (Nat.not_lt.mp short) hook]
      exact ⟨kept, called⟩
  | finalize =>
    obtain ⟨written, status, after, hook, kept, called⟩ := backend.runFinal_recorded
      (List.replicate (path.recipe library algorithm).resultSize 0) holds
    rw [run_finalize prescribed hook]
    exact ⟨kept, called⟩
  | cleanup => exact backend.cleanup_recorded prescribed holds

/-- Runs operations one after another, for what they leave behind. -/
def runAll (backend : Backend Library State Direct Memory) (method : Method Library)
    (operations : List Operation) (frame : Frame Library State Direct Memory) :
    Frame Library State Direct Memory :=
  -- The answers are dropped.
  operations.foldl (fun frame operation => (backend.run method operation frame).2) frame

/-- The frees of one operation keep the balance between frees, states allocated and the state held. -/
theorem run_balanced (prescribed : (path.recipe library algorithm).Prescribes method)
    (frees : path.frees backend.callsFree = true) (operation : Operation) {held : Option Tag}
    (holds : path.Holds library held frame.state) :
    freeCount (backend.recorded.run method operation frame).2.memory.calls +
        (operation.holding algorithm held).isSome.toNat =
      freeCount frame.memory.calls + held.isSome.toNat + operation.allocates.toNat := by
  obtain ⟨_, goesOn⟩ := backend.run_recorded prescribed operation holds
  have counted := goesOn.freeCount_eq ?genuine
  case genuine =>
    intro call member
    split at member
    · exact HookPath.isFree_of_mem_freesOf member
    · cases member
  rw [counted]
  -- What is held is freed by the operations that release, and counts on for the others.
  have length := HookPath.length_freesOf frees held
  cases operation with
  | allocate | init | cleanup =>
    simp only [Operation.releases, Operation.holding, Operation.allocates, if_true, length,
      Option.isSome_some, Option.isSome_none, Bool.toNat_true, Bool.toNat_false]
  | update _ | finalizeInto _ | finalize =>
    simp [Operation.releases, Operation.holding, Operation.allocates]

/-- Operations one after another keep the balance, and tell which tag is held. -/
theorem runAll_balanced (prescribed : (path.recipe library algorithm).Prescribes method)
    (operations : List Operation) {held : Option Tag}
    (holds : path.Holds library held frame.state) :
    path.Holds library (operations.foldl (Operation.holding algorithm) held)
        (backend.recorded.runAll method operations frame).state ∧
      (path.frees backend.callsFree = true →
        freeCount (backend.recorded.runAll method operations frame).memory.calls +
            (operations.foldl (Operation.holding algorithm) held).isSome.toNat =
          freeCount frame.memory.calls + held.isSome.toNat +
            operations.countP Operation.allocates) ∧
      (path.frees backend.callsFree = false →
        freeCount (backend.recorded.runAll method operations frame).memory.calls =
          freeCount frame.memory.calls) := by
  -- The induction is on the operations; each keeps the balance that the rest starts from.
  induction operations generalizing frame held with
  | nil => exact ⟨holds, fun _ => rfl, fun _ => rfl⟩
  | cons operation rest ih =>
    obtain ⟨next, goesOn⟩ := backend.run_recorded prescribed operation holds
    obtain ⟨final, balanced, quiet⟩ := ih next
    refine ⟨final, ?_, ?_⟩
    · intro frees
      have first := backend.run_balanced prescribed frees operation holds
      have later := balanced frees
      simp only [runAll, List.foldl_cons, List.countP_cons] at later ⊢
      cases allocates : operation.allocates with
      | true =>
        simp only [allocates, Bool.toNat_true, if_true] at first ⊢
        omega
      | false =>
        simp only [allocates, Bool.toNat_false, Bool.false_eq_true, if_false] at first ⊢
        omega
    · intro skips
      have none : ∀ tag, path.freesOf backend.callsFree tag = [] := by
        simp [HookPath.freesOf, skips]
      rw [none, ite_self] at goesOn
      have later := quiet skips
      have first := goesOn.freeCount_eq (by simp)
      simp only [runAll, List.foldl_cons] at later ⊢
      rw [later, first, List.length_nil, Nat.add_zero]

/-- The pieces absorbed up to the first failure are updates. -/
theorem updateAll_eq_runAll (backend : Backend Library State Direct Memory)
    (method : Method Library) (pieces : List Bytes) (frame : Frame Library State Direct Memory) :
    ∃ absorbed : List Bytes, (backend.updateAll method pieces frame).2 =
      backend.runAll method (absorbed.map .update) frame := by
  -- The induction stops where an update fails.
  induction pieces generalizing frame with
  | nil => exact ⟨[], rfl⟩
  | cons piece rest ih =>
    rcases updated : backend.update method piece frame with ⟨answer, next⟩
    have ran : (backend.run method (.update piece) frame).2 = next := by
      rw [run, updated]
      rfl
    cases answer with
    | error cause =>
      refine ⟨[piece], ?_⟩
      simp only [updateAll, updated]
      exact ran.symm
    | ok _ =>
      obtain ⟨absorbed, eq⟩ := ih next
      refine ⟨piece :: absorbed, ?_⟩
      simp only [updateAll, updated, eq, runAll, List.map_cons, List.foldl_cons, ran]

/-- The digest of pieces is an initialization, further operations that allocate nothing, and a cleanup. -/
theorem digestPieces_eq_runAll (backend : Backend Library State Direct Memory)
    (method : Method Library) (pieces : List Bytes) (frame : Frame Library State Direct Memory) :
    ∃ operations : List Operation, operations.countP Operation.allocates = 0 ∧
      (backend.digestPieces method pieces frame).2 =
        (backend.cleanup method (backend.runAll method (.init :: operations) frame)).2 := by
  -- The first failure, if any, decides how many operations there are.
  rcases initialized : backend.init method frame with ⟨answer, running⟩
  have began : (backend.run method .init frame).2 = running := by
    rw [run, initialized]
    rfl
  cases answer with
  | error cause =>
    refine ⟨[], rfl, ?_⟩
    simp only [digestPieces, initialized, runAll, List.foldl_cons, List.foldl_nil, began]
  | ok _ =>
    obtain ⟨absorbed, fed⟩ := backend.updateAll_eq_runAll method pieces running
    have updates : (absorbed.map Operation.update).countP Operation.allocates = 0 := by
      simp [List.countP_eq_zero, Operation.allocates]
    rcases updated : backend.updateAll method pieces running with ⟨answer, full⟩
    rw [updated] at fed
    cases answer with
    | error cause =>
      refine ⟨absorbed.map .update, updates, ?_⟩
      simp only [digestPieces, initialized, updated, runAll, List.foldl_cons, began] at fed ⊢
      rw [fed]
    | ok _ =>
      refine ⟨absorbed.map .update ++ [.finalize], ?_, ?_⟩
      · rw [List.countP_append, updates]
        rfl
      · simp only [digestPieces, initialized, updated, runAll, List.foldl_cons, List.foldl_append,
          List.foldl_nil, began] at fed ⊢
        rw [← fed]
        rfl

/-- A drop frees what is still held: as many frees were made as states allocated, or none at all. -/
theorem dropped_balanced (prescribed : (path.recipe library algorithm).Prescribes method)
    (operations : List Operation) (unallocated : frame.state = none) :
    let dropped :=
      (backend.recorded.cleanup method (backend.recorded.runAll method operations frame)).2
    (path.frees backend.callsFree = true →
      freeCount dropped.memory.calls =
        freeCount frame.memory.calls + operations.countP Operation.allocates) ∧
    (path.frees backend.callsFree = false →
      freeCount dropped.memory.calls = freeCount frame.memory.calls) := by
  have holds : path.Holds library none frame.state := unallocated
  -- A drop is one more cleanup, behind which nothing is held.
  have ran : (backend.recorded.cleanup method
      (backend.recorded.runAll method operations frame)).2 =
        backend.recorded.runAll method (operations ++ [.cleanup]) frame := by
    rw [runAll, runAll, List.foldl_append]
    rfl
  obtain ⟨_, balanced, quiet⟩ :=
    backend.runAll_balanced prescribed (operations ++ [.cleanup]) holds
  intro dropped
  simp only [dropped, ran]
  refine ⟨fun frees => ?_, quiet⟩
  have balance := balanced frees
  simpa [Operation.holding, Operation.allocates] using balance

/-- Over any library, a context on a complete record of a generic or dedicated recipe frees each state it allocates
exactly once, where the build frees at all: under the tag that the state bears, and before any call on the next. -/
theorem states_freed_once {HostMemory : Type} {host : Host Library HostMemory}
    (loyal : host.StoresOrSkips) (givesEmpty : host.GivesEmpty) {pkeyNids : List Nid}
    {site : Site HostMemory} {record : Record Library}
    (built : ((path.recipe library algorithm).build host pkeyNids site).1 = .ok record)
    (complete : record.method.isComplete = true) (memory : Memory) (log : List LogRecord) :
    let start : Frame Library State Direct (Recorded Memory) := { memory := ⟨memory, []⟩, log }
    let after := fun operations => backend.recorded.runAll record.method operations start
    (path.frees backend.callsFree = true →
      (∀ operations,
        freeCount (after operations).memory.calls + (after operations).state.isSome.toNat =
          operations.countP Operation.allocates ∧
        path.Holds library (Operation.heldAfter algorithm operations) (after operations).state ∧
        (∀ operation : Operation, GoesOn
          (if operation.releases then
            (Operation.heldAfter algorithm operations).toList.map path.freeCall
          else [])
          (after operations).memory.calls (after (operations ++ [operation])).memory.calls) ∧
        freeCount
            (backend.recorded.cleanup record.method (after operations)).2.memory.calls =
          operations.countP Operation.allocates) ∧
      ∀ data,
        freeCount (backend.recorded.digest record.method data start).2.memory.calls = 1) ∧
    (path.frees backend.callsFree = false →
      (∀ operations, freeCount (after operations).memory.calls = 0 ∧
        freeCount
          (backend.recorded.cleanup record.method (after operations)).2.memory.calls = 0) ∧
      ∀ data,
        freeCount (backend.recorded.digest record.method data start).2.memory.calls = 0) := by
  intro start after
  have prescribed := Recipe.prescribes_of_complete loyal givesEmpty built complete
  have unallocated : path.Holds library none start.state := rfl
  refine ⟨fun frees => ⟨?_, ?_⟩, fun skips => ⟨?_, ?_⟩⟩
  · intro operations
    obtain ⟨holds, balanced, _⟩ := backend.runAll_balanced prescribed operations unallocated
    have held : (after operations).state.isSome =
        (Operation.heldAfter algorithm operations).isSome := holds.isSome_eq
    -- No call was made before the first operation.
    have balance : freeCount (after operations).memory.calls +
        (Operation.heldAfter algorithm operations).isSome.toNat =
          0 + 0 + operations.countP Operation.allocates := balanced frees
    have dropped : freeCount
        (backend.recorded.cleanup record.method (after operations)).2.memory.calls =
          0 + operations.countP Operation.allocates :=
      (backend.dropped_balanced prescribed operations unallocated).1 frees
    refine ⟨?_, holds, ?_, ?_⟩
    · rw [held, balance]
      omega
    · intro operation
      have goesOn := (backend.run_recorded prescribed operation holds).2
      have next : after (operations ++ [operation]) =
          (backend.recorded.run record.method operation (after operations)).2 := by
        simp only [after, runAll, List.foldl_append, List.foldl_cons, List.foldl_nil]
      rw [next]
      simp only [HookPath.freesOf, frees, if_true] at goesOn
      exact goesOn
    · rw [dropped, Nat.zero_add]
  · intro data
    -- The one state that is allocated is freed by the drop at the latest.
    obtain ⟨operations, none, ran⟩ :=
      backend.recorded.digestPieces_eq_runAll record.method [data] start
    obtain ⟨dropped, _⟩ := backend.dropped_balanced prescribed (.init :: operations) unallocated
    rw [digest, ran, dropped frees, List.countP_cons, none]
    rfl
  · intro operations
    obtain ⟨_, _, quiet⟩ := backend.runAll_balanced prescribed operations unallocated
    obtain ⟨_, dropped⟩ := backend.dropped_balanced prescribed operations unallocated
    exact ⟨quiet skips, dropped skips⟩
  · intro data
    obtain ⟨operations, _, ran⟩ :=
      backend.recorded.digestPieces_eq_runAll record.method [data] start
    obtain ⟨_, dropped⟩ := backend.dropped_balanced prescribed (.init :: operations) unallocated
    rw [digest, ran, dropped skips]
    rfl

/-- A library that fails every call still has every state given back. -/
theorem states_freed_once_failing :
    let failed : LibStatus := ⟨-1⟩
    let backend : Backend Unit Unit Unit Unit :=
      { tagged := fun _ =>
          { zero := ()
            init := fun _ state memory => ⟨failed, state, memory⟩
            update := fun _ _ state memory => ⟨failed, state, memory⟩
            final := fun _ buffer state memory => (buffer, ⟨failed, state, memory⟩)
            free := fun _ state memory => ⟨failed, state, memory⟩ }
        direct := fun _ =>
          { init := fun state memory => ⟨failed, state, memory⟩
            update := fun _ state memory => ⟨failed, state, memory⟩
            final := fun buffer state memory => (buffer, ⟨failed, state, memory⟩)
            free := fun state memory => ⟨failed, state, memory⟩ }
        directZero := fun _ => () }
    let recipe : Recipe Unit := HookPath.tagged.recipe () .sha256
    let method := recipe.fill [] (Method.empty recipe.nid none)
    let start : Frame Unit Unit Unit (Recorded Unit) := { memory := ⟨(), []⟩, log := [] }
    let used := backend.recorded.runAll method [.init, .update [1], .init, .finalize] start
    freeCount (backend.recorded.cleanup method used).2.memory.calls = 2 ∧
      freeCount (backend.recorded.digest method [1] start).2.memory.calls = 1 := by
  -- The record is the stock host's, which neither skips nor refuses.
  intro failed backend recipe method start used
  have built : (recipe.build Host.stock [] { memory := () }).1 = .ok ⟨0, method⟩ := rfl
  obtain ⟨freed, _⟩ := states_freed_once backend Host.stock_stores.storesOrSkips
    Host.stock_givesEmpty built rfl () []
  obtain ⟨operations, digests⟩ := freed rfl
  obtain ⟨_, _, _, dropped⟩ := operations [.init, .update [1], .init, .finalize]
  exact ⟨dropped, digests [1]⟩

end Backend

end DigestProvider
