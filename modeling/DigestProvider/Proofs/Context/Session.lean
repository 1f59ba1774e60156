import DigestProvider.Proofs.Context.Lifecycle
import DigestProvider.Proofs.Registry.Offers

/-!
Contexts used in turns, with registrations in between: what one context answers depends on its own operations alone,
and on the calls that were made to fail during them.
-/

namespace DigestProvider

/-- One step of a session. -/
inductive SessionStep (Name Library Memory : Type) where
  /-- A context runs an operation. -/
  | operate (context : Name) (operation : Operation)
  /-- A registry goes through a call that may publish. -/
  | register (registry : Name) (request : Host Library Memory × Registration Library)

/-- The operation that a step runs on one context, if it is about that context. -/
def SessionStep.operationOn? {Name Library Memory : Type} [DecidableEq Name] (context : Name) :
    SessionStep Name Library Memory → Option Operation
  | operate other operation => if other = context then some operation else none
  | register _ _ => none

/-- What was observed of an operation. -/
structure SessionEvent (Name : Type) where
  /-- The context that ran it. -/
  context : Name
  /-- The operation. -/
  operation : Operation
  /-- The entry points whose calls were made to fail meanwhile. -/
  forced : List EntryPoint
  /-- What it answered. -/
  answer : OperationAnswer

/-- The private states of contexts, and registries, over one memory and log that hosts and libraries share. -/
structure Session (Name Library Memory : Type) where
  /-- The private state of each context. -/
  states : Name → Option (PrivateState Library StockState StockLibrary.DirectState)
  /-- The registries. -/
  registries : Name → Registry Library
  /-- The memory, the serial numbers of records and the log. -/
  site : Site Memory

namespace Session

variable {Name Library Memory : Type} [DecidableEq Name] [DecidableEq Library]
  [DedicatedStates Library]

/-- Runs one step; an operation leaves an event behind. -/
def advance (script : Script Memory) (callsFree : Bool) (records : Name → Record Library)
    (session : Session Name Library Memory) :
    SessionStep Name Library Memory → Option (SessionEvent Name) × Session Name Library Memory
  -- A registration may change the memory that the calls of contexts see.
  | .register registry request =>
    let after := (Registrar.mk (session.registries registry) session.site).perform request
    (none,
      { session with
        registries := fun other =>
          if other = registry then after.registry else session.registries other
        site := after.site })
  | .operate context operation =>
    -- The list of failures is emptied first, so that afterwards it tells of this operation alone.
    let (answer, after) := (Backend.scripted Library script.noted callsFree).run
      (records context).method operation
      { state := session.states context
        memory := (session.site.memory, [])
        log := session.site.log }
    (some { context, operation, forced := after.memory.2, answer },
      { session with
        states := fun other => if other = context then after.state else session.states other
        site := { session.site with memory := after.memory.1, log := after.log } })

/-- The events of steps one after another. -/
def events (script : Script Memory) (callsFree : Bool) (records : Name → Record Library)
    (session : Session Name Library Memory) :
    List (SessionStep Name Library Memory) → List (SessionEvent Name)
  | [] => []
  | step :: rest =>
    let (event, next) := session.advance script callsFree records step
    event.toList ++ next.events script callsFree records rest

/-- Each context's private state is as its phase has it. -/
def Matches (library : Name → Library) (algorithm : Name → Algorithm) (phases : Name → Phase)
    (session : Session Name Library Memory) : Prop :=
  -- Registries, memory and log are of no account.
  ∀ context, (phases context).Matches (library context) (algorithm context)
    (session.states context)

variable {script : Script Memory} {callsFree : Bool} {records : Name → Record Library}
  {library : Name → Library} {algorithm : Name → Algorithm} {phases : Name → Phase}
  {session : Session Name Library Memory}

/-- An operation is as the machine of its context has it, and concerns no other context. -/
theorem operate_predicted (fails : script.OnlyFails) (callsFree : Bool)
    (made : ∀ context,
      (Recipe.tagged (library context) (algorithm context)).Makes (records context))
    (matched : session.Matches library algorithm phases) (context : Name) (operation : Operation) :
    ∃ forced next,
      session.advance script callsFree records (.operate context operation) =
        (some ⟨context, operation, forced,
          ((phases context).step (algorithm context) forced operation).1⟩, next) ∧
      next.Matches library algorithm fun other =>
        if other = context then ((phases context).step (algorithm context) forced operation).2
        else phases other := by
  -- The one context that moves starts with nothing noted.
  let frame : Frame Library StockState StockLibrary.DirectState (Memory × List EntryPoint) :=
    { state := session.states context
      memory := (session.site.memory, [])
      log := session.site.log }
  let outcome := (Backend.scripted Library script.noted callsFree).run (records context).method
    operation frame
  obtain ⟨answered, follows⟩ : (phases context).Predicts (library context) (algorithm context)
      operation outcome :=
    Backend.run_predicted (made context).prescribes fails callsFree operation (matched context) rfl
  refine ⟨outcome.2.memory.2,
    (session.advance script callsFree records (.operate context operation)).2, ?_, ?_⟩
  · rw [← answered]
    rfl
  · intro other
    by_cases own : other = context
    · subst own
      simpa only [advance, if_true] using follows
    · simpa only [advance, own, if_false] using matched other

/-- A registration concerns no context. -/
theorem register_matches (script : Script Memory) (callsFree : Bool)
    (records : Name → Record Library) (matched : session.Matches library algorithm phases)
    (registry : Name) (request : Host Library Memory × Registration Library) :
    (session.advance script callsFree records (.register registry request)).2.Matches library
      algorithm phases :=
  matched

/-- Contexts in any phases answer their own operations as their own machines do. -/
theorem events_predicted (fails : script.OnlyFails)
    (made : ∀ context,
      (Recipe.tagged (library context) (algorithm context)).Makes (records context))
    (matched : session.Matches library algorithm phases)
    (steps : List (SessionStep Name Library Memory)) (context : Name) :
    let own := (session.events script callsFree records steps).filter (·.context = context)
    own.map SessionEvent.operation = steps.filterMap (SessionStep.operationOn? context) ∧
      own.map SessionEvent.answer = (phases context).answers (algorithm context)
        (own.map fun event => (event.operation, event.forced)) := by
  -- The induction carries the phases of all contexts, of which one step moves at most one.
  induction steps generalizing session phases with
  | nil => exact ⟨rfl, rfl⟩
  | cons step rest ih =>
    cases step with
    | register registry request =>
      exact ih (register_matches script callsFree records matched registry request)
    | operate other operation =>
      obtain ⟨forced, next, advanced, follows⟩ :=
        operate_predicted fails callsFree made matched other operation
      obtain ⟨operations, answers⟩ := ih follows
      simp only [events, advanced, Option.toList_some, List.singleton_append]
      by_cases own : other = context
      · -- The event is the context's own, and its machine goes on from the phase behind it.
        subst own
        simp only [if_true] at operations answers
        simp only [List.filter_cons, decide_true, if_true, List.map_cons, List.filterMap_cons,
          SessionStep.operationOn?, Phase.answers, operations, answers, and_self]
      · -- The event is another's, and the phase stays.
        rw [if_neg (Ne.symm own)] at answers
        simp only [List.filter_cons, own, decide_false, Bool.false_eq_true, if_false,
          List.filterMap_cons, SessionStep.operationOn?]
        exact ⟨operations, answers⟩

/-- However the contexts of a session take turns, and whatever is registered in between, each answers as the machine
of three phases run on its own operations, given the calls that were made to fail during each. -/
theorem lifecycle_refines_machine (fails : script.OnlyFails)
    (made : ∀ context,
      (Recipe.tagged (library context) (algorithm context)).Makes (records context))
    (unallocated : ∀ context, session.states context = none)
    (steps : List (SessionStep Name Library Memory)) (context : Name) :
    let own := (session.events script callsFree records steps).filter (·.context = context)
    own.map SessionEvent.operation = steps.filterMap (SessionStep.operationOn? context) ∧
      own.map SessionEvent.answer = Phase.unallocated.answers (algorithm context)
        (own.map fun event => (event.operation, event.forced)) := by
  -- At the start every context is in the first phase.
  have matched : session.Matches library algorithm fun _ => .unallocated := unallocated
  exact events_predicted fails made matched steps context

/-- A context whose init call is made to fail between the operations of another one refuses bytes afterwards. -/
theorem lifecycle_refines_machine_failed_init :
    let script : Script Nat := fun _ count =>
      (if count = 1 then some .badArgument else none, count + 1)
    let recipe : Recipe Unit := .tagged () .sha256
    let record : Record Unit := ⟨0, recipe.fill [] (Method.empty recipe.nid none)⟩
    let session : Session Bool Unit Nat :=
      { states := fun _ => none, registries := fun _ => Registry.empty, site := { memory := 0 } }
    let steps : List (SessionStep Bool Unit Nat) :=
      [.operate true .init, .operate false .init, .register true (Host.stock, .publish record),
        .operate true (.update [1]), .operate false (.update [2])]
    let own := (session.events script true (fun _ => record) steps).filter (·.context = false)
    own.map SessionEvent.answer =
      [.done (.error (.operationFailed "init")), .done (.error (.operationFailed "update"))] := by
  -- Only what was made to fail is evaluated; the answers are then the machine's.
  intro script recipe record session steps own
  have fails : script.OnlyFails := by
    intro entry count status settled
    by_cases second : count = 1
    · simp only [script, second, if_true, Option.some.injEq] at settled
      rw [← settled]
      rfl
    · simp [script, second] at settled
  have made : ∀ _ : Bool, recipe.Makes record :=
    fun _ => ⟨Unit, Host.stock, [], { memory := () }, Host.stock_stores, rfl⟩
  have refined := @lifecycle_refines_machine Bool Unit Nat _ _ _ script true (fun _ => record)
    (fun _ => ()) (fun _ => .sha256) session fails made (fun _ => rfl) steps false
  have calls : own.map (fun event => (event.operation, event.forced)) =
      [(.init, [.hashInit]), (.update [2], [])] := rfl
  have answers : own.map SessionEvent.answer = Phase.unallocated.answers .sha256
      (own.map fun event => (event.operation, event.forced)) := refined.2
  rw [calls] at answers
  exact answers

end Session

end DigestProvider
