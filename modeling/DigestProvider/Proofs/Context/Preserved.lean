import DigestProvider.Proofs.Context.Prescribed

/-!
What the hooks of a method keep about private state, the operations of its contexts keep as well. Main statement: it
holds behind any steps on a context, operations and direct calls of the hooks alike.
-/

namespace DigestProvider

/-- What may be done to a context: an operation, or a call of one of the hooks of its method. -/
inductive ContextStep where
  | operate (operation : Operation)
  | initHook
  | updateHook (data : Bytes)
  | finalHook (buffer : Bytes)
  | cleanupHook
  deriving DecidableEq, Repr

/-- What is answered to a step. -/
inductive StepAnswer where
  | operated (answer : OperationAnswer)
  /-- What the hook reported, unless it is not set, and the buffer as it was left. -/
  | hooked (status : Option HostStatus) (buffer : Bytes)

namespace Backend

variable {Library State Direct Memory : Type} [DecidableEq Library] [DedicatedStates Library]

/-- Takes one step; a hook that is not set does nothing. -/
def take (backend : Backend Library State Direct Memory) (method : Method Library)
    (step : ContextStep) (frame : Frame Library State Direct Memory) :
    StepAnswer × Frame Library State Direct Memory :=
  let report := fun (outcome : Option (HostStatus × Frame Library State Direct Memory)) =>
    match outcome with
    | none => (.hooked none [], frame)
    | some (status, after) => (.hooked (some status) [], after)
  match step with
  | .operate operation => (backend.run method operation frame).map .operated id
  | .initHook => report (method.init.map fun hook => backend.runInit hook frame)
  | .updateHook data => report (method.update.map fun hook => backend.runUpdate hook data frame)
  | .cleanupHook => report (method.cleanup.map fun hook => backend.runCleanup hook frame)
  | .finalHook buffer =>
    match method.final with
    | none => (.hooked none buffer, frame)
    | some hook =>
      let (written, status, after) := backend.runFinal hook buffer frame
      (.hooked (some status) written, after)

/-- Takes steps one after another. -/
def takeAll (backend : Backend Library State Direct Memory) (method : Method Library) :
    List ContextStep → Frame Library State Direct Memory →
      List StepAnswer × Frame Library State Direct Memory
  | [], frame => ([], frame)
  | step :: rest, frame =>
    let (answer, next) := backend.take method step frame
    let (answers, after) := backend.takeAll method rest next
    (answer :: answers, after)

end Backend

variable {Library State Direct Memory : Type}

/-- Something holds of the private state of a frame, if there is any. -/
def Frame.Holds (frame : Frame Library State Direct Memory)
    (Property : PrivateState Library State Direct → Prop) : Prop :=
  ∀ held ∈ frame.state, Property held

/-- Anything holds where there is no private state. -/
theorem Frame.holds_of_none {frame : Frame Library State Direct Memory}
    {Property : PrivateState Library State Direct → Prop} (free : frame.state = none) :
    frame.Holds Property := by
  -- There is no state to ask about.
  intro held member
  rw [free] at member
  cases member

/-- Where the private state is known, it is all that there is to look at. -/
theorem Frame.holds_of_some {frame : Frame Library State Direct Memory}
    {Property : PrivateState Library State Direct → Prop}
    {held : PrivateState Library State Direct} (holds : frame.state = some held)
    (property : Property held) : frame.Holds Property := by
  -- A frame holds one private state at most.
  intro other member
  rw [holds] at member
  exact Option.some.inj member ▸ property

namespace Backend

variable [DecidableEq Library] [DedicatedStates Library]
  {backend : Backend Library State Direct Memory}
  {method : Method Library} {Property : PrivateState Library State Direct → Prop}
  {frame : Frame Library State Direct Memory}

/-- Something holds of private state as a method declares it, and each hook that the method has keeps it. -/
structure HooksKeep (backend : Backend Library State Direct Memory) (method : Method Library)
    (Property : PrivateState Library State Direct → Prop) : Prop where
  /-- It holds of private state that was just allocated. -/
  allocated : ∀ kind ∈ method.stateKind, Property (backend.zeroState kind)
  /-- The init hook keeps it. -/
  init : ∀ hook ∈ method.init, ∀ frame : Frame Library State Direct Memory,
    frame.Holds Property → (backend.runInit hook frame).2.Holds Property
  /-- The update hook keeps it. -/
  update : ∀ hook ∈ method.update, ∀ data, ∀ frame : Frame Library State Direct Memory,
    frame.Holds Property → (backend.runUpdate hook data frame).2.Holds Property
  /-- The final hook keeps it. -/
  final : ∀ hook ∈ method.final, ∀ buffer, ∀ frame : Frame Library State Direct Memory,
    frame.Holds Property → (backend.runFinal hook buffer frame).2.2.Holds Property
  /-- The cleanup hook keeps it. -/
  cleanup : ∀ hook ∈ method.cleanup, ∀ frame : Frame Library State Direct Memory,
    frame.Holds Property → (backend.runCleanup hook frame).2.Holds Property

/-- What the hooks keep holds behind each operation. -/
theorem HooksKeep.run (keep : backend.HooksKeep method Property) (operation : Operation)
    (holds : frame.Holds Property) : (backend.run method operation frame).2.Holds Property := by
  -- Each operation is a hook, an allocation or both, unless one of the host's checks turns it back.
  cases operation with
  | allocate =>
    cases declared : method.stateKind with
    | none =>
      rw [Backend.run, backend.allocate_undeclared declared]
      exact Frame.holds_of_none (backend.state_cleanup method frame)
    | some kind =>
      rw [Backend.run, backend.allocate_declared declared]
      exact Frame.holds_of_some rfl (keep.allocated kind declared)
  | init =>
    cases present : method.init with
    | none =>
      rw [Backend.run, backend.init_absent present]
      exact holds
    | some hook =>
      cases declared : method.stateKind with
      | none =>
        rw [Backend.run, backend.init_undeclared present declared]
        exact Frame.holds_of_none (backend.state_cleanup method frame)
      | some kind =>
        rw [Backend.run, backend.init_of_hook present declared]
        -- The hook starts from what was allocated, and not from the state before.
        exact keep.init hook present _ (Frame.holds_of_some rfl (keep.allocated kind declared))
  | update data =>
    cases present : method.update with
    | none =>
      rw [Backend.run, backend.update_absent present]
      exact holds
    | some hook =>
      rw [Backend.run, backend.update_of_hook present]
      exact keep.update hook present data frame holds
  | finalizeInto buffer =>
    cases present : method.final with
    | none =>
      rw [Backend.run, backend.finalizeInto_absent present]
      exact holds
    | some hook =>
      -- The hook runs only where the buffer has room.
      by_cases short : buffer.length < method.resultSize
      · rw [Backend.run, backend.finalizeInto_of_short present short]
        exact holds
      · rw [Backend.run, backend.finalizeInto_of_hook present (Nat.not_lt.mp short)]
        exact keep.final hook present buffer frame holds
  | finalize =>
    cases present : method.final with
    | none =>
      rw [Backend.run, backend.finalize_absent present]
      exact holds
    | some hook =>
      rw [Backend.run, backend.finalize_of_hook present]
      exact keep.final hook present _ frame holds
  | cleanup => exact Frame.holds_of_none (backend.state_cleanup method frame)

/-- What the hooks keep holds behind each step, be it a direct call of a hook. -/
theorem HooksKeep.take (keep : backend.HooksKeep method Property) (step : ContextStep)
    (holds : frame.Holds Property) : (backend.take method step frame).2.Holds Property := by
  -- A hook that is not set does nothing.
  cases step with
  | operate operation => exact keep.run operation holds
  | initHook =>
    cases present : method.init with
    | none => simpa only [Backend.take, present, Option.map_none] using holds
    | some hook =>
      simpa only [Backend.take, present, Option.map_some] using keep.init hook present frame holds
  | updateHook data =>
    cases present : method.update with
    | none => simpa only [Backend.take, present, Option.map_none] using holds
    | some hook =>
      simpa only [Backend.take, present, Option.map_some]
        using keep.update hook present data frame holds
  | finalHook buffer =>
    cases present : method.final with
    | none => simpa only [Backend.take, present] using holds
    | some hook =>
      simpa only [Backend.take, present] using keep.final hook present buffer frame holds
  | cleanupHook =>
    cases present : method.cleanup with
    | none => simpa only [Backend.take, present, Option.map_none] using holds
    | some hook =>
      simpa only [Backend.take, present, Option.map_some]
        using keep.cleanup hook present frame holds

/-- What the hooks keep holds behind steps one after another. -/
theorem HooksKeep.takeAll (keep : backend.HooksKeep method Property) (steps : List ContextStep)
    (holds : frame.Holds Property) : (backend.takeAll method steps frame).2.Holds Property := by
  -- The induction is on the steps; each leaves what the rest starts from.
  induction steps generalizing frame with
  | nil => exact holds
  | cons step rest ih => exact ih (keep.take step holds)

end Backend

end DigestProvider
