import DigestProvider.Proofs.Context.Preserved

/-!
Hooks and private state of different kinds. Main statements: a hook that finds no private state of its own kind fails
without a library call and leaves the state and the buffer as they were, and no operation leaves private state of a
kind that its method does not declare.
-/

namespace DigestProvider

section Kinds

variable {Library State Direct Memory : Type}

/-- The kind of private state that was allocated. -/
def PrivateState.kind : PrivateState Library State Direct → StateKind Library
  | tagged library _ _ => .tagged library
  | ofType type _ => .direct type
  | plain size => .plain size

/-- The kind of private state that an init hook works on, if it works on any. -/
def InitHook.kind? [DedicatedStates Library] : InitHook Library → Option (StateKind Library)
  | tagged library _ => some (.tagged library)
  -- Libraries whose dedicated states are of one type take each other's.
  | direct library => some (.direct (typeOf library))
  -- A fixed status needs no state.
  | fixed _ => none

/-- The kind of private state that another hook works on, if it works on any. -/
def Hook.kind? [DedicatedStates Library] : Hook Library → Option (StateKind Library)
  | tagged library => some (.tagged library)
  | direct library => some (.direct (typeOf library))
  | fixed _ => none

/-- The kind of private state that a frame holds, if it holds any. -/
def Frame.kind? (frame : Frame Library State Direct Memory) : Option (StateKind Library) :=
  frame.state.map PrivateState.kind

/-- The private state of a frame, if it holds any, is of the kind that a method declares. -/
def Frame.AsDeclared (method : Method Library) (frame : Frame Library State Direct Memory) : Prop :=
  -- There may be a declaration without private state, but no private state against it.
  ∀ kind, frame.kind? = some kind → method.stateKind = some kind

/-- Adds records to the log and changes nothing else. -/
def Frame.tell (frame : Frame Library State Direct Memory) (records : List LogRecord) :
    Frame Library State Direct Memory :=
  { frame with log := frame.log ++ records }

/-- What is private state before any hook is of the kind that was asked for. -/
@[simp] theorem Backend.kind_zeroState (backend : Backend Library State Direct Memory)
    (kind : StateKind Library) : (backend.zeroState kind).kind = kind := by
  -- Each kind has a zero state of its own.
  cases kind <;> rfl

variable {frame : Frame Library State Direct Memory}

/-- Private state of a library's tagged kind has a tag and a hash state. -/
theorem Frame.state_of_kind_tagged {library : Library}
    (kind : frame.kind? = some (.tagged library)) :
    ∃ tag state, frame.state = some (.tagged library tag state) := by
  -- The kind names the library, and no other library's state is of this kind.
  obtain ⟨held, holds, kind⟩ := Option.map_eq_some_iff.mp kind
  cases held with
  | tagged owner tag state =>
    obtain rfl : owner = library := StateKind.tagged.inj kind
    exact ⟨tag, state, holds⟩
  | direct state => cases kind
  | plain size => cases kind

/-- Dedicated state of a type has a hash state. -/
theorem Frame.state_of_kind_direct {type : StateType}
    (kind : frame.kind? = some (.direct type)) :
    ∃ state, frame.state = some (.ofType type state) := by
  -- No other type of dedicated state is of this kind.
  obtain ⟨held, holds, kind⟩ := Option.map_eq_some_iff.mp kind
  cases held with
  | tagged owner tag state => cases kind
  | @direct owned state =>
    obtain rfl : owned = type := StateKind.direct.inj kind
    exact ⟨state, holds⟩
  | plain size => cases kind

/-- A frame without private state of a library's tagged kind shows none to that library. -/
theorem Frame.tagged?_of_lacks [DecidableEq Library] {library : Library}
    (lacks : frame.kind? ≠ some (.tagged library)) : frame.tagged? library = none := by
  -- Another library's tagged state counts as little as state of another kind.
  unfold Frame.tagged?
  split
  case h_1 owner tag state holds =>
    refine if_neg fun same => lacks ?_
    rw [Frame.kind?, holds, Option.map_some, PrivateState.kind, same]
  case h_2 => rfl

/-- A frame without dedicated state of a type shows none of that type. -/
theorem Frame.direct?_of_lacks {type : StateType} (lacks : frame.kind? ≠ some (.direct type)) :
    frame.direct? type = none := by
  -- Dedicated state of another type counts as little as state of another kind.
  unfold Frame.direct?
  split
  case h_1 owned state holds =>
    refine if_neg fun same => lacks ?_
    rw [Frame.kind?, holds, Option.map_some, PrivateState.kind, same]
  case h_2 => rfl

/-- A frame holds private state of a library's tagged kind, or shows none to that library. -/
theorem Frame.holds_tagged_or_absent [DecidableEq Library] (library : Library)
    (frame : Frame Library State Direct Memory) :
    (∃ tag state, frame.state = some (.tagged library tag state)) ∨
      frame.tagged? library = none := by
  -- What is not of the kind is not shown, be it another kind or nothing.
  by_cases kind : frame.kind? = some (.tagged library)
  · exact .inl (Frame.state_of_kind_tagged kind)
  · exact .inr (Frame.tagged?_of_lacks kind)

/-- A frame holds dedicated state of a type, or shows none of that type. -/
theorem Frame.holds_direct_or_absent (type : StateType)
    (frame : Frame Library State Direct Memory) :
    (∃ state, frame.state = some (.ofType type state)) ∨ frame.direct? type = none := by
  -- State of another type is not shown either, as the hooks ask by the type.
  by_cases kind : frame.kind? = some (.direct type)
  · exact .inl (Frame.state_of_kind_direct kind)
  · exact .inr (Frame.direct?_of_lacks kind)

/-- A frame without private state goes with every declaration. -/
theorem Frame.asDeclared_of_none {method : Method Library} (free : frame.state = none) :
    frame.AsDeclared method := by
  -- There is no kind to compare with the declaration.
  intro kind holds
  rw [Frame.kind?, free] at holds
  cases holds

/-- Private state is as declared if its kind was, for all the private state that there is. -/
theorem Frame.asDeclared_iff_holds {method : Method Library} :
    frame.AsDeclared method ↔ frame.Holds fun held => method.stateKind = some held.kind := by
  -- Both sides ask about the one private state that a frame may hold.
  constructor
  · intro asDeclared held member
    exact asDeclared held.kind (congrArg (Option.map PrivateState.kind) member)
  · intro holds kind held
    obtain ⟨state, member, rfl⟩ := Option.map_eq_some_iff.mp held
    exact holds state member

/-- What has the kind of private state that is as declared is so too. -/
theorem Frame.AsDeclared.of_kind {method : Method Library}
    {after : Frame Library State Direct Memory} (asDeclared : frame.AsDeclared method)
    (same : after.kind? = frame.kind?) : after.AsDeclared method :=
  fun kind holds => asDeclared kind (same ▸ holds)

end Kinds

namespace Backend

variable {Library State Direct Memory : Type} [DecidableEq Library] [DedicatedStates Library]
  (backend : Backend Library State Direct Memory) {frame : Frame Library State Direct Memory}

section Misfits

variable {kind : StateKind Library}

/-- An init hook that lacks private state of its kind fails, and only the log tells. -/
theorem runInit_of_lacks (hook : InitHook Library) (works : hook.kind? = some kind)
    (lacks : frame.kind? ≠ some kind) :
    ∃ told, backend.runInit hook frame = (.failure, frame.tell told) := by
  -- The log tells that the hook was entered and left.
  cases hook with
  | tagged library algorithm =>
    cases works
    rw [backend.runInit_tagged_absent algorithm (Frame.tagged?_of_lacks lacks), List.append_assoc]
    exact ⟨_, rfl⟩
  | direct library =>
    cases works
    rw [backend.runInit_direct_absent (Frame.direct?_of_lacks lacks), List.append_assoc]
    exact ⟨_, rfl⟩
  | fixed status => cases works

/-- An update hook that lacks private state of its kind fails, and only the log tells. -/
theorem runUpdate_of_lacks (hook : Hook Library) (works : hook.kind? = some kind)
    (lacks : frame.kind? ≠ some kind) (data : Bytes) :
    ∃ told, backend.runUpdate hook data frame = (.failure, frame.tell told) := by
  -- The check comes before the data is looked at.
  cases hook with
  | tagged library =>
    cases works
    rw [backend.runUpdate_tagged_absent data (Frame.tagged?_of_lacks lacks), List.append_assoc]
    exact ⟨_, rfl⟩
  | direct library =>
    cases works
    rw [backend.runUpdate_direct_absent data (Frame.direct?_of_lacks lacks), List.append_assoc]
    exact ⟨_, rfl⟩
  | fixed status => cases works

/-- A final hook that lacks private state of its kind fails, leaves the buffer, and only the log tells. -/
theorem runFinal_of_lacks (hook : Hook Library) (works : hook.kind? = some kind)
    (lacks : frame.kind? ≠ some kind) (buffer : Bytes) :
    ∃ told, backend.runFinal hook buffer frame = (buffer, .failure, frame.tell told) := by
  -- The check comes before the buffer is looked at.
  cases hook with
  | tagged library =>
    cases works
    rw [backend.runFinal_tagged_absent buffer (Frame.tagged?_of_lacks lacks), List.append_assoc]
    exact ⟨_, rfl⟩
  | direct library =>
    cases works
    rw [backend.runFinal_direct_absent buffer (Frame.direct?_of_lacks lacks), List.append_assoc]
    exact ⟨_, rfl⟩
  | fixed status => cases works

end Misfits

section Kept

/-- No init hook turns private state into another kind. -/
theorem kind?_runInit (hook : InitHook Library) :
    (backend.runInit hook frame).2.kind? = frame.kind? := by
  -- A hook of the state's kind keeps it with its library, and any other does not touch it.
  cases hook with
  | tagged library algorithm =>
    rcases frame.holds_tagged_or_absent library with ⟨tag, state, held⟩ | absent
    · rw [backend.runInit_tagged algorithm held, Frame.kind?, Frame.kind?, held]
      rfl
    · rw [backend.runInit_tagged_absent algorithm absent]
      rfl
  | direct library =>
    rcases frame.holds_direct_or_absent (typeOf library) with ⟨state, held⟩ | absent
    · rw [backend.runInit_direct held, Frame.kind?, Frame.kind?, held]
      rfl
    · rw [backend.runInit_direct_absent absent]
      rfl
  | fixed status => rfl

/-- No update hook turns private state into another kind. -/
theorem kind?_runUpdate (hook : Hook Library) (data : Bytes) :
    (backend.runUpdate hook data frame).2.kind? = frame.kind? := by
  -- An empty piece is no call at all, and any other call gives back state of the kind it was given.
  cases hook with
  | tagged library =>
    rcases frame.holds_tagged_or_absent library with ⟨tag, state, held⟩ | absent
    · by_cases empty : data = []
      · rw [empty, backend.runUpdate_tagged_nil held]
        rfl
      · rw [backend.runUpdate_tagged held empty, Frame.kind?, Frame.kind?, held]
        rfl
    · rw [backend.runUpdate_tagged_absent data absent]
      rfl
  | direct library =>
    rcases frame.holds_direct_or_absent (typeOf library) with ⟨state, held⟩ | absent
    · by_cases empty : data = []
      · rw [empty, backend.runUpdate_direct_nil held]
        rfl
      · rw [backend.runUpdate_direct held empty, Frame.kind?, Frame.kind?, held]
        rfl
    · rw [backend.runUpdate_direct_absent data absent]
      rfl
  | fixed status => rfl

/-- No final hook turns private state into another kind. -/
theorem kind?_runFinal (hook : Hook Library) (buffer : Bytes) :
    (backend.runFinal hook buffer frame).2.2.kind? = frame.kind? := by
  -- The hash starts anew in state of the same kind.
  cases hook with
  | tagged library =>
    rcases frame.holds_tagged_or_absent library with ⟨tag, state, held⟩ | absent
    · rw [backend.runFinal_tagged buffer held, Frame.kind?, Frame.kind?, held]
      rfl
    · rw [backend.runFinal_tagged_absent buffer absent]
      rfl
  | direct library =>
    rcases frame.holds_direct_or_absent (typeOf library) with ⟨state, held⟩ | absent
    · rw [backend.runFinal_direct buffer held, Frame.kind?, Frame.kind?, held]
      rfl
    · rw [backend.runFinal_direct_absent buffer absent]
      rfl
  | fixed status => rfl

/-- No cleanup hook turns private state into another kind. -/
theorem kind?_runCleanup (hook : Hook Library) :
    (backend.runCleanup hook frame).2.kind? = frame.kind? := by
  -- A free call gives back state of the kind it was given, and the state is let go of by the context alone.
  cases hook with
  | tagged library =>
    rcases frame.holds_tagged_or_absent library with ⟨tag, state, held⟩ | absent
    · cases frees : backend.callsFree with
      | true =>
        rw [backend.runCleanup_tagged held frees, Frame.kind?, Frame.kind?, held]
        rfl
      | false =>
        rw [backend.runCleanup_tagged_skipped held frees]
        rfl
    · rw [backend.runCleanup_tagged_absent absent]
      rfl
  | direct library =>
    rcases frame.holds_direct_or_absent (typeOf library) with ⟨state, held⟩ | absent
    · rw [backend.runCleanup_direct held, Frame.kind?, Frame.kind?, held]
      rfl
    · rw [backend.runCleanup_direct_absent absent]
      rfl
  | fixed status => rfl

end Kept

section Declared

variable {method : Method Library}

/-- Private state just allocated is as declared. -/
theorem asDeclared_fresh {kind : StateKind Library} (declared : method.stateKind = some kind) :
    (backend.fresh kind method frame).AsDeclared method := by
  -- Allocation takes its kind from the declaration.
  intro held holds
  have fresh : (backend.fresh kind method frame).kind? = some kind := by
    simp only [Frame.kind?, Backend.fresh, Option.map_some, kind_zeroState]
  rw [declared, ← fresh, holds]

/-- The hooks keep private state as declared, since they keep its kind. -/
theorem hooksKeep_declared :
    backend.HooksKeep method fun held => method.stateKind = some held.kind where
  allocated kind declared := by
    -- Allocation takes its kind from the declaration.
    rw [kind_zeroState]
    exact declared
  init hook _ frame holds := Frame.asDeclared_iff_holds.mp <|
    (Frame.asDeclared_iff_holds.mpr holds).of_kind (backend.kind?_runInit hook)
  update hook _ data frame holds := Frame.asDeclared_iff_holds.mp <|
    (Frame.asDeclared_iff_holds.mpr holds).of_kind (backend.kind?_runUpdate hook data)
  final hook _ buffer frame holds := Frame.asDeclared_iff_holds.mp <|
    (Frame.asDeclared_iff_holds.mpr holds).of_kind (backend.kind?_runFinal hook buffer)
  cleanup hook _ frame holds := Frame.asDeclared_iff_holds.mp <|
    (Frame.asDeclared_iff_holds.mpr holds).of_kind (backend.kind?_runCleanup hook)

/-- Each operation leaves private state of the declared kind, or none. -/
theorem run_asDeclared (operation : Operation) (asDeclared : frame.AsDeclared method) :
    (backend.run method operation frame).2.AsDeclared method :=
  -- An operation keeps what the hooks do.
  Frame.asDeclared_iff_holds.mpr <|
    backend.hooksKeep_declared.run operation (Frame.asDeclared_iff_holds.mp asDeclared)

end Declared

end Backend

end DigestProvider
