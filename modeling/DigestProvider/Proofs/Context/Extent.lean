import DigestProvider.Proofs.Context.Computes
import DigestProvider.Proofs.Context.FreeOnce
import DigestProvider.Proofs.Context.Kinds
import DigestProvider.Proofs.Context.Preserved

/-!
How far a finalization writes, on records that may declare another digest length than their algorithm's. Main statement:
it writes the whole digest whatever length it then gives, so that the bytes behind that length are left alone where the
record declares no less than the digest takes.
-/

namespace DigestProvider

/-- What is written over the front of a buffer is all that changes in it. -/
theorem Bytes.getElem?_writeFront (written buffer : Bytes) (index : Nat) :
    (writeFront written buffer)[index]? =
      if index < written.length then written[index]? else buffer[index]? := by
  -- The buffer goes on where what is written over it ends.
  unfold writeFront
  split
  case isTrue within => exact List.getElem?_append_left within
  case isFalse beyond =>
    rw [List.getElem?_append_right (Nat.not_lt.mp beyond), List.getElem?_drop,
      Nat.add_sub_cancel' (Nat.not_lt.mp beyond)]

/-- A buffer was written over with the digest of some message, for which it had room. -/
def Algorithm.Digests (algorithm : Algorithm) (buffer written : Bytes) : Prop :=
  -- The length is the algorithm's own, whatever a record declares.
  algorithm.digestSize ≤ buffer.length ∧
    ∃ message, written = Bytes.writeFront (algorithm.digest message) buffer

/-- A buffer is as its status tells: with a digest in it after a success, and untouched after a failure. -/
def Algorithm.Settles (algorithm : Algorithm) (buffer : Bytes) (status : HostStatus)
    (written : Bytes) : Prop :=
  -- There is no third way: a digest is never written in part.
  match status with
  | .success => algorithm.Digests buffer written
  | .failure => written = buffer

/-- If a hash is in progress, it is one of this algorithm, and stands at some message. -/
def StockState.Runs (algorithm : Algorithm) : StockState → Prop
  | .empty => True
  | .running other hasher => other = algorithm ∧ ∃ message, hasher.Stands message

namespace StockLibrary

variable {algorithm : Algorithm} {state : StockState}

/-- The hash that an init call starts under the algorithm's tag is the algorithm's. -/
theorem runs_init (algorithm : Algorithm) (state : StockState) :
    (init (some algorithm) state).2.Runs algorithm :=
  -- Whatever was there before is given up.
  ⟨rfl, [], Hasher.stands_fresh⟩

/-- An update call leads the hash in progress along its message, if it does anything. -/
theorem runs_update (tag : Tag) (data : Bytes) (runs : state.Runs algorithm) :
    (update tag data state).2.Runs algorithm := by
  -- Under another tag the call is refused, and the hash stays where it stands.
  cases state with
  | empty => exact runs
  | running other hasher =>
    obtain ⟨same, message, stands⟩ := runs
    unfold update
    dsimp only
    split
    case isTrue => exact ⟨same, message ++ data, stands.absorb data⟩
    case isFalse => exact ⟨same, message, stands⟩

/-- A final call starts the hash in progress anew, if it does anything. -/
theorem runs_final (tag : Tag) (buffer : Bytes) (runs : state.Runs algorithm) :
    (final tag buffer state).2.2.Runs algorithm := by
  -- The call does something if the tag is the hash's own and the buffer has room.
  cases state with
  | empty => exact runs
  | running other hasher =>
    obtain ⟨same, message, stands⟩ := runs
    unfold final
    dsimp only
    split
    case isTrue =>
      by_cases short : buffer.length < other.digestSize
      · -- Without room the hash is not finished, and may be finished later.
        rw [finishInto_of_short other hasher short]
        exact ⟨same, message, stands⟩
      · -- A finished hash starts over at the empty message.
        rw [finishInto_of_room other hasher (Nat.not_lt.mp short)]
        exact ⟨same, [], Hasher.stands_fresh⟩
    case isFalse => exact ⟨same, message, stands⟩

/-- A final call that succeeds has written the digest of the message in progress, and one that fails nothing. -/
theorem final_settles (tag : Tag) (buffer : Bytes) (runs : state.Runs algorithm) :
    algorithm.Settles buffer (HostStatus.ofBool (final tag buffer state).1.isOk)
      (final tag buffer state).2.1 := by
  -- Only one of the ways out reports success, and it alone writes.
  cases state with
  | empty => exact rfl
  | running other hasher =>
    obtain ⟨rfl, message, stands⟩ := runs
    by_cases own : tag = some other
    · by_cases short : buffer.length < other.digestSize
      · -- Too little room is noticed before anything is written.
        simp only [final, own, if_true, finishInto_of_short other hasher short]
        exact rfl
      · have room := Nat.not_lt.mp short
        -- The hasher stands at its message, so what it writes is the message's digest.
        simp only [final, own, if_true, finishInto_of_room other hasher room, stands.finish]
        exact ⟨room, message, rfl⟩
    · simp only [final, own, if_false]
      exact rfl

end StockLibrary

section Paths

variable {Library : Type}

/-- The algorithm that a path's recipe computes: any one on the tagged path, and SHA-256 on the direct one. -/
def HookPath.computed (path : HookPath) (algorithm : Algorithm) : Algorithm :=
  -- The dedicated hooks know one algorithm, whatever the recipe is asked for.
  match path with
  | tagged => algorithm
  | direct => .sha256

/-- If a hash is in progress in private state, it is one of this algorithm, and stands at some message. -/
def PrivateState.Runs (algorithm : Algorithm) :
    PrivateState Library StockState StockLibrary.DirectState → Prop
  | .tagged _ _ hash => hash.Runs algorithm
  | .direct (some hasher) => algorithm = .sha256 ∧ ∃ message, hasher.Stands message
  -- Nothing is in progress.
  | .direct none | .plain _ => True

end Paths

namespace Backend

variable {Library Memory : Type} [DecidableEq Library] [DedicatedStates Library]
  {library : Library} {callsFree : Bool}
  {frame : Frame Library StockState StockLibrary.DirectState Memory}

section Hooks

variable {algorithm : Algorithm} (path : HookPath)

/-- The init hook of a path starts the path's own algorithm. -/
theorem runInit_runs (holds : frame.Holds (PrivateState.Runs (path.computed algorithm))) :
    ((stock Library Memory callsFree).runInit (path.recipe library algorithm).init frame).2.Holds
      (PrivateState.Runs (path.computed algorithm)) := by
  -- A hook that finds no state of its own kind leaves everything as it is.
  cases path with
  | tagged =>
    simp only [HookPath.recipe, Recipe.tagged]
    rcases frame.holds_tagged_or_absent library with ⟨tag, state, held⟩ | absent
    · -- The algorithm of the hook is stamped and started.
      rw [runInit_tagged _ algorithm held]
      exact Frame.holds_of_some rfl (StockLibrary.runs_init algorithm state)
    · rw [runInit_tagged_absent _ algorithm absent]
      exact holds
  | direct =>
    simp only [HookPath.recipe, Recipe.direct]
    rcases frame.holds_direct_or_absent (typeOf library) with ⟨state, held⟩ | absent
    · rw [runInit_direct _ held]
      exact Frame.holds_of_some rfl ⟨rfl, [], Hasher.stands_fresh⟩
    · rw [runInit_direct_absent _ absent]
      exact holds

/-- The update hook of a path leads the hash in progress along its message. -/
theorem runUpdate_runs (data : Bytes)
    (holds : frame.Holds (PrivateState.Runs (path.computed algorithm))) :
    ((stock Library Memory callsFree).runUpdate (path.recipe library algorithm).update data
      frame).2.Holds (PrivateState.Runs (path.computed algorithm)) := by
  -- An empty piece makes no call.
  cases path with
  | tagged =>
    simp only [HookPath.recipe, Recipe.tagged]
    rcases frame.holds_tagged_or_absent library with ⟨tag, state, held⟩ | absent
    · by_cases empty : data = []
      · rw [empty, runUpdate_tagged_nil _ held]
        exact holds
      · rw [runUpdate_tagged _ held empty]
        exact Frame.holds_of_some rfl (StockLibrary.runs_update tag data (holds _ held))
    · rw [runUpdate_tagged_absent _ data absent]
      exact holds
  | direct =>
    simp only [HookPath.recipe, Recipe.direct]
    -- Dedicated state may be there without a hash in progress.
    rcases frame.holds_direct_or_absent (typeOf library) with ⟨_ | hasher, held⟩ | absent
    · by_cases empty : data = []
      · rw [empty, runUpdate_direct_nil _ held]
        exact holds
      · rw [runUpdate_direct _ held empty]
        -- The call is refused and nothing is in progress after it either.
        exact Frame.holds_of_some rfl True.intro
    · by_cases empty : data = []
      · rw [empty, runUpdate_direct_nil _ held]
        exact holds
      · obtain ⟨_, message, stands⟩ := holds _ held
        rw [runUpdate_direct _ held empty]
        exact Frame.holds_of_some rfl ⟨rfl, message ++ data, stands.absorb data⟩
    · rw [runUpdate_direct_absent _ data absent]
      exact holds

/-- The final hook of a path starts the hash in progress anew if it has written its digest, and else writes nothing. -/
theorem runFinal_runs (library : Library) (callsFree : Bool) (buffer : Bytes)
    (holds : frame.Holds (PrivateState.Runs (path.computed algorithm))) :
    let outcome := (stock Library Memory callsFree).runFinal
      (path.recipe library algorithm).final buffer frame
    outcome.2.2.Holds (PrivateState.Runs (path.computed algorithm)) ∧
      (path.computed algorithm).Settles buffer outcome.2.1 outcome.1 := by
  -- The hook reports what the library's call reports, and a hook without state fails.
  cases path with
  | tagged =>
    simp only [HookPath.recipe, Recipe.tagged]
    rcases frame.holds_tagged_or_absent library with ⟨tag, state, held⟩ | absent
    · rw [runFinal_tagged _ buffer held]
      exact ⟨Frame.holds_of_some rfl (StockLibrary.runs_final tag buffer (holds _ held)),
        StockLibrary.final_settles tag buffer (holds _ held)⟩
    · rw [runFinal_tagged_absent _ buffer absent]
      exact ⟨holds, rfl⟩
  | direct =>
    simp only [HookPath.recipe, Recipe.direct]
    rcases frame.holds_direct_or_absent (typeOf library) with ⟨_ | hasher, held⟩ | absent
    · rw [runFinal_direct _ buffer held]
      exact ⟨Frame.holds_of_some rfl True.intro, rfl⟩
    · obtain ⟨_, message, stands⟩ := holds _ held
      rw [runFinal_direct _ buffer held]
      by_cases short : buffer.length < Algorithm.sha256.digestSize
      · -- Without room the hash goes on from where it stands.
        simp only [stock, StockLibrary.direct_final_short hasher short]
        exact ⟨Frame.holds_of_some rfl ⟨rfl, message, stands⟩, rfl⟩
      · -- With room its digest is written, and a new message begins.
        have room := Nat.not_lt.mp short
        simp only [stock, StockLibrary.direct_final_running hasher room, stands.finish]
        exact ⟨Frame.holds_of_some rfl ⟨rfl, [], Hasher.stands_fresh⟩, room, message, rfl⟩
    · rw [runFinal_direct_absent _ buffer absent]
      exact ⟨holds, rfl⟩

/-- The cleanup hook of a path gives up the hash in progress, or leaves it alone in a build that skips the free. -/
theorem runCleanup_runs (holds : frame.Holds (PrivateState.Runs (path.computed algorithm))) :
    ((stock Library Memory callsFree).runCleanup (path.recipe library algorithm).cleanup
      frame).2.Holds (PrivateState.Runs (path.computed algorithm)) := by
  -- An empty state cannot contradict the algorithm, and neither can one left alone.
  cases path with
  | tagged =>
    simp only [HookPath.recipe, Recipe.tagged]
    rcases frame.holds_tagged_or_absent library with ⟨tag, state, held⟩ | absent
    · cases callsFree with
      | true =>
        rw [runCleanup_tagged _ held rfl]
        exact Frame.holds_of_some rfl True.intro
      | false =>
        rw [runCleanup_tagged_skipped _ held rfl]
        exact holds
    · rw [runCleanup_tagged_absent _ absent]
      exact holds
  | direct =>
    simp only [HookPath.recipe, Recipe.direct]
    rcases frame.holds_direct_or_absent (typeOf library) with ⟨state, held⟩ | absent
    · rw [runCleanup_direct _ held]
      exact Frame.holds_of_some rfl True.intro
    · rw [runCleanup_direct_absent _ absent]
      exact holds

end Hooks

section Declared

variable {algorithm : Algorithm} {path : HookPath} {size : Nat} {method : Method Library}

/-- On a record of a path's recipe, whatever length it declares, no hash but the path's is ever in progress. -/
theorem hooksKeep_runs
    (prescribed : ((path.recipe library algorithm).declaring size).Prescribes method) :
    (stock Library Memory callsFree).HooksKeep method
      (PrivateState.Runs (path.computed algorithm)) where
  allocated kind declared := by
    -- Nothing is in progress in private state that was just allocated.
    obtain rfl := Option.some.inj (prescribed.stateKind.symm.trans declared)
    cases path with
    | tagged => exact True.intro
    | direct => exact True.intro
  -- The record's hooks are those of the path's recipe, each of which was looked at above.
  init hook present frame holds := by
    obtain rfl := Option.some.inj (prescribed.init.symm.trans present)
    exact runInit_runs path holds
  update hook present data frame holds := by
    obtain rfl := Option.some.inj (prescribed.update.symm.trans present)
    exact runUpdate_runs path data holds
  final hook present buffer frame holds := by
    obtain rfl := Option.some.inj (prescribed.final.symm.trans present)
    exact (runFinal_runs path library callsFree buffer holds).1
  cleanup hook present frame holds := by
    obtain rfl := Option.some.inj (prescribed.cleanup.symm.trans present)
    exact runCleanup_runs path holds

/-- A finalization that succeeds gives the declared length and has written the digest in progress, and one that fails
has written nothing. -/
theorem finalizeInto_settles
    (prescribed : ((path.recipe library algorithm).declaring size).Prescribes method)
    (holds : frame.Holds (PrivateState.Runs (path.computed algorithm))) (buffer : Bytes) :
    let done := ((stock Library Memory callsFree).finalizeInto method buffer frame).1
    (∀ cause, done.1 = .error cause → done.2 = buffer) ∧
      ∀ length, done.1 = .ok length →
        length = size ∧ (path.computed algorithm).Digests buffer done.2 := by
  -- The host compares the buffer with the declared length only.
  by_cases short : buffer.length < size
  · -- Turned back there, the buffer does not reach the hook.
    rw [finalizeInto_short _ prescribed short]
    exact ⟨fun _ _ => rfl, fun _ given => (by cases given)⟩
  · -- Past that check the hook writes what its algorithm takes.
    obtain ⟨_, settles⟩ := runFinal_runs path library callsFree buffer holds
    rw [finalizeInto_eq _ prescribed (Nat.not_lt.mp short)]
    simp only [Recipe.declaring]
    rcases ran : (stock Library Memory callsFree).runFinal (path.recipe library algorithm).final
      buffer frame with ⟨written, status, after⟩
    rw [ran] at settles
    -- The status of the hook is the answer.
    cases status with
    | success =>
      refine ⟨fun _ given => (by cases given), fun _ given => ?_⟩
      exact ⟨(Except.ok.inj given).symm, settles⟩
    | failure => exact ⟨fun _ _ => settles, fun _ given => (by cases given)⟩

/-- Whatever has happened to a context over the stock library, a finalization into a buffer that gives a length gives
the declared one, and writes a whole digest over the front of the buffer and nothing else. No byte at that length or
behind it changes, therefore, if the record declares no less than the digest takes. One that fails writes nothing. -/
theorem finalizeInto_extent {record : Record Library}
    (made : ((path.recipe library algorithm).declaring size).Makes record)
    (steps : List ContextStep) (memory : Memory) (log : List LogRecord) (buffer : Bytes) :
    let start : Frame Library StockState StockLibrary.DirectState Memory := { memory, log }
    let reached := ((stock Library Memory callsFree).takeAll record.method steps start).2
    let done := ((stock Library Memory callsFree).finalizeInto record.method buffer reached).1
    let taken := (path.computed algorithm).digestSize
    (∀ cause, done.1 = .error cause → done.2 = buffer) ∧
      ∀ length, done.1 = .ok length →
        length = record.method.resultSize ∧
        taken ≤ buffer.length ∧
        (∃ message, ∀ index : Nat, done.2[index]? =
          if index < taken then ((path.computed algorithm).digest message)[index]?
          else buffer[index]?) ∧
        (taken ≤ length → ∀ index, length ≤ index → done.2[index]? = buffer[index]?) := by
  intro start reached done taken
  have prescribed := made.prescribes
  -- The hashes in progress are the path's at the start and behind every step.
  have holds : reached.Holds (PrivateState.Runs (path.computed algorithm)) :=
    (hooksKeep_runs prescribed).takeAll steps (Frame.holds_of_none rfl)
  obtain ⟨fails, succeeds⟩ := finalizeInto_settles prescribed holds buffer
  refine ⟨fails, ?_⟩
  intro length given
  obtain ⟨declared, room, message, written⟩ := succeeds length given
  -- Byte by byte, the digest of the message in progress lies over the front of the buffer.
  have bytes : ∀ index : Nat, done.2[index]? =
      if index < taken then ((path.computed algorithm).digest message)[index]?
      else buffer[index]? := by
    intro index
    rw [written, Bytes.getElem?_writeFront, Algorithm.length_digest]
  refine ⟨declared.trans prescribed.resultSize.symm, room, ⟨message, bytes⟩, ?_⟩
  -- Where the digest ends before the declared length, so do the changes.
  intro enough index beyond
  rw [bytes, if_neg (Nat.not_lt.mpr (Nat.le_trans enough beyond))]

end Declared

/-- Where the record declares more than the digest takes, no byte at the declared length or behind it changes. -/
theorem finalizeInto_extent_declared_longer :
    let recipe : Recipe Unit := (HookPath.tagged.recipe () .sha256).declaring 64
    let method := recipe.fill [] (Method.empty recipe.nid none)
    let start : Frame Unit StockState StockLibrary.DirectState Unit := { memory := (), log := [] }
    let reached := ((stock Unit Unit true).takeAll method [.operate .init] start).2
    let done := ((stock Unit Unit true).finalizeInto method (List.replicate 70 0xAA) reached).1
    done.1 = .ok 64 ∧
      ∀ index, 64 ≤ index → done.2[index]? = (List.replicate 70 (0xAA : UInt8))[index]? := by
  intro recipe method start reached done
  have made : recipe.Makes ⟨0, method⟩ :=
    ⟨Unit, Host.stock, [], { memory := () }, Host.stock_stores, rfl⟩
  have given : done.1 = .ok 64 := rfl
  -- The record declares 64 bytes, of which the digest takes 32.
  obtain ⟨_, succeeds⟩ := finalizeInto_extent made [.operate .init] () []
    (List.replicate 70 0xAA)
  obtain ⟨_, _, _, unchanged⟩ := succeeds 64 given
  exact ⟨given, unchanged (by decide)⟩

/-- Where the record declares less, bytes behind the length that is given are written over. -/
theorem finalizeInto_overruns_declared_shorter :
    let recipe : Recipe Unit := (HookPath.tagged.recipe () .sha256).declaring 16
    let method := recipe.fill [] (Method.empty recipe.nid none)
    let start : Frame Unit StockState StockLibrary.DirectState Unit := { memory := (), log := [] }
    let reached := ((stock Unit Unit true).takeAll method [.operate .init] start).2
    let done := ((stock Unit Unit true).finalizeInto method (List.replicate 40 0xAA) reached).1
    (recipe.build Host.stock [] { memory := () }).1 = .ok ⟨0, method⟩ ∧
      done.1 = .ok 16 ∧ done.2[16]? ≠ (List.replicate 40 (0xAA : UInt8))[16]? := by
  -- The digest of no bytes has another byte there.
  intro recipe method start reached done
  exact ⟨rfl, rfl, by decide +kernel⟩

end Backend

end DigestProvider
