import DigestProvider.Proofs.Context.Computes
import DigestProvider.Proofs.Context.FreeOnce
import DigestProvider.Proofs.Context.Kinds
import DigestProvider.Proofs.Context.Lifecycle

/-!
Finalizations that are turned back, by the host for the declared digest length or by the library for the true one. Main
statement: they leave the context as it was, so that the digest of all bytes absorbed can still be had.
-/

namespace DigestProvider

/-- A digest that was written into zeros is followed by those that it leaves. -/
theorem Bytes.take_writeFront_zeros {written : Bytes} {size : Nat} (fits : written.length ≤ size) :
    (writeFront written (List.replicate size 0)).take size =
      written ++ List.replicate (size - written.length) 0 := by
  -- The buffer is as long as before, and all of it is taken.
  unfold writeFront
  rw [List.drop_replicate, List.take_of_length_le]
  rw [List.length_append, List.length_replicate]
  omega

namespace Phase

/-- The phase that the init hook leads to. -/
def started : Phase → Phase
  | unallocated => unallocated
  | idle | running _ => running []

/-- The phase that the update hook leads to. -/
def absorbing (data : Bytes) : Phase → Phase
  | running message => running (message ++ data)
  | phase => phase

/-- The phase that the final hook leads to, by the room in its buffer. -/
def finishing (algorithm : Algorithm) (room : Nat) : Phase → Phase
  | running message => if room < algorithm.digestSize then running message else running []
  | phase => phase

/-- The phase that the cleanup hook leads to, in a build that calls free or leaves it out. -/
def freed (callsFree : Bool) : Phase → Phase
  | running message => if callsFree then idle else running message
  | phase => phase

/-- The phase that a step leads to over a library whose calls are not made to fail, on a record that may declare another
digest length than the algorithm's. -/
def follow (algorithm : Algorithm) (declared : Nat) (callsFree : Bool) (phase : Phase) :
    ContextStep → Phase
  | .operate .allocate => idle
  | .operate .init => running []
  | .operate (.update data) | .updateHook data => phase.absorbing data
  | .operate (.finalizeInto buffer) =>
    -- The host has its own say first.
    if buffer.length < declared then phase else phase.finishing algorithm buffer.length
  | .operate .finalize => phase.finishing algorithm declared
  | .operate .cleanup => unallocated
  | .initHook => phase.started
  | .finalHook buffer => phase.finishing algorithm buffer.length
  | .cleanupHook => phase.freed callsFree

end Phase

namespace Operation

/-- The bytes that an operation is to absorb. -/
def absorbed : Operation → Bytes
  | update data => data
  | _ => []

/-- An operation is an update. -/
def isUpdate : Operation → Bool
  | update _ => true
  | _ => false

/-- An operation lets the hash in progress go on: it is an update, or a finalization that lacks room for the declared
digest length or for the true one. -/
def Continues (algorithm : Algorithm) (declared : Nat) : Operation → Prop
  | update _ => True
  | finalizeInto buffer => buffer.length < declared ∨ buffer.length < algorithm.digestSize
  | finalize => declared < algorithm.digestSize
  | allocate | init | cleanup => False

/-- Nothing but updates has bytes to absorb. -/
theorem flatMap_absorbed_filter (operations : List Operation) :
    (operations.filter isUpdate).flatMap absorbed = operations.flatMap absorbed := by
  -- What the filter drops absorbs nothing.
  induction operations with
  | nil => rfl
  | cons operation rest ih =>
    cases operation with
    | update data =>
      rw [List.filter_cons_of_pos rfl, List.flatMap_cons, List.flatMap_cons, ih]
    | allocate | init | finalizeInto _ | finalize | cleanup =>
      rw [List.filter_cons_of_neg Bool.false_ne_true, List.flatMap_cons, ih]
      rfl

end Operation

namespace Backend

variable {Library Memory : Type} [DecidableEq Library] [DedicatedStates Library] {library : Library}
  {algorithm : Algorithm} {declared : Nat} {callsFree : Bool} {method : Method Library}
  {phase : Phase} {frame : Frame Library StockState StockLibrary.DirectState Memory}

section Hooks

/-- The init hook starts the hash if there is private state. -/
theorem runInit_follows (matched : phase.Matches library algorithm frame.state) :
    phase.started.Matches library algorithm
      ((stock Library Memory callsFree).runInit (.tagged library algorithm) frame).2.state := by
  -- Whatever was in progress is given up.
  cases phase with
  | unallocated =>
    rw [runInit_tagged_absent _ algorithm (Frame.tagged?_of_none library matched)]
    exact matched
  | idle =>
    obtain ⟨tag, held⟩ := matched
    rw [runInit_tagged _ algorithm held]
    exact ⟨algorithm.startHash, Hasher.stands_fresh, rfl⟩
  | running message =>
    obtain ⟨hasher, _, held⟩ := matched
    rw [runInit_tagged _ algorithm held]
    exact ⟨algorithm.startHash, Hasher.stands_fresh, rfl⟩

/-- The update hook has the hash in progress absorb its bytes, also if there are none. -/
theorem runUpdate_running {hasher : algorithm.Running} (data : Bytes)
    (held : frame.state = some (.tagged library (some algorithm) (.running algorithm hasher))) :
    ((stock Library Memory callsFree).runUpdate (.tagged library) data frame).2.state =
      some (.tagged library (some algorithm) (.running algorithm (hasher.absorb data))) := by
  -- No bytes need no call, and absorbing them changes nothing.
  by_cases empty : data = []
  · rw [empty, runUpdate_tagged_nil _ held, Hasher.absorb_nil]
    exact held
  · rw [runUpdate_tagged _ held empty]
    simp only [stock, StockLibrary.tagged_update_running]

/-- The update hook makes the message longer if a hash is in progress. -/
theorem runUpdate_follows (data : Bytes)
    (matched : phase.Matches library algorithm frame.state) :
    (phase.absorbing data).Matches library algorithm
      ((stock Library Memory callsFree).runUpdate (.tagged library) data frame).2.state := by
  -- Without a hash in progress the call fails, if it is made at all.
  cases phase with
  | unallocated =>
    rw [runUpdate_tagged_absent _ data (Frame.tagged?_of_none library matched)]
    exact matched
  | idle =>
    obtain ⟨tag, held⟩ := matched
    by_cases empty : data = []
    · rw [empty, runUpdate_tagged_nil _ held]
      exact ⟨tag, held⟩
    · rw [runUpdate_tagged _ held empty]
      exact ⟨tag, rfl⟩
  | running message =>
    obtain ⟨hasher, stands, held⟩ := matched
    exact ⟨hasher.absorb data, stands.absorb data, runUpdate_running data held⟩

/-- Without room for the digest the final hook fails, and only the log tells. -/
theorem runFinal_short (callsFree : Bool) {hasher : algorithm.Running} {buffer : Bytes}
    (held : frame.state = some (.tagged library (some algorithm) (.running algorithm hasher)))
    (short : buffer.length < algorithm.digestSize) :
    ∃ told, (stock Library Memory callsFree).runFinal (.tagged library) buffer frame =
      (buffer, .failure, frame.tell told) := by
  -- The library looks at the room before it touches the hash, and the hook puts back the state that it found.
  rw [runFinal_tagged _ buffer held]
  simp only [stock, StockLibrary.tagged_final_short algorithm hasher short, List.append_assoc]
  rw [← held]
  exact ⟨_, rfl⟩

/-- With room for the digest the final hook writes it, and the hash starts anew. -/
theorem runFinal_room (callsFree : Bool) {hasher : algorithm.Running} {message buffer : Bytes}
    (stands : hasher.Stands message)
    (held : frame.state = some (.tagged library (some algorithm) (.running algorithm hasher)))
    (room : algorithm.digestSize ≤ buffer.length) :
    ∃ after, (stock Library Memory callsFree).runFinal (.tagged library) buffer frame =
        (Bytes.writeFront (algorithm.digest message) buffer, .success, after) ∧
      after.state =
        some (.tagged library (some algorithm) (.running algorithm algorithm.startHash)) := by
  -- The library finishes the hash and starts it anew in the same state.
  rw [runFinal_tagged _ buffer held]
  simp only [stock, StockLibrary.tagged_final_running algorithm hasher room, stands.finish]
  exact ⟨_, rfl, rfl⟩

/-- The final hook starts the hash in progress anew if there is room for its digest. -/
theorem runFinal_follows (callsFree : Bool) (buffer : Bytes)
    (matched : phase.Matches library algorithm frame.state) :
    (phase.finishing algorithm buffer.length).Matches library algorithm
      ((stock Library Memory callsFree).runFinal (.tagged library) buffer frame).2.2.state := by
  -- Only a hash in progress has a digest that there could be room for.
  cases phase with
  | unallocated =>
    rw [runFinal_tagged_absent _ buffer (Frame.tagged?_of_none library matched)]
    exact matched
  | idle =>
    obtain ⟨tag, held⟩ := matched
    rw [runFinal_tagged _ buffer held]
    exact ⟨tag, rfl⟩
  | running message =>
    obtain ⟨hasher, stands, held⟩ := matched
    by_cases short : buffer.length < algorithm.digestSize
    · obtain ⟨told, ran⟩ := runFinal_short callsFree held short
      rw [ran, Phase.finishing, if_pos short]
      exact ⟨hasher, stands, held⟩
    · obtain ⟨after, ran, started⟩ := runFinal_room callsFree stands held (Nat.not_lt.mp short)
      rw [ran, Phase.finishing, if_neg short]
      exact ⟨algorithm.startHash, Hasher.stands_fresh, started⟩

/-- The cleanup hook gives the hash in progress back where the build calls free. -/
theorem runCleanup_follows (matched : phase.Matches library algorithm frame.state) :
    (phase.freed callsFree).Matches library algorithm
      ((stock Library Memory callsFree).runCleanup (.tagged library) frame).2.state := by
  -- Where it does not, the state is let go of later without it.
  cases phase with
  | unallocated =>
    rw [runCleanup_tagged_absent _ (Frame.tagged?_of_none library matched)]
    exact matched
  | idle =>
    obtain ⟨tag, held⟩ := matched
    cases callsFree with
    | true =>
      rw [runCleanup_tagged _ held rfl]
      exact ⟨tag, rfl⟩
    | false =>
      rw [runCleanup_tagged_skipped _ held rfl]
      exact ⟨tag, held⟩
  | running message =>
    obtain ⟨hasher, stands, held⟩ := matched
    cases callsFree with
    | true =>
      rw [runCleanup_tagged _ held rfl]
      exact ⟨some algorithm, rfl⟩
    | false =>
      rw [runCleanup_tagged_skipped _ held rfl]
      exact ⟨hasher, stands, held⟩

end Hooks

section Steps

variable (prescribed : ((Recipe.tagged library algorithm).declaring declared).Prescribes method)
include prescribed

/-- An operation leads to the phase that follows. -/
theorem run_follows (operation : Operation)
    (matched : phase.Matches library algorithm frame.state) :
    (phase.follow algorithm declared callsFree (.operate operation)).Matches library algorithm
      ((stock Library Memory callsFree).run method operation frame).2.state := by
  -- Each operation is the hook that its own equation names, behind the host's checks.
  cases operation with
  | allocate =>
    rw [run_allocate prescribed]
    exact ⟨none, rfl⟩
  | init =>
    -- The hook runs on private state that was just allocated.
    have idle : Phase.idle.Matches library algorithm
        ((stock Library Memory callsFree).allocated
          ((Recipe.tagged library algorithm).declaring declared) method frame).state :=
      ⟨none, rfl⟩
    rw [run, init_eq _ prescribed]
    exact runInit_follows idle
  | update data =>
    rw [run, update_eq _ prescribed]
    exact runUpdate_follows data matched
  | finalizeInto buffer =>
    by_cases short : buffer.length < declared
    · rw [run_finalizeInto_short prescribed short, Phase.follow, if_pos short]
      exact matched
    · rw [run, finalizeInto_eq _ prescribed (Nat.not_lt.mp short), Phase.follow, if_neg short]
      exact runFinal_follows callsFree buffer matched
  | finalize =>
    -- The context's own buffer has just the declared length.
    have follows := runFinal_follows callsFree (List.replicate declared 0) matched
    rw [List.length_replicate] at follows
    rw [run, finalize_eq _ prescribed]
    exact follows
  | cleanup => exact state_cleanup _ method frame

/-- A step leads to the phase that follows, be it a direct call of a hook. -/
theorem take_follows (step : ContextStep)
    (matched : phase.Matches library algorithm frame.state) :
    (phase.follow algorithm declared callsFree step).Matches library algorithm
      ((stock Library Memory callsFree).take method step frame).2.state := by
  -- All four hooks are set.
  cases step with
  | operate operation => exact run_follows prescribed operation matched
  | initHook =>
    simp only [Backend.take, prescribed.init, Option.map_some]
    exact runInit_follows matched
  | updateHook data =>
    simp only [Backend.take, prescribed.update, Option.map_some]
    exact runUpdate_follows data matched
  | finalHook buffer =>
    simp only [Backend.take, prescribed.final]
    exact runFinal_follows callsFree buffer matched
  | cleanupHook =>
    simp only [Backend.take, prescribed.cleanup, Option.map_some]
    exact runCleanup_follows matched

/-- Steps one after another lead to the phase that follows. -/
theorem takeAll_follows (steps : List ContextStep)
    (matched : phase.Matches library algorithm frame.state) :
    (steps.foldl (Phase.follow algorithm declared callsFree) phase).Matches library algorithm
      ((stock Library Memory callsFree).takeAll method steps frame).2.state := by
  -- The induction is on the steps; each leads to the phase that the rest starts from.
  induction steps generalizing phase frame with
  | nil => exact matched
  | cons step rest ih => exact ih (take_follows prescribed step matched)

end Steps

/-- How a context finalizes whose hash has absorbed a message, on a record that declares a digest length of its own. -/
structure FinalizesAt {State Direct : Type} (backend : Backend Library State Direct Memory)
    (method : Method Library) (algorithm : Algorithm) (declared : Nat) (message : Bytes)
    (context : Frame Library State Direct Memory) : Prop where
  /-- It fails just where the buffer lacks room for the declared length or for the true one. -/
  fails : ∀ buffer : Bytes,
    (∃ cause, (backend.finalizeInto method buffer context).1.1 = .error cause) ↔
      buffer.length < declared ∨ buffer.length < algorithm.digestSize
  /-- The host turns a buffer back that is shorter than declared, and no hook runs that could log anything. -/
  short : ∀ buffer : Bytes, buffer.length < declared →
    backend.finalizeInto method buffer context =
      ((.error (.bufferTooSmall declared buffer.length), buffer), context)
  /-- The library turns a buffer back that is too short for the digest, and only the log tells. -/
  refused : ∀ buffer : Bytes, declared ≤ buffer.length → buffer.length < algorithm.digestSize →
    ∃ told, backend.finalizeInto method buffer context =
      ((.error (.operationFailed HookRole.final.name), buffer), context.tell told)
  /-- Any other buffer gets the digest of the message at its front. -/
  given : ∀ buffer : Bytes, declared ≤ buffer.length → algorithm.digestSize ≤ buffer.length →
    (backend.finalizeInto method buffer context).1 =
      (.ok declared, Bytes.writeFront (algorithm.digest message) buffer)
  /-- A buffer of the context's own takes the digest if the declared length does, and is filled up with zeros. -/
  padded : algorithm.digestSize ≤ declared →
    (backend.finalize method context).1 =
      .ok (algorithm.digest message ++ List.replicate (declared - algorithm.digestSize) 0)
  /-- If the declared length does not, the library turns it back as any other. -/
  unpadded : declared < algorithm.digestSize →
    ∃ told, backend.finalize method context =
      (.error (.operationFailed HookRole.final.name), context.tell told)

section Finalizations

variable {hasher : algorithm.Running} {message : Bytes}
  (prescribed : ((Recipe.tagged library algorithm).declaring declared).Prescribes method)
  (held : frame.state = some (.tagged library (some algorithm) (.running algorithm hasher)))
include prescribed held

/-- Without room for the digest a finalization that the host lets pass fails, and only the log tells. -/
theorem finalizeInto_refused (callsFree : Bool) {buffer : Bytes} (passes : declared ≤ buffer.length)
    (short : buffer.length < algorithm.digestSize) :
    ∃ told, (stock Library Memory callsFree).finalizeInto method buffer frame =
      ((.error (.operationFailed HookRole.final.name), buffer), frame.tell told) := by
  -- The buffer that the hook has left alone is what the caller gets back.
  obtain ⟨told, ran⟩ := runFinal_short callsFree held short
  rw [finalizeInto_eq _ prescribed passes]
  simp only [Recipe.declaring, Recipe.tagged, ran]
  exact ⟨told, rfl⟩

/-- A declared length without room for the digest has the context's own buffer turned back by the library. -/
theorem finalize_refused (callsFree : Bool) (lacks : declared < algorithm.digestSize) :
    ∃ told, (stock Library Memory callsFree).finalize method frame =
      (.error (.operationFailed HookRole.final.name), frame.tell told) := by
  -- The buffer is made with the declared length, so the host has nothing against it.
  have short : (List.replicate declared (0 : UInt8)).length < algorithm.digestSize := by
    rwa [List.length_replicate]
  obtain ⟨told, ran⟩ := runFinal_short callsFree held short
  rw [finalize_eq _ prescribed]
  simp only [Recipe.declaring, Recipe.tagged, ran]
  exact ⟨told, rfl⟩

/-- With room for both lengths a finalization writes the digest. -/
theorem finalizeInto_given (callsFree : Bool) (stands : hasher.Stands message) {buffer : Bytes}
    (passes : declared ≤ buffer.length) (room : algorithm.digestSize ≤ buffer.length) :
    ((stock Library Memory callsFree).finalizeInto method buffer frame).1 =
      (.ok declared, Bytes.writeFront (algorithm.digest message) buffer) := by
  -- The hook succeeds, and the length answered is the one declared.
  obtain ⟨after, ran, _⟩ := runFinal_room callsFree stands held room
  rw [finalizeInto_eq _ prescribed passes]
  simp only [Recipe.declaring, Recipe.tagged, ran]
  rfl

/-- A context of a hash in progress finalizes at the message that it has absorbed. -/
theorem finalizesAt_of_running (callsFree : Bool) (stands : hasher.Stands message) :
    (stock Library Memory callsFree).FinalizesAt method algorithm declared message frame where
  -- The host asks for the declared length first, and the library for the true one behind it.
  fails buffer := by
    by_cases short : buffer.length < declared
    · rw [finalizeInto_short _ prescribed short]
      exact ⟨fun _ => .inl short, fun _ => ⟨_, rfl⟩⟩
    · have passes := Nat.not_lt.mp short
      by_cases lacks : buffer.length < algorithm.digestSize
      · obtain ⟨told, refused⟩ := finalizeInto_refused prescribed held callsFree passes lacks
        rw [refused]
        exact ⟨fun _ => .inr lacks, fun _ => ⟨_, rfl⟩⟩
      · rw [finalizeInto_given prescribed held callsFree stands passes (Nat.not_lt.mp lacks)]
        exact ⟨nofun, fun either => absurd either (not_or.mpr ⟨short, lacks⟩)⟩
  short buffer short := finalizeInto_short _ prescribed short frame
  refused buffer passes lacks := finalizeInto_refused prescribed held callsFree passes lacks
  given buffer passes room := finalizeInto_given prescribed held callsFree stands passes room
  padded fits := by
    -- The context's own buffer has the declared length.
    have room : algorithm.digestSize ≤ (List.replicate declared (0 : UInt8)).length := by
      rwa [List.length_replicate]
    have length := algorithm.length_digest message
    obtain ⟨after, ran, _⟩ := runFinal_room callsFree stands held room
    rw [finalize_eq _ prescribed]
    simp only [Recipe.declaring, Recipe.tagged, ran]
    rw [Bytes.take_writeFront_zeros (length ▸ fits), length]
    rfl
  unpadded lacks := finalize_refused prescribed held callsFree lacks

omit held in
/-- An operation that lets the hash in progress go on does nothing to it but have it absorb. -/
theorem state_run_continues (callsFree : Bool) {operation : Operation}
    (continues : operation.Continues algorithm declared) {hasher : algorithm.Running}
    (held : frame.state = some (.tagged library (some algorithm) (.running algorithm hasher))) :
    ((stock Library Memory callsFree).run method operation frame).2.state =
      some (.tagged library (some algorithm)
        (.running algorithm (hasher.absorb operation.absorbed))) := by
  -- An update absorbs its bytes, and a finalization that continues was turned back.
  cases operation with
  | update data =>
    rw [run, update_eq _ prescribed]
    exact runUpdate_running data held
  | finalizeInto buffer =>
    -- Which of the two lengths the buffer lacks room for decides who turns it back.
    by_cases short : buffer.length < declared
    · rw [run_finalizeInto_short prescribed short]
      exact held
    · have lacks := continues.resolve_left short
      obtain ⟨told, refused⟩ :=
        finalizeInto_refused prescribed held callsFree (Nat.not_lt.mp short) lacks
      rw [run, refused]
      exact held
  | finalize =>
    obtain ⟨told, refused⟩ := finalize_refused prescribed held callsFree continues
    rw [run, refused]
    exact held
  | allocate | init | cleanup => cases continues

omit held in
/-- Operations that let the hash in progress go on have it absorb the bytes of the updates among them. -/
theorem state_runAll_continues (callsFree : Bool) (operations : List Operation)
    (continues : ∀ operation ∈ operations, operation.Continues algorithm declared)
    {hasher : algorithm.Running}
    (held : frame.state = some (.tagged library (some algorithm) (.running algorithm hasher))) :
    ((stock Library Memory callsFree).runAll method operations frame).state =
      some (.tagged library (some algorithm)
        (.running algorithm (hasher.absorb (operations.flatMap Operation.absorbed)))) := by
  -- The induction is on the operations; the hash goes on behind each.
  induction operations generalizing frame hasher with
  | nil => exact held
  | cons operation rest ih =>
    rw [List.forall_mem_cons] at continues
    rw [List.flatMap_cons, Hasher.absorb_append]
    exact ih continues.2 (state_run_continues prescribed callsFree continues.1 held)

end Finalizations

/-- Whatever has happened to a context over the stock library in which a hash is now in progress, its finalizations
either give the digest of the message absorbed or change nothing. So they do after any attempts that failed and further
updates, which leave just what the updates alone would have left. -/
theorem refusals_cost_nothing {record : Record Library}
    (made : ((Recipe.tagged library algorithm).declaring declared).Makes record)
    (memory : Memory) (log : List LogRecord) (history : List ContextStep) {message : Bytes}
    (running : history.foldl (Phase.follow algorithm declared callsFree) .unallocated =
      .running message) :
    let backend := stock Library Memory callsFree
    let start : Frame Library StockState StockLibrary.DirectState Memory := { memory, log }
    let context := (backend.takeAll record.method history start).2
    backend.FinalizesAt record.method algorithm declared message context ∧
      ∀ attempts : List Operation,
        (∀ operation ∈ attempts, operation.Continues algorithm declared) →
        let tried := backend.runAll record.method attempts context
        let updated := backend.runAll record.method (attempts.filter Operation.isUpdate) context
        tried.state = updated.state ∧
          backend.FinalizesAt record.method algorithm declared
            (message ++ attempts.flatMap Operation.absorbed) tried := by
  intro backend start context
  -- The phase that the history leads to is that of the context.
  have prescribed := made.prescribes
  have unallocated : Phase.unallocated.Matches library algorithm start.state := rfl
  have matched : (Phase.running message).Matches library algorithm context.state :=
    running ▸ takeAll_follows prescribed history unallocated
  obtain ⟨hasher, stands, held⟩ := matched
  refine ⟨finalizesAt_of_running prescribed held callsFree stands, ?_⟩
  intro attempts continues tried updated
  have went := state_runAll_continues prescribed callsFree attempts continues held
  -- The updates among the attempts absorb the same bytes.
  have updates : ∀ operation ∈ attempts.filter Operation.isUpdate,
      operation.Continues algorithm declared := fun operation member =>
    continues operation (List.mem_filter.mp member).1
  have alone := state_runAll_continues prescribed callsFree _ updates held
  rw [Operation.flatMap_absorbed_filter] at alone
  exact ⟨went.trans alone.symm,
    finalizesAt_of_running prescribed went callsFree (stands.absorb _)⟩

/-- A buffer that the host lets pass and the library turns back costs nothing, and neither does a finalization without
room of its own: the digest of all bytes can still be had. -/
theorem refusals_cost_nothing_declared_shorter :
    let recipe : Recipe Unit := (Recipe.tagged () .sha256).declaring 16
    let method := recipe.fill [] (Method.empty recipe.nid none)
    let backend := stock Unit Unit true
    let start : Frame Unit StockState StockLibrary.DirectState Unit := { memory := () }
    let context := (backend.takeAll method [.operate .init, .updateHook [1]] start).2
    let tried := backend.runAll method
      [.finalizeInto (List.replicate 20 0xAA), .update [2], .finalize] context
    (backend.finalizeInto method (List.replicate 40 0xAA) tried).1 =
      (.ok 16, Bytes.writeFront (Algorithm.sha256.digest [1, 2]) (List.replicate 40 0xAA)) := by
  intro recipe method backend start context tried
  have made : recipe.Makes ⟨0, method⟩ :=
    ⟨Unit, Host.stock, [], { memory := () }, Host.stock_stores, rfl⟩
  have continues : ∀ operation ∈
      [.finalizeInto (List.replicate 20 0xAA), .update [2], .finalize],
      Operation.Continues .sha256 16 operation := by
    simp only [List.forall_mem_cons]
    exact ⟨.inr (by decide), True.intro, (by decide : 16 < 32), List.forall_mem_nil _⟩
  obtain ⟨_, after⟩ := refusals_cost_nothing made () [] [.operate .init, .updateHook [1]] rfl
  obtain ⟨_, finalizes⟩ := after _ continues
  exact finalizes.given (List.replicate 40 0xAA) (by decide) (by decide)

end Backend

end DigestProvider
