import DigestProvider.Proofs.Library.Calls

/-!
The tagged entry points of the stock library as a strict state machine. Main statement: whatever tags, pieces and
buffers the calls on one state are given, they answer as a machine that remembers an algorithm and the bytes absorbed.
-/

namespace DigestProvider

/-- A call of a tagged entry point, with the tag and the bytes that it is given. -/
inductive TaggedCall where
  | init (tag : Tag)
  | update (tag : Tag) (data : Bytes)
  | final (tag : Tag) (buffer : Bytes)
  | free (tag : Tag)
  deriving DecidableEq, Repr

/-- What a tagged call answers. -/
structure CallAnswer where
  /-- The status returned. -/
  status : LibStatus
  /-- The buffer as it was left, if the call was given one. -/
  buffer : Option Bytes := none
  deriving DecidableEq, Repr

namespace HashLibrary

variable {State Memory : Type}

/-- Makes one call. -/
def call (library : HashLibrary State Memory) (call : TaggedCall) (state : State)
    (memory : Memory) : CallAnswer × State × Memory :=
  match call with
  | .init tag =>
    let reply := library.init tag state memory
    ({ status := reply.status }, reply.state, reply.memory)
  | .update tag data =>
    let reply := library.update tag data state memory
    ({ status := reply.status }, reply.state, reply.memory)
  | .final tag buffer =>
    -- The buffer is the caller's, who sees what has become of it whatever the status.
    let (written, reply) := library.final tag buffer state memory
    ({ status := reply.status, buffer := some written }, reply.state, reply.memory)
  | .free tag =>
    let reply := library.free tag state memory
    ({ status := reply.status }, reply.state, reply.memory)

/-- Makes calls one after another on one state. -/
def callAll (library : HashLibrary State Memory) :
    List TaggedCall → State → Memory → List CallAnswer × State × Memory
  | [], state, memory => ([], state, memory)
  | call :: rest, state, memory =>
    let (answer, next, kept) := library.call call state memory
    let (answers, last, left) := library.callAll rest next kept
    (answer :: answers, last, left)

end HashLibrary

/-- A hash as its user knows it: none, or that of an algorithm with the bytes that it has absorbed. -/
inductive TaggedHash where
  | empty
  | running (algorithm : Algorithm) (message : Bytes)
  deriving DecidableEq, Repr

namespace TaggedHash

/-- What a call answers, and the hash behind it. -/
def step (hash : TaggedHash) (call : TaggedCall) : CallAnswer × TaggedHash :=
  match call, hash with
  | .init none, hash => ({ status := .badArgument }, hash)
  -- Whatever was in progress is given up.
  | .init (some algorithm), _ => ({ status := .ok }, running algorithm [])
  | .update _ _, empty => ({ status := .badArgument }, empty)
  | .update tag data, running algorithm message =>
    if tag = some algorithm then ({ status := .ok }, running algorithm (message ++ data))
    else ({ status := .badArgument }, running algorithm message)
  | .final _ buffer, empty => ({ status := .badArgument, buffer := some buffer }, empty)
  | .final tag buffer, running algorithm message =>
    -- The tag is checked before the room.
    if tag ≠ some algorithm then
      ({ status := .badArgument, buffer := some buffer }, running algorithm message)
    else if buffer.length < algorithm.digestSize then
      ({ status := .bufferTooShort, buffer := some buffer }, running algorithm message)
    else
      ({ status := .ok, buffer := some (Bytes.writeFront (algorithm.digest message) buffer) },
        running algorithm [])
  | .free _, _ => ({ status := .ok }, empty)

/-- What calls one after another answer, and the hash behind them. -/
def stepAll : List TaggedCall → TaggedHash → List CallAnswer × TaggedHash
  | [], hash => ([], hash)
  | call :: rest, hash =>
    let (answer, next) := hash.step call
    let (answers, last) := stepAll rest next
    (answer :: answers, last)

/-- A state of the stock library is as the hash has it. -/
def Matches (hash : TaggedHash) (state : StockState) : Prop :=
  match hash with
  | empty => state = .empty
  | running algorithm message =>
    ∃ hasher : algorithm.Running, hasher.Stands message ∧ state = .running algorithm hasher

/-- A hash that has just been started has absorbed nothing. -/
theorem matches_start (algorithm : Algorithm) :
    (running algorithm []).Matches (.running algorithm algorithm.startHash) :=
  ⟨algorithm.startHash, Hasher.stands_fresh, rfl⟩

end TaggedHash

namespace StockLibrary

variable {hash : TaggedHash} {state : StockState}

/-- An init call starts the hash of its tag, and does nothing without one. -/
theorem init_step (tag : Tag) (matched : hash.Matches state) :
    ({ status := (init tag state).1 } : CallAnswer) = (hash.step (.init tag)).1 ∧
      (hash.step (.init tag)).2.Matches (init tag state).2 := by
  -- Only the absence of a tag can make an init call fail.
  cases tag with
  | none => exact ⟨rfl, matched⟩
  | some algorithm => exact ⟨rfl, TaggedHash.matches_start algorithm⟩

/-- An update call makes the message longer under the tag in progress, and does nothing under any other. -/
theorem update_step (tag : Tag) (data : Bytes) (matched : hash.Matches state) :
    ({ status := (update tag data state).1 } : CallAnswer) = (hash.step (.update tag data)).1 ∧
      (hash.step (.update tag data)).2.Matches (update tag data state).2 := by
  -- With a hash in progress it is the tag given that decides, on both sides by the same test.
  cases hash with
  | empty =>
    obtain rfl : state = .empty := matched
    exact ⟨rfl, rfl⟩
  | running algorithm message =>
    obtain ⟨hasher, stands, rfl⟩ := matched
    by_cases own : tag = some algorithm
    · have absorbed : update tag data (.running algorithm hasher) =
          (.ok, .running algorithm (hasher.absorb data)) := if_pos own
      have stepped : (TaggedHash.running algorithm message).step (.update tag data) =
          ({ status := .ok }, .running algorithm (message ++ data)) := if_pos own
      rw [absorbed, stepped]
      exact ⟨rfl, hasher.absorb data, stands.absorb data, rfl⟩
    · have refused : update tag data (.running algorithm hasher) =
          (.badArgument, .running algorithm hasher) := if_neg own
      have stepped : (TaggedHash.running algorithm message).step (.update tag data) =
          ({ status := .badArgument }, .running algorithm message) := if_neg own
      rw [refused, stepped]
      exact ⟨rfl, hasher, stands, rfl⟩

/-- A final call under the tag in progress writes the digest and starts the hash anew if the buffer has room for it; in
any other case nothing changes. -/
theorem final_step (tag : Tag) (buffer : Bytes) (matched : hash.Matches state) :
    ({ status := (final tag buffer state).1, buffer := some (final tag buffer state).2.1 } :
        CallAnswer) = (hash.step (.final tag buffer)).1 ∧
      (hash.step (.final tag buffer)).2.Matches (final tag buffer state).2.2 := by
  -- The cases are those of the machine: no hash, a foreign tag, too little room, and the digest.
  cases hash with
  | empty =>
    obtain rfl : state = .empty := matched
    exact ⟨rfl, rfl⟩
  | running algorithm message =>
    obtain ⟨hasher, stands, rfl⟩ := matched
    by_cases own : tag = some algorithm
    · by_cases short : buffer.length < algorithm.digestSize
      · have refused : final tag buffer (.running algorithm hasher) =
            (.bufferTooShort, buffer, .running algorithm hasher) := by
          simp only [final, own, if_true, finishInto_of_short algorithm hasher short]
        have stepped : (TaggedHash.running algorithm message).step (.final tag buffer) =
            ({ status := .bufferTooShort, buffer := some buffer }, .running algorithm message) := by
          simp only [TaggedHash.step, own, ne_eq, not_true_eq_false, if_false, short, if_true]
        rw [refused, stepped]
        exact ⟨rfl, hasher, stands, rfl⟩
      · -- The digest written is that of the message which the machine has kept.
        have finished : final tag buffer (.running algorithm hasher) =
            (.ok, Bytes.writeFront (algorithm.digest message) buffer,
              .running algorithm algorithm.startHash) := by
          simp only [final, own, if_true, finishInto_of_room algorithm hasher (Nat.not_lt.mp short),
            stands.finish, Algorithm.digest]
        have stepped : (TaggedHash.running algorithm message).step (.final tag buffer) =
            ({ status := .ok, buffer := some (Bytes.writeFront (algorithm.digest message) buffer) },
              .running algorithm []) := by
          simp only [TaggedHash.step, own, ne_eq, not_true_eq_false, if_false, short]
        rw [finished, stepped]
        exact ⟨rfl, TaggedHash.matches_start algorithm⟩
    · have refused : final tag buffer (.running algorithm hasher) =
          (.badArgument, buffer, .running algorithm hasher) := if_neg own
      have stepped : (TaggedHash.running algorithm message).step (.final tag buffer) =
          ({ status := .badArgument, buffer := some buffer }, .running algorithm message) :=
        if_pos own
      rw [refused, stepped]
      exact ⟨rfl, hasher, stands, rfl⟩

variable {Memory : Type}

/-- Every call answers as the machine does, and leaves the library's memory alone. -/
theorem call_step (call : TaggedCall) (matched : hash.Matches state) (memory : Memory) :
    ((tagged Memory).call call state memory).1 = (hash.step call).1 ∧
      (hash.step call).2.Matches ((tagged Memory).call call state memory).2.1 ∧
      ((tagged Memory).call call state memory).2.2 = memory := by
  -- Each kind of call has its own lemma; a free call empties either side.
  cases call with
  | init tag =>
    obtain ⟨answered, follows⟩ := init_step tag matched
    exact ⟨answered, follows, rfl⟩
  | update tag data =>
    obtain ⟨answered, follows⟩ := update_step tag data matched
    exact ⟨answered, follows, rfl⟩
  | final tag buffer =>
    obtain ⟨answered, follows⟩ := final_step tag buffer matched
    exact ⟨answered, follows, rfl⟩
  | free tag => exact ⟨rfl, rfl, rfl⟩

/-- Calls one after another answer as the machine does, from wherever the two stand alike. -/
theorem callAll_steps (calls : List TaggedCall) (matched : hash.Matches state) (memory : Memory) :
    ((tagged Memory).callAll calls state memory).1 = (TaggedHash.stepAll calls hash).1 ∧
      (TaggedHash.stepAll calls hash).2.Matches
        ((tagged Memory).callAll calls state memory).2.1 ∧
      ((tagged Memory).callAll calls state memory).2.2 = memory := by
  -- The induction is on the calls; each leaves the two standing alike for the rest.
  induction calls generalizing hash state memory with
  | nil => exact ⟨rfl, matched, rfl⟩
  | cons call rest ih =>
    obtain ⟨answered, follows, kept⟩ := call_step call matched memory
    obtain ⟨answers, last, left⟩ :=
      ih follows ((tagged Memory).call call state memory).2.2
    refine ⟨?_, last, left.trans kept⟩
    simp only [HashLibrary.callAll, TaggedHash.stepAll, answered, answers]

/-- Whatever calls are made on one state from its beginning, and whatever tags, pieces and buffers they are given, they
answer as the machine does, which stands as the state does afterwards. -/
theorem tagged_refines_machine (calls : List TaggedCall) (memory : Memory) :
    let outcome := (tagged Memory).callAll calls (tagged Memory).zero memory
    let expected := TaggedHash.stepAll calls .empty
    outcome.1 = expected.1 ∧ expected.2.Matches outcome.2.1 ∧ outcome.2.2 = memory := by
  intro outcome expected
  -- Before any call there is no hash on either side.
  have matched : TaggedHash.empty.Matches (tagged Memory).zero := rfl
  exact callAll_steps calls matched memory

end StockLibrary

end DigestProvider
