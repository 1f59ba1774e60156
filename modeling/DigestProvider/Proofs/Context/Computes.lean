import DigestProvider.Proofs.Context.Prescribed
import DigestProvider.Proofs.Library.Calls

/-! A context over the stock library gives the digest of its message, however the message is cut into pieces. -/

namespace DigestProvider

/-- The stock library under every name, for a build that calls its free or leaves it out. -/
def Backend.stock (Library Memory : Type) (callsFree : Bool) :
    Backend Library StockState StockLibrary.DirectState Memory where
  tagged _ := StockLibrary.tagged Memory
  direct _ := StockLibrary.direct Memory
  directZero _ := none
  callsFree := callsFree

namespace Backend

variable {Library State Direct Memory : Type} [DecidableEq Library] [DedicatedStates Library]

/-- A method's operations compute an algorithm, as told by the frames in which a message has been absorbed. -/
structure Computes (backend : Backend Library State Direct Memory) (method : Method Library)
    (algorithm : Algorithm) (Absorbed : Bytes → Frame Library State Direct Memory → Prop) :
    Prop where
  /-- Initialization succeeds and begins with the empty message. -/
  init : ∀ frame, (backend.init method frame).1 = .ok () ∧
    Absorbed [] (backend.init method frame).2
  /-- Each piece is put behind the message. -/
  update : ∀ message piece frame, Absorbed message frame →
    (backend.update method piece frame).1 = .ok () ∧
      Absorbed (message ++ piece) (backend.update method piece frame).2
  /-- Finalization gives the digest of the message. -/
  finalize : ∀ message frame, Absorbed message frame →
    (backend.finalize method frame).1 = .ok (algorithm.digest message)

section Pieces

variable {backend : Backend Library State Direct Memory} {method : Method Library}
  {algorithm : Algorithm} {Absorbed : Bytes → Frame Library State Direct Memory → Prop}

/-- Pieces one after another are put behind the message in order. -/
theorem Computes.updateAll (computes : backend.Computes method algorithm Absorbed)
    (pieces : List Bytes) {message : Bytes} {frame : Frame Library State Direct Memory}
    (absorbed : Absorbed message frame) :
    (backend.updateAll method pieces frame).1 = .ok () ∧
      Absorbed (message ++ pieces.flatten) (backend.updateAll method pieces frame).2 := by
  -- The induction is on the pieces; each makes the message longer.
  induction pieces generalizing message frame with
  | nil => exact ⟨rfl, by simpa [Backend.updateAll] using absorbed⟩
  | cons piece rest ih =>
    obtain ⟨succeeded, longer⟩ := computes.update message piece frame absorbed
    rcases stepped : backend.update method piece frame with ⟨answer, next⟩
    rw [stepped] at succeeded longer
    obtain rfl : answer = .ok () := succeeded
    rw [List.flatten_cons, ← List.append_assoc]
    simp only [Backend.updateAll, stepped]
    exact ih longer

/-- The digest of pieces is that of the message they make up. -/
theorem Computes.digestPieces (computes : backend.Computes method algorithm Absorbed)
    (pieces : List Bytes) (frame : Frame Library State Direct Memory) :
    (backend.digestPieces method pieces frame).1 = .ok (algorithm.digest pieces.flatten) := by
  -- Initialization, the pieces and finalization succeed one after another; cleanup has no say in the answer.
  obtain ⟨began, fresh⟩ := computes.init frame
  rcases initialized : backend.init method frame with ⟨answer, running⟩
  rw [initialized] at began fresh
  obtain rfl : answer = .ok () := began
  obtain ⟨fed, absorbed⟩ := computes.updateAll pieces fresh
  rcases updated : backend.updateAll method pieces running with ⟨answer, full⟩
  rw [updated] at fed absorbed
  obtain rfl : answer = .ok () := fed
  simp only [Backend.digestPieces, initialized, updated]
  exact computes.finalize pieces.flatten full absorbed

/-- The digest of a whole message is the algorithm's. -/
theorem Computes.digest (computes : backend.Computes method algorithm Absorbed) (data : Bytes)
    (frame : Frame Library State Direct Memory) :
    (backend.digest method data frame).1 = .ok (algorithm.digest data) := by
  have pieces := computes.digestPieces [data] frame
  rwa [List.flatten_singleton] at pieces

end Pieces

section Stock

variable {library : Library} {algorithm : Algorithm} {method : Method Library} {callsFree : Bool}

/-- The tag-dispatching method of an algorithm computes it. -/
theorem tagged_computes (prescribed : (Recipe.tagged library algorithm).Prescribes method) :
    (stock Library Memory callsFree).Computes method algorithm fun message frame =>
      ∃ hasher : algorithm.Running, hasher.Stands message ∧
        frame.state = some (.tagged library (some algorithm) (.running algorithm hasher)) where
  init frame := by
    -- The state was just allocated, and the hook stamps it and starts the hash.
    have held := (stock Library Memory callsFree).state_allocated (.tagged library algorithm)
      method frame
    rw [init_eq _ prescribed]
    simp only [Recipe.tagged] at held ⊢
    rw [runInit_tagged _ algorithm held]
    exact ⟨rfl, algorithm.startHash, Hasher.stands_fresh, rfl⟩
  update message piece frame absorbed := by
    obtain ⟨hasher, stands, held⟩ := absorbed
    rw [update_eq _ prescribed]
    simp only [Recipe.tagged]
    by_cases empty : piece = []
    · -- No bytes need no call.
      subst empty
      rw [runUpdate_tagged_nil _ held]
      exact ⟨rfl, hasher, by simpa using stands, held⟩
    · rw [runUpdate_tagged _ held empty]
      simp only [stock, StockLibrary.tagged_update_running]
      exact ⟨rfl, hasher.absorb piece, stands.absorb piece, rfl⟩
  finalize message frame absorbed := by
    obtain ⟨hasher, stands, held⟩ := absorbed
    have room : algorithm.digestSize ≤
        (List.replicate algorithm.digestSize (0 : UInt8)).length := by simp
    rw [finalize_eq _ prescribed]
    simp only [Recipe.tagged]
    rw [runFinal_tagged _ _ held]
    simp only [stock, StockLibrary.tagged_final_running algorithm hasher room]
    rw [stands.take_writeFront]
    rfl

/-- The dedicated method computes SHA-256. -/
theorem direct_computes (prescribed : (Recipe.direct library).Prescribes method) :
    (stock Library Memory callsFree).Computes method .sha256 fun message frame =>
      ∃ hasher : Algorithm.sha256.Running, hasher.Stands message ∧
        frame.state = some (.ofType (typeOf library) (some hasher)) where
  init frame := by
    -- The state was just allocated, and the hook starts the hash.
    have held := (stock Library Memory callsFree).state_allocated (.direct library) method frame
    rw [init_eq _ prescribed]
    simp only [Recipe.direct] at held ⊢
    rw [runInit_direct _ held]
    exact ⟨rfl, Algorithm.sha256.startHash, Hasher.stands_fresh, rfl⟩
  update message piece frame absorbed := by
    obtain ⟨hasher, stands, held⟩ := absorbed
    rw [update_eq _ prescribed]
    simp only [Recipe.direct]
    by_cases empty : piece = []
    · -- No bytes need no call.
      subst empty
      rw [runUpdate_direct_nil _ held]
      exact ⟨rfl, hasher, by simpa using stands, held⟩
    · rw [runUpdate_direct _ held empty]
      exact ⟨rfl, hasher.absorb piece, stands.absorb piece, rfl⟩
  finalize message frame absorbed := by
    obtain ⟨hasher, stands, held⟩ := absorbed
    have room : Algorithm.sha256.digestSize ≤
        (List.replicate Algorithm.sha256.digestSize (0 : UInt8)).length := by simp
    rw [finalize_eq _ prescribed]
    simp only [Recipe.direct]
    rw [runFinal_direct _ _ held]
    simp only [stock, StockLibrary.direct_final_running hasher room]
    rw [stands.take_writeFront]
    rfl

end Stock

end Backend

end DigestProvider
