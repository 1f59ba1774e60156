import DigestProvider.Bytes

/-!
Hash functions that pad their message, cut it into blocks and fold a compression over them, and hashers that
take the message piecewise. Main statement: a hasher that stands at a message, as it does after absorbing any cut of it,
finishes with the message's digest.
-/

namespace DigestProvider

/-- A hash function by its block length, chaining values, compression, padding and output. -/
structure BlockHash (Chain : Type) where
  /-- Bytes that one compression consumes. -/
  blockSize : Nat
  /-- A compression consumes something. -/
  blockSize_pos : 0 < blockSize
  /-- The chaining value before the first block. -/
  start : Chain
  /-- The chaining value after one more block. -/
  compress : Chain → Bytes → Chain
  /-- What is put behind a message of the given length. -/
  padding : Nat → Bytes
  /-- The digest read off the last chaining value. -/
  output : Chain → Bytes

namespace BlockHash

variable {Chain : Type}

/-- Folds the compression over the blocks of a padded text. -/
def compressAll (hash : BlockHash Chain) (chain : Chain) (text : Bytes) : Chain :=
  (chunks hash.blockSize text).foldl hash.compress chain

/-- The digest of a whole message. -/
def digest (hash : BlockHash Chain) (message : Bytes) : Bytes :=
  hash.output (hash.compressAll hash.start (message ++ hash.padding message.length))

end BlockHash

/-- A hash in progress: all full blocks are compressed, and the bytes after them wait. -/
structure Hasher {Chain : Type} (hash : BlockHash Chain) where
  /-- The chaining value after every full block so far. -/
  chain : Chain
  /-- The bytes of the unfinished block. -/
  pending : Bytes
  /-- How many bytes were absorbed. -/
  length : Nat

namespace Hasher

variable {Chain : Type} {hash : BlockHash Chain}

/-- A hasher that has absorbed nothing. -/
def fresh (hash : BlockHash Chain) : Hasher hash :=
  ⟨hash.start, [], 0⟩

/-- Takes in one byte and compresses the block that it completes. -/
def absorbByte (hasher : Hasher hash) (byte : UInt8) : Hasher hash :=
  let filled := hasher.pending ++ [byte]
  if filled.length < hash.blockSize then
    ⟨hasher.chain, filled, hasher.length + 1⟩
  else
    ⟨hash.compress hasher.chain filled, [], hasher.length + 1⟩

/-- Takes in a piece of the message. -/
def absorb (hasher : Hasher hash) (piece : Bytes) : Hasher hash :=
  piece.foldl absorbByte hasher

/-- The digest of everything absorbed. -/
def finish (hasher : Hasher hash) : Bytes :=
  hash.output (hash.compressAll hasher.chain (hasher.pending ++ hash.padding hasher.length))

/-- Nothing changes when nothing is absorbed. -/
@[simp] theorem absorb_nil (hasher : Hasher hash) : hasher.absorb [] = hasher :=
  rfl

/-- Absorbing one piece after another is absorbing both at once. -/
theorem absorb_append (hasher : Hasher hash) (left right : Bytes) :
    hasher.absorb (left ++ right) = (hasher.absorb left).absorb right := by
  -- Both sides fold over the same bytes.
  simp [absorb]

/-- A hasher stands where the message led it: full blocks compressed, the rest pending. -/
def Stands (hasher : Hasher hash) (message : Bytes) : Prop :=
  -- The blocks and the pending bytes are the message, and nothing else is remembered of it.
  ∃ blocks : List Bytes, (∀ block ∈ blocks, block.length = hash.blockSize) ∧
    message = blocks.flatten ++ hasher.pending ∧
    hasher.chain = blocks.foldl hash.compress hash.start ∧
    hasher.pending.length < hash.blockSize ∧ hasher.length = message.length

/-- A fresh hasher stands at the empty message. -/
theorem stands_fresh : (fresh hash).Stands [] :=
  ⟨[], by simp, by simp [fresh], rfl, hash.blockSize_pos, rfl⟩

/-- One more byte keeps a hasher where the message leads it. -/
theorem Stands.absorbByte {hasher : Hasher hash} {message : Bytes} (stands : hasher.Stands message)
    (byte : UInt8) : (hasher.absorbByte byte).Stands (message ++ [byte]) := by
  obtain ⟨blocks, full, split, chain, short, length⟩ := stands
  unfold Hasher.absorbByte
  by_cases open_ : (hasher.pending ++ [byte]).length < hash.blockSize
  · -- The byte joins the unfinished block.
    simp only [open_, ↓reduceIte]
    exact ⟨blocks, full, by simp [split], chain, open_, by simp [length]⟩
  · -- The byte completes a block, which joins the compressed ones.
    simp only [open_, ↓reduceIte]
    refine ⟨blocks ++ [hasher.pending ++ [byte]], ?_, by simp [split], by simp [chain],
      hash.blockSize_pos, by simp [length]⟩
    intro block member
    rcases List.mem_append.mp member with earlier | last
    · exact full block earlier
    · rw [List.mem_singleton.mp last]
      simp only [List.length_append, List.length_singleton] at open_ ⊢
      omega

/-- Absorbing a piece leads a hasher along the message. -/
theorem Stands.absorb {hasher : Hasher hash} {message : Bytes} (stands : hasher.Stands message)
    (piece : Bytes) : (hasher.absorb piece).Stands (message ++ piece) := by
  -- Each byte of the piece is one step along the message.
  induction piece generalizing hasher message with
  | nil => simpa using stands
  | cons byte rest ih => simpa [Hasher.absorb] using ih (stands.absorbByte byte)

/-- Full blocks in front of a text are compressed before the rest of it. -/
theorem compressAll_flatten (blocks : List Bytes) (rest : Bytes) (chain : Chain)
    (full : ∀ block ∈ blocks, block.length = hash.blockSize) :
    hash.compressAll chain (blocks.flatten ++ rest) =
      hash.compressAll (blocks.foldl hash.compress chain) rest := by
  -- The cut returns each full block as it was.
  induction blocks generalizing chain with
  | nil => rfl
  | cons block blocks ih =>
    have step := chunks_append hash.blockSize_pos block (blocks.flatten ++ rest)
      (full block List.mem_cons_self)
    have tail := ih (hash.compress chain block)
      fun other member => full other (List.mem_cons_of_mem block member)
    simp only [BlockHash.compressAll, List.flatten_cons, List.append_assoc, step,
      List.foldl_cons] at tail ⊢
    exact tail

/-- A hasher that stands at a message finishes with the message's digest. -/
theorem Stands.finish {hasher : Hasher hash} {message : Bytes} (stands : hasher.Stands message) :
    hasher.finish = hash.digest message := by
  -- The padded message starts with the blocks already compressed.
  obtain ⟨blocks, full, split, chain, _, length⟩ := stands
  have blocksFirst : hash.compressAll hash.start
      (blocks.flatten ++ (hasher.pending ++ hash.padding message.length)) = _ :=
    compressAll_flatten blocks _ hash.start full
  rw [Hasher.finish, BlockHash.digest, length, chain]
  rw [← List.append_assoc, ← split] at blocksFirst
  rw [blocksFirst]

end Hasher

end DigestProvider
