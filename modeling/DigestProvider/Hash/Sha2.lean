import DigestProvider.Hash.Block

/-! The SHA-2 functions of either word width: message schedule, rounds and padding. -/

namespace DigestProvider.Sha2

/-- Whatever the word width, the functions of one width differ from the other's in these alone. -/
structure Width (Word : Type) where
  /-- Bytes in a word. -/
  wordBytes : Nat
  /-- A word holds something. -/
  wordBytes_pos : 0 < wordBytes := by decide
  /-- The word of a number, reduced to the width. -/
  ofNat : Nat → Word
  /-- The number of a word. -/
  toNat : Word → Nat
  /-- Rotation to the right. -/
  rotate : Word → Word → Word
  /-- Rotations of the sum over register `a`. -/
  sum0 : Word × Word × Word
  /-- Rotations of the sum over register `e`. -/
  sum1 : Word × Word × Word
  /-- Two rotations and a shift of the older schedule word. -/
  expand0 : Word × Word × Word
  /-- Two rotations and a shift of the newer schedule word. -/
  expand1 : Word × Word × Word
  /-- One constant for each round. -/
  constants : List Word

/-- The eight working registers, which are also the chaining value. -/
structure Registers (Word : Type) where
  /-- The first register. -/
  a : Word
  /-- The second register. -/
  b : Word
  /-- The third register. -/
  c : Word
  /-- The fourth register. -/
  d : Word
  /-- The fifth register. -/
  e : Word
  /-- The sixth register. -/
  f : Word
  /-- The seventh register. -/
  g : Word
  /-- The eighth register. -/
  h : Word

/-- The big-endian digits of a number in base 256, cut to a count of bytes. -/
def bigEndian (count value : Nat) : Bytes :=
  (List.range count).map fun i => UInt8.ofNat (value >>> (8 * (count - 1 - i)))

/-- The number that a byte string is the big-endian text of. -/
def bigEndianValue (bytes : Bytes) : Nat :=
  bytes.foldl (fun value byte => 256 * value + byte.toNat) 0

section Rounds

variable {Word : Type} [Add Word] [AndOp Word] [XorOp Word] [Complement Word] [ShiftRight Word]

/-- The exclusive or of three rotations. -/
@[specialize] def rotations (width : Width Word) (counts : Word × Word × Word) (word : Word) : Word :=
  width.rotate word counts.1 ^^^ width.rotate word counts.2.1 ^^^ width.rotate word counts.2.2

/-- The exclusive or of two rotations and a shift. -/
@[specialize] def expansion (width : Width Word) (counts : Word × Word × Word) (word : Word) : Word :=
  width.rotate word counts.1 ^^^ width.rotate word counts.2.1 ^^^ word >>> counts.2.2

/-- The schedule goes on with a sum over its last sixteen words. -/
@[specialize] def nextWord (width : Width Word) (window : List Word) : Word :=
  let word := fun i : Nat => window.getD i (width.ofNat 0)
  expansion width width.expand1 (word 14) + word 9 + expansion width width.expand0 (word 1) + word 0

/-- The next words of a schedule whose last sixteen, oldest first, are the window. -/
@[specialize] def schedule (width : Width Word) : Nat → List Word → List Word
  | 0, _ => []
  | count + 1, window =>
    window.headD (width.ofNat 0) ::
      schedule width count (window.tail ++ [nextWord width window])

/-- One round with its constant and schedule word. -/
@[specialize] def round (width : Width Word) (r : Registers Word) (input : Word × Word) :
    Registers Word :=
  let choice := (r.e &&& r.f) ^^^ (~~~r.e &&& r.g)
  let majority := (r.a &&& r.b) ^^^ (r.a &&& r.c) ^^^ (r.b &&& r.c)
  let first := r.h + rotations width width.sum1 r.e + choice + input.1 + input.2
  let second := rotations width width.sum0 r.a + majority
  ⟨first + second, r.a, r.b, r.c, r.d + first, r.e, r.f, r.g⟩

/-- Adds two sets of registers, each to each. -/
def Registers.add (left right : Registers Word) : Registers Word :=
  ⟨left.a + right.a, left.b + right.b, left.c + right.c, left.d + right.d,
    left.e + right.e, left.f + right.f, left.g + right.g, left.h + right.h⟩

/-- One block is sixteen words; all rounds run over its schedule and are added to the chaining value. -/
@[specialize] def compress (width : Width Word) (chain : Registers Word) (block : Bytes) :
    Registers Word :=
  let words := (chunks width.wordBytes block).map fun run => width.ofNat (bigEndianValue run)
  let inputs := width.constants.zip (schedule width width.constants.length words)
  chain.add (inputs.foldl (round width) chain)

end Rounds

/-- Sixteen words make a block. -/
def blockBytes {Word : Type} (width : Width Word) : Nat :=
  16 * width.wordBytes

/-- A one bit, the fewest zeros that complete a block, and the message's bit length in two words. -/
def padding {Word : Type} (width : Width Word) (length : Nat) : Bytes :=
  let block := blockBytes width
  let tail := 2 * width.wordBytes
  let zeros := (block - (length + 1 + tail) % block) % block
  0x80 :: List.replicate zeros 0 ++ bigEndian tail (8 * length)

/-- The registers one after another, each big-endian. -/
def registerBytes {Word : Type} (width : Width Word) (r : Registers Word) : Bytes :=
  [r.a, r.b, r.c, r.d, r.e, r.f, r.g, r.h].flatMap fun word =>
    bigEndian width.wordBytes (width.toNat word)

/-- The hash function of a width with given initial registers and digest length. -/
@[specialize] def blockHash {Word : Type} [Add Word] [AndOp Word] [XorOp Word] [Complement Word]
    [ShiftRight Word] (width : Width Word) (initial : Registers Word) (digestSize : Nat) :
    BlockHash (Registers Word) where
  blockSize := blockBytes width
  blockSize_pos := Nat.mul_pos (by decide) width.wordBytes_pos
  start := initial
  compress := compress width
  padding := padding width
  output r := (registerBytes width r).take digestSize

end DigestProvider.Sha2
