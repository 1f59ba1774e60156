import DigestProvider.Hash.Digest

/-! Every digest has the length that its algorithm declares, whatever was hashed. -/

namespace DigestProvider

namespace Sha2

/-- As many big-endian digits come out as were asked for. -/
@[simp] theorem length_bigEndian (count value : Nat) : (bigEndian count value).length = count := by
  -- One digit is made for each position.
  simp [bigEndian]

/-- Eight registers make eight words of bytes. -/
theorem length_registerBytes {Word : Type} (width : Width Word) (r : Registers Word) :
    (registerBytes width r).length = 8 * width.wordBytes := by
  -- Each register contributes one word.
  simp only [registerBytes, List.length_flatMap, length_bigEndian, List.map_cons, List.map_nil,
    List.sum_cons, List.sum_nil]
  omega

/-- The eight registers are enough for a digest that is no longer than they are. -/
theorem length_output {Word : Type} [Add Word] [AndOp Word] [XorOp Word] [Complement Word]
    [ShiftRight Word] (width : Width Word) (initial chain : Registers Word) {digestSize : Nat}
    (within : digestSize ≤ 8 * width.wordBytes) :
    ((blockHash width initial digestSize).output chain).length = digestSize := by
  -- The digest is cut from the front of the registers.
  show ((registerBytes width chain).take digestSize).length = digestSize
  rw [List.length_take, length_registerBytes]
  exact Nat.min_eq_left within

end Sha2

namespace Sha3

/-- A lane makes eight bytes. -/
@[simp] theorem length_laneBytes (lane : UInt64) : (laneBytes lane).length = 8 := by
  -- One byte is made for each of eight shifts.
  simp [laneBytes]

/-- The twenty-five lanes make two hundred bytes. -/
theorem length_lanesBytes (lanes : Lanes) : (lanes.toList.flatMap laneBytes).length = 200 := by
  -- Each lane contributes eight bytes.
  rw [List.length_flatMap, List.map_congr_left fun lane _ => length_laneBytes lane,
    List.map_const', List.sum_replicate_nat, Vector.length_toList]

/-- The lanes are enough for every digest that leaves room for input. -/
theorem length_output {digestSize : Nat} (room : digestSize < 100) (lanes : Lanes) :
    ((blockHash digestSize room).output lanes).length = digestSize := by
  -- The digest is cut from the front of the lanes.
  show ((lanes.toList.flatMap laneBytes).take digestSize).length = digestSize
  rw [List.length_take, length_lanesBytes]
  omega

end Sha3

namespace Algorithm

/-- What is read off a chaining value is as long as the digest. -/
theorem length_output (algorithm : Algorithm) (chain : algorithm.Chain) :
    (algorithm.blockHash.output chain).length = algorithm.digestSize := by
  -- Either family holds at least as many bytes as its longest digest takes.
  cases algorithm with
  | sha256 => exact Sha2.length_output Sha2.width32 _ chain (by decide)
  | sha384 => exact Sha2.length_output Sha2.width64 _ chain (by decide)
  | sha512 => exact Sha2.length_output Sha2.width64 _ chain (by decide)
  | sha3_224 => exact Sha3.length_output (by decide) chain
  | sha3_256 => exact Sha3.length_output (by decide) chain
  | sha3_384 => exact Sha3.length_output (by decide) chain
  | sha3_512 => exact Sha3.length_output (by decide) chain

/-- A digest is as long as its algorithm declares. -/
@[simp] theorem length_digest (algorithm : Algorithm) (message : Bytes) :
    (algorithm.digest message).length = algorithm.digestSize :=
  algorithm.length_output _

/-- No digest is empty. -/
theorem digestSize_pos (algorithm : Algorithm) : 0 < algorithm.digestSize := by
  -- There are seven sizes to look at.
  cases algorithm <;> decide

end Algorithm

end DigestProvider
