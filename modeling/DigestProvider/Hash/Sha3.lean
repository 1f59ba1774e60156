import DigestProvider.Hash.Block

/-! The SHA-3 functions: the permutation Keccak-f[1600] and the sponge over it. -/

namespace DigestProvider.Sha3

/-- The state: five by five lanes, lane `(x, y)` at position `x + 5 * y`. -/
abbrev Lanes := Vector UInt64 25

/-- The lane in column `x` and row `y`, both taken modulo five. -/
def Lanes.at (lanes : Lanes) (x y : Nat) : UInt64 :=
  lanes.get ⟨x % 5 + 5 * (y % 5), by omega⟩

/-- The state whose lanes are given by column and row. -/
def Lanes.ofLanes (lane : Nat → Nat → UInt64) : Lanes :=
  Vector.ofFn fun i => lane (i.val % 5) (i.val / 5)

/-- Rotation of a lane to the left. -/
def rotateLeft (lane count : UInt64) : UInt64 :=
  lane <<< count ||| lane >>> (64 - count)

/-- How far step ρ rotates each lane, by position. -/
def rotationCounts : Lanes :=
  #v[0, 1, 62, 28, 27, 36, 44, 6, 55, 20, 3, 10, 43, 25, 39, 41, 45, 15, 21, 8, 18, 2, 61, 56, 14]

/-- The constant that step ι adds to lane `(0, 0)` in each round. -/
def roundConstants : List UInt64 :=
  [0x0000000000000001, 0x0000000000008082, 0x800000000000808a, 0x8000000080008000,
    0x000000000000808b, 0x0000000080000001, 0x8000000080008081, 0x8000000000008009,
    0x000000000000008a, 0x0000000000000088, 0x0000000080008009, 0x000000008000000a,
    0x000000008000808b, 0x800000000000008b, 0x8000000000008089, 0x8000000000008003,
    0x8000000000008002, 0x8000000000000080, 0x000000000000800a, 0x800000008000000a,
    0x8000000080008081, 0x8000000000008080, 0x0000000080000001, 0x8000000080008008]

/-- The parities of the five columns. -/
def columnParities (lanes : Lanes) : Vector UInt64 5 :=
  Vector.ofFn fun x =>
    lanes.at x 0 ^^^ lanes.at x 1 ^^^ lanes.at x 2 ^^^ lanes.at x 3 ^^^ lanes.at x 4

/-- Step θ adds to each lane the parities of the two neighbouring columns. -/
def theta (lanes : Lanes) : Lanes :=
  let parities := columnParities lanes
  let parity := fun x : Nat => parities.get ⟨x % 5, by omega⟩
  Lanes.ofLanes fun x y => lanes.at x y ^^^ parity (x + 4) ^^^ rotateLeft (parity (x + 1)) 1

/-- Step ρ rotates every lane by its own count. -/
def rho (lanes : Lanes) : Lanes :=
  Lanes.ofLanes fun x y => rotateLeft (lanes.at x y) (rotationCounts.at x y)

/-- Step π moves the lanes among the positions. -/
def pi (lanes : Lanes) : Lanes :=
  Lanes.ofLanes fun x y => lanes.at (x + 3 * y) x

/-- Step χ combines each lane with the next two of its row. -/
def chi (lanes : Lanes) : Lanes :=
  Lanes.ofLanes fun x y => lanes.at x y ^^^ (~~~lanes.at (x + 1) y &&& lanes.at (x + 2) y)

/-- Step ι adds a round constant to the first lane. -/
def iota (constant : UInt64) (lanes : Lanes) : Lanes :=
  lanes.set 0 (lanes[0] ^^^ constant)

/-- The permutation: twenty-four rounds of the five steps. -/
def permute (lanes : Lanes) : Lanes :=
  roundConstants.foldl (fun lanes constant => iota constant (chi (pi (rho (theta lanes))))) lanes

/-- The lane that eight bytes are the little-endian text of. -/
def laneOfBytes (bytes : Bytes) : UInt64 :=
  bytes.foldr (fun byte lane => lane <<< 8 ||| byte.toUInt64) 0

/-- The eight little-endian bytes of a lane. -/
def laneBytes (lane : UInt64) : Bytes :=
  (List.range 8).map fun i => (lane >>> (8 * UInt64.ofNat i)).toUInt8

/-- Adds a block to the front of the state and permutes it. -/
def compress (lanes : Lanes) (block : Bytes) : Lanes :=
  let input := ((chunks 8 block).map laneOfBytes).toArray
  permute (Vector.ofFn fun i => lanes[i] ^^^ input.getD i.val 0)

/-- The two suffix bits, then a one bit at either end of the fewest bytes that complete a block. -/
def padding (rate length : Nat) : Bytes :=
  let room := rate - length % rate
  if room ≤ 1 then [0x86] else 0x06 :: List.replicate (room - 2) 0 ++ [0x80]

/-- The SHA-3 function with this digest length: a block leaves twice the digest's length of the state alone. -/
def blockHash (digestSize : Nat) (room : digestSize < 100) : BlockHash Lanes where
  blockSize := 200 - 2 * digestSize
  blockSize_pos := by omega
  start := Vector.replicate 25 0
  compress := compress
  padding := padding (200 - 2 * digestSize)
  output lanes := (lanes.toList.flatMap laneBytes).take digestSize

end DigestProvider.Sha3
