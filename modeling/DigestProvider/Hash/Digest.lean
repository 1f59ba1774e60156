import DigestProvider.Algorithm
import DigestProvider.Hash.Sha2Constants
import DigestProvider.Hash.Sha3

/-! The hash function of each algorithm, its digest of a message, and hashers for it. -/

namespace DigestProvider.Algorithm

/-- The chaining values of an algorithm. -/
def Chain : Algorithm → Type
  | sha256 => Sha2.Registers UInt32
  | sha384 | sha512 => Sha2.Registers UInt64
  | sha3_224 | sha3_256 | sha3_384 | sha3_512 => Sha3.Lanes

/-- The hash function of an algorithm. -/
def blockHash : (algorithm : Algorithm) → BlockHash algorithm.Chain
  | sha256 => Sha2.sha256
  | sha384 => Sha2.sha384
  | sha512 => Sha2.sha512
  | sha3_224 => Sha3.blockHash 28 (by decide)
  | sha3_256 => Sha3.blockHash 32 (by decide)
  | sha3_384 => Sha3.blockHash 48 (by decide)
  | sha3_512 => Sha3.blockHash 64 (by decide)

/-- The digest of a message. -/
def digest (algorithm : Algorithm) (message : Bytes) : Bytes :=
  algorithm.blockHash.digest message

/-- A hash of this algorithm in progress. -/
abbrev Running (algorithm : Algorithm) := Hasher algorithm.blockHash

/-- A hasher that has absorbed nothing. -/
def startHash (algorithm : Algorithm) : algorithm.Running :=
  Hasher.fresh algorithm.blockHash

end DigestProvider.Algorithm
