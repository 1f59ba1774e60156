import DigestProvider.Nid

/-! The seven hash algorithms, their identifiers, names and digest lengths, and the optional tag of a state. -/

namespace DigestProvider

/-- The hash algorithms of the SHA-2 and SHA-3 families that a provider can register. -/
inductive Algorithm where
  | sha256
  | sha384
  | sha512
  | sha3_224
  | sha3_256
  | sha3_384
  | sha3_512
  deriving DecidableEq, Repr

namespace Algorithm

/-- Every algorithm, in registration order. -/
def all : List Algorithm :=
  [sha256, sha384, sha512, sha3_224, sha3_256, sha3_384, sha3_512]

/-- No algorithm is missing from the registration order. -/
@[simp] theorem mem_all (algorithm : Algorithm) : algorithm ∈ all := by
  -- Each of the seven names occurs in the list.
  cases algorithm <;> decide

/-- Digest length in bytes. -/
def digestSize : Algorithm → Nat
  | sha3_224 => 28
  | sha256 | sha3_256 => 32
  | sha384 | sha3_384 => 48
  | sha512 | sha3_512 => 64

/-- The identifier under which the host files the algorithm. -/
def nid : Algorithm → Nid
  | sha256 => ⟨672⟩
  | sha384 => ⟨673⟩
  | sha512 => ⟨674⟩
  | sha3_224 => ⟨1096⟩
  | sha3_256 => ⟨1097⟩
  | sha3_384 => ⟨1098⟩
  | sha3_512 => ⟨1099⟩

/-- The host's short name. -/
def name : Algorithm → String
  | sha256 => "SHA256"
  | sha384 => "SHA384"
  | sha512 => "SHA512"
  | sha3_224 => "SHA3-224"
  | sha3_256 => "SHA3-256"
  | sha3_384 => "SHA3-384"
  | sha3_512 => "SHA3-512"

/-- The position of an algorithm in the registration order. -/
def position? (algorithm : Algorithm) : Option (Fin all.length) :=
  all.finIdxOf? algorithm

/-- The algorithm filed under an identifier. -/
def ofNid? (nid : Nid) : Option Algorithm :=
  all.find? (·.nid = nid)

/-- Algorithms are told apart by their identifiers. -/
theorem nid_injective {left right : Algorithm} (same : left.nid = right.nid) : left = right := by
  -- The seven numbers are distinct.
  revert same
  cases left <;> cases right <;> decide

/-- Every algorithm has a position. -/
theorem exists_position (algorithm : Algorithm) :
    ∃ position, algorithm.position? = some position := by
  -- Each of the seven names is found in the list.
  cases algorithm <;> exact ⟨_, rfl⟩

/-- The algorithm that stands at a position has that position, and no other algorithm does. -/
theorem position?_eq_some_iff {algorithm : Algorithm} {position : Fin all.length} :
    algorithm.position? = some position ↔ all.get position = algorithm := by
  -- There are seven positions to look at for each of the seven names.
  revert position
  cases algorithm <;> decide

/-- An algorithm is found again under its own identifier. -/
@[simp] theorem ofNid?_nid (algorithm : Algorithm) : ofNid? algorithm.nid = some algorithm := by
  -- Only one of the seven identifiers matches.
  cases algorithm <;> decide

/-- What is found under an identifier carries that identifier. -/
theorem nid_of_ofNid? {nid : Nid} {algorithm : Algorithm} (found : ofNid? nid = some algorithm) :
    algorithm.nid = nid := by
  -- The search tests exactly this.
  simpa using List.find?_some found

end Algorithm

/-- The algorithm a hash state was stamped with, absent until its first initialization. -/
abbrev Tag := Option Algorithm

namespace Tag

/-- Digest length in bytes, zero while no algorithm is selected. -/
def digestSize : Tag → Nat
  | none => 0
  | some algorithm => algorithm.digestSize

/-- The host identifier, the undefined one while no algorithm is selected. -/
def nid : Tag → Nid
  | none => Nid.undefined
  | some algorithm => algorithm.nid

/-- The host's short name, `UNDEF` while no algorithm is selected. -/
def name : Tag → String
  | none => "UNDEF"
  | some algorithm => algorithm.name

end Tag

end DigestProvider
