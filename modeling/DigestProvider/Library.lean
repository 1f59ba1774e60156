import DigestProvider.Algorithm
import DigestProvider.Bytes
import DigestProvider.Status

/-!
What the provider needs of a hashing library: entry points that take a tag, and dedicated ones for SHA-256. A
library works on the state of one hash and on a memory that all its calls share.
-/

namespace DigestProvider

/-- What a library call leaves behind: its status, the hash state and the library's memory. -/
structure Reply (State Memory : Type) where
  /-- Zero reports success. -/
  status : LibStatus
  /-- The state of the hash after the call. -/
  state : State
  /-- The library's memory after the call. -/
  memory : Memory

/-- The tagged entry points, each of which serves every algorithm. -/
structure HashLibrary (State Memory : Type) where
  /-- The state before any call. -/
  zero : State
  /-- Prepares a state for the tag's algorithm. -/
  init : Tag → State → Memory → Reply State Memory
  /-- Absorbs bytes. -/
  update : Tag → Bytes → State → Memory → Reply State Memory
  /-- Writes the digest to the front of a buffer. -/
  final : Tag → Bytes → State → Memory → Bytes × Reply State Memory
  /-- Releases what the state holds. -/
  free : Tag → State → Memory → Reply State Memory
  /-- The length of the tag's digest, where the library knows it. -/
  digestSize : Tag → Option Nat := fun tag => tag.map Algorithm.digestSize

/-- The dedicated entry points for SHA-256, which take no tag. -/
structure DirectSha256 (State Memory : Type) where
  /-- Prepares a state. -/
  init : State → Memory → Reply State Memory
  /-- Absorbs bytes. -/
  update : Bytes → State → Memory → Reply State Memory
  /-- Writes the digest to the front of a buffer. -/
  final : Bytes → State → Memory → Bytes × Reply State Memory
  /-- Releases what the state holds. -/
  free : State → Memory → Reply State Memory

/-- A type of private state, told from any other by a number. -/
structure StateType where
  /-- The number. -/
  number : Nat
  /-- Whether a state of the type takes up memory. -/
  occupiesMemory : Bool := true
  deriving DecidableEq, Repr

/-- The type of the stock library's dedicated states. -/
def StateType.stock : StateType where
  number := 0

/-- What the names of libraries say about their dedicated states, of which two libraries may share a type. -/
class DedicatedStates (Library : Type) where
  /-- The type of the states that a library's dedicated entry points work on. -/
  typeOf : Library → StateType

export DedicatedStates (typeOf)

/-- A library that needs no name, being the only one, keeps states of the stock library's type. -/
instance : DedicatedStates Unit where
  typeOf _ := .stock

/-- The entry points of both kinds. -/
inductive EntryPoint where
  | hashInit
  | hashUpdate
  | hashFinal
  | hashFree
  | initSha256
  | sha256Update
  | sha256Final
  | sha256Free
  deriving DecidableEq, Repr

namespace EntryPoint

/-- Every entry point. -/
def all : List EntryPoint :=
  [hashInit, hashUpdate, hashFinal, hashFree, initSha256, sha256Update, sha256Final, sha256Free]

/-- The library's name for an entry point. -/
def name : EntryPoint → String
  | hashInit => "hash_init"
  | hashUpdate => "hash_update"
  | hashFinal => "hash_final"
  | hashFree => "hash_free"
  | initSha256 => "init_sha256"
  | sha256Update => "sha256_update"
  | sha256Final => "sha256_final"
  | sha256Free => "sha256_free"

end EntryPoint

/-- A library call by what it was given: the tag, and the number of bytes it reads or may write. -/
inductive LibraryCall where
  | hashInit (tag : Tag)
  | hashUpdate (tag : Tag) (length : Nat)
  | hashFinal (tag : Tag) (room : Nat)
  | hashFree (tag : Tag)
  | initSha256
  | sha256Update (length : Nat)
  | sha256Final (room : Nat)
  | sha256Free
  deriving DecidableEq, Repr

namespace LibraryCall

/-- The entry point that a call goes through. -/
def entry : LibraryCall → EntryPoint
  | hashInit _ => .hashInit
  | hashUpdate .. => .hashUpdate
  | hashFinal .. => .hashFinal
  | hashFree _ => .hashFree
  | initSha256 => .initSha256
  | sha256Update _ => .sha256Update
  | sha256Final _ => .sha256Final
  | sha256Free => .sha256Free

/-- A call is written as its entry point's name and its arguments. -/
def text (call : LibraryCall) : String :=
  match call with
  | hashInit tag | hashFree tag => call.entry.name ++ " " ++ tag.name
  | hashUpdate tag count | hashFinal tag count =>
    call.entry.name ++ " " ++ tag.name ++ " " ++ toString count
  | sha256Update count | sha256Final count => call.entry.name ++ " " ++ toString count
  | initSha256 | sha256Free => call.entry.name

end LibraryCall

/-- A library call with the status it returned. -/
structure CallRecord where
  /-- What was called. -/
  call : LibraryCall
  /-- What it returned. -/
  status : LibStatus
  deriving DecidableEq, Repr

/-- A recorded call is written with its status behind an equals sign. -/
def CallRecord.text (record : CallRecord) : String :=
  record.call.text ++ " = " ++ record.status.text

end DigestProvider
