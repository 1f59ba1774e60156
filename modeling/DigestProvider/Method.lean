import DigestProvider.DigestError
import DigestProvider.Hook
import DigestProvider.Library

/-!
Method records: what the host keeps about one digest algorithm. Hooks and the kind of private state are data, so
that two records can be compared.
-/

namespace DigestProvider

/-- The kind of private state that a method declares. -/
inductive StateKind (Library : Type) where
  /-- A tag and the state of one library's tagged hash. -/
  | tagged (library : Library)
  /-- The state of a dedicated SHA-256 hash, by its type. -/
  | direct (type : StateType := .stock)
  /-- Plain memory of this many bytes. -/
  | plain (size : Nat)
  deriving DecidableEq, Repr

/-- Whether a private state takes up memory at all. -/
def StateKind.occupiesMemory {Library : Type} : StateKind Library → Bool
  -- The tag alone takes up memory.
  | tagged _ => true
  | direct type => type.occupiesMemory
  | plain size => size ≠ 0

/-- The flag of a digest that signatures with its required key types may use. -/
def signatureFlag : UInt32 := 0x0004

/-- The longest digest that the host carries, in bytes. -/
def maxDigestSize : Nat := 64

/-- A method record. -/
structure Method (Library : Type) where
  /-- The algorithm's identifier. -/
  nid : Nid
  /-- The key type that the method is bound to. -/
  pkeyType : Option Nid := none
  /-- Called on fresh private state. -/
  init : Option (InitHook Library) := none
  /-- Called with each piece of input. -/
  update : Option (Hook Library) := none
  /-- Called with the output buffer. -/
  final : Option (Hook Library) := none
  /-- Called before private state is released. -/
  cleanup : Option (Hook Library) := none
  /-- Digest length in bytes. -/
  resultSize : Nat := 0
  /-- The private state to allocate. -/
  stateKind : Option (StateKind Library) := none
  /-- Key types that the digest may sign with. -/
  requiredPkeyTypes : List Nid := []
  /-- Method flags. -/
  flags : UInt32 := 0
  deriving DecidableEq, Repr

namespace Method

variable {Library : Type}

/-- A record with an identifier and a key type, and nothing else set. -/
def empty (nid : Nid) (pkeyType : Option Nid) : Method Library :=
  { nid, pkeyType }

/-- Whether all hooks, the digest length and the private state are set. -/
def isComplete (method : Method Library) : Bool :=
  method.init.isSome && method.update.isSome && method.final.isSome && method.cleanup.isSome &&
    0 < method.resultSize && method.stateKind.isSome

/-- Whether the declared private state takes up memory. -/
def declaresMemory (method : Method Library) : Bool :=
  method.stateKind.any StateKind.occupiesMemory

/-- The hooks that are set. -/
def hooks (method : Method Library) : List HookRole :=
  (if method.init.isSome then [HookRole.init] else []) ++
    (if method.update.isSome then [HookRole.update] else []) ++
    (if method.final.isSome then [HookRole.final] else []) ++
    (if method.cleanup.isSome then [HookRole.cleanup] else [])

end Method

/-- A method record with the serial number it was issued under, by which it stays the same object when shared. -/
structure Record (Library : Type) where
  /-- The serial number. -/
  serial : Nat
  /-- What the record holds. -/
  method : Method Library
  deriving DecidableEq, Repr

/-- One setter's job on a method record. -/
inductive Setting (Library : Type) where
  | init (hook : InitHook Library)
  | update (hook : Hook Library)
  | final (hook : Hook Library)
  | cleanup (hook : Hook Library)
  | resultSize (size : Nat)
  | stateKind (kind : StateKind Library)
  | pkeyTypes (nids : List Nid)
  deriving DecidableEq, Repr

namespace Setting

variable {Library : Type}

/-- The setter that does the job. -/
def step : Setting Library → BuildStep
  | init _ => .init
  | update _ => .update
  | final _ => .final
  | cleanup _ => .cleanup
  | resultSize _ => .resultSize
  | stateKind _ => .stateKind
  | pkeyTypes _ => .pkeyTypes

/-- Stores the value; key types also flag the method for signatures. -/
def store (setting : Setting Library) (method : Method Library) : Method Library :=
  match setting with
  | init hook => { method with init := some hook }
  | update hook => { method with update := some hook }
  | final hook => { method with final := some hook }
  | cleanup hook => { method with cleanup := some hook }
  | resultSize size => { method with resultSize := size }
  | stateKind kind => { method with stateKind := some kind }
  | pkeyTypes nids =>
    { method with requiredPkeyTypes := nids, flags := method.flags ||| signatureFlag }

/-- The host admits digests of one byte to the longest, and private state that takes up memory. -/
def isAdmitted : Setting Library → Bool
  | resultSize size => 0 < size && size ≤ maxDigestSize
  | stateKind kind => kind.occupiesMemory
  | _ => true

end Setting

end DigestProvider
