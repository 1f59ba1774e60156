import DigestProvider.Method

/-!
Hosts: who gives out method records, sets their fields and takes them back. A host may answer by its own history,
which its memory holds.
-/

namespace DigestProvider

/-- A host by its answers. -/
structure Host (Library Memory : Type) where
  /-- Gives out a record for an identifier and key type, or refuses. -/
  allocate : Nid → Option Nid → Memory → Option (Method Library) × Memory
  /-- Runs one setter on a record. -/
  apply : Setting Library → Method Library → Memory → HostStatus × Method Library × Memory
  /-- Takes back a record that will not be published. -/
  release : Record Library → Memory → Memory

/-- A call that a host received, with what it was given. -/
inductive HostCall (Library : Type) where
  | allocate (nid : Nid) (pkeyType : Option Nid)
  | apply (setting : Setting Library) (method : Method Library)
  | release (record : Record Library)
  deriving DecidableEq, Repr

/-- A host call is written as the host's name for it and the identifier that it concerns. -/
def HostCall.text {Library : Type} : HostCall Library → String
  | allocate nid _ => "meth_new " ++ nid.text
  | apply setting method => setting.step.name ++ " " ++ method.nid.text
  | release record => "meth_free " ++ record.method.nid.text

namespace Host

variable {Library Memory : Type}

/-- The host that grants every record, stores every admitted value and remembers nothing. -/
def stock : Host Library Memory where
  allocate nid pkeyType memory := (some (Method.empty nid pkeyType), memory)
  apply setting method memory :=
    if setting.isAdmitted then (.success, setting.store method, memory)
    else (.failure, method, memory)
  release _ memory := memory

end Host

/-- What can be made to go wrong with a host. -/
structure HostFaults where
  /-- A setter that refuses. -/
  failStep : Option BuildStep := none
  /-- A setter that reports success without storing. -/
  skipStep : Option BuildStep := none
  /-- The only identifier that the faults concern; all of them when absent. -/
  onlyNid : Option Nid := none
  /-- Whether records are refused. -/
  refuseAllocation : Bool := false
  /-- The key type that records are bound to, whatever was asked for. -/
  bind : Option Nid := none
  deriving DecidableEq, Repr

/-- Whether the faults concern an identifier. -/
def HostFaults.concern (faults : HostFaults) (nid : Nid) : Bool :=
  faults.onlyNid.all (· = nid)

/-- What a watched host has done: the numbers of records given out and taken back, and the calls it received. -/
structure HostLedger (Library : Type) where
  /-- Records given out. -/
  allocated : Nat := 0
  /-- Records taken back. -/
  freed : Nat := 0
  /-- The calls, the oldest first. -/
  calls : List (HostCall Library) := []
  deriving DecidableEq, Repr

/-- Enters a call into the ledger. -/
def HostLedger.note {Library : Type} (ledger : HostLedger Library) (call : HostCall Library) :
    HostLedger Library :=
  { ledger with calls := ledger.calls ++ [call] }

namespace Host

variable {Library Memory : Type}

/-- A host with faults: a refusing setter wins over one that stores nothing. -/
def faulty (faults : HostFaults) (host : Host Library Memory) : Host Library Memory where
  allocate nid pkeyType memory :=
    if faults.refuseAllocation && faults.concern nid then (none, memory)
    else host.allocate nid (faults.bind <|> pkeyType) memory
  apply setting method memory :=
    if faults.concern method.nid && faults.failStep = some setting.step then
      (.failure, method, memory)
    else if faults.concern method.nid && faults.skipStep = some setting.step then
      (.success, method, memory)
    else host.apply setting method memory
  release := host.release

/-- A host whose calls are entered into a ledger kept beside its memory. -/
def watched (host : Host Library Memory) : Host Library (Memory × HostLedger Library) where
  allocate nid pkeyType kept :=
    let (method, memory) := host.allocate nid pkeyType kept.1
    let ledger := kept.2.note (.allocate nid pkeyType)
    (method, memory,
      if method.isSome then { ledger with allocated := ledger.allocated + 1 } else ledger)
  apply setting method kept :=
    let (status, next, memory) := host.apply setting method kept.1
    (status, next, memory, kept.2.note (.apply setting method))
  release record kept :=
    let ledger := kept.2.note (.release record)
    (host.release record kept.1, { ledger with freed := ledger.freed + 1 })

end Host

end DigestProvider
