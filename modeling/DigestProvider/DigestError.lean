import DigestProvider.Nid
import DigestProvider.Status

/-! The causes for which an operation of the provider fails, and their texts. -/

namespace DigestProvider

/-- The setters that fill a method record, in the order of construction. -/
inductive BuildStep where
  | init
  | update
  | final
  | cleanup
  | resultSize
  | stateKind
  | pkeyTypes
  deriving DecidableEq, Repr

/-- The host's name for a setter. -/
def BuildStep.name : BuildStep → String
  | init => "set_init"
  | update => "set_update"
  | final => "set_final"
  | cleanup => "set_cleanup"
  | resultSize => "set_result_size"
  | stateKind => "set_app_datasize"
  | pkeyTypes => "set_required_pkey_types"

/-- Why an operation failed. -/
inductive DigestError where
  /-- A call into the hashing library returned a nonzero status. -/
  | library (call : String) (status : LibStatus)
  /-- The context holds no private state of the kind its method works on. -/
  | missingState
  /-- The host gave out no record. -/
  | methodAllocation (nid : Nid)
  /-- The host refused a setter. -/
  | methodStep (nid : Nid) (step : BuildStep)
  /-- The registry's slot is taken. -/
  | alreadyRegistered (nid : Nid)
  /-- No such algorithm is known, compiled in or published. -/
  | unsupportedAlgorithm (what : String)
  /-- A hook reported failure. -/
  | operationFailed (operation : String)
  /-- The method has no hook for the operation. -/
  | missingOperation (operation : String)
  /-- The caller's buffer is shorter than the digest. -/
  | bufferTooSmall (needed actual : Nat)
  /-- The configuration cannot be used. -/
  | config (reason : String)
  deriving DecidableEq, Repr

namespace DigestError

/-- The text shown for a failure. -/
def message : DigestError → String
  | library call status =>
    "Hashing library call " ++ call ++ " failed with status " ++ status.text
  | missingState => "Digest context has no private state of the expected type"
  | methodAllocation nid => "Host could not allocate a digest method for nid " ++ nid.text
  | methodStep nid step =>
    "Digest method construction for nid " ++ nid.text ++ " failed at " ++ step.name
  | alreadyRegistered nid => "Digest method for nid " ++ nid.text ++ " is already registered"
  | unsupportedAlgorithm what => "Unsupported digest algorithm: " ++ what
  | operationFailed operation => "Digest operation failed: " ++ operation
  | missingOperation operation => "Digest method has no " ++ operation ++ " operation"
  | bufferTooSmall needed actual =>
    "Output buffer too small: need " ++ toString needed ++ " bytes, got " ++ toString actual
  | config reason => "Invalid engine configuration: " ++ reason

/-- No slot or method exists for an identifier. -/
def unsupportedNid (nid : Nid) : DigestError :=
  unsupportedAlgorithm ("nid " ++ nid.text)

end DigestError

/-- A library status is an error that names the call unless it is zero. -/
def LibStatus.check (status : LibStatus) (call : String) : Except DigestError Unit :=
  if status.isOk then .ok () else .error (.library call status)

/-- A host status is an error that names the operation unless it is success. -/
def HostStatus.check (status : HostStatus) (operation : String) : Except DigestError Unit :=
  match status with
  | .success => .ok ()
  | .failure => .error (.operationFailed operation)

end DigestProvider
