/-! The status words of both sides: the hashing library's codes and the host's success flag. -/

namespace DigestProvider

/-- A status code of the hashing library, zero for success. -/
structure LibStatus where
  /-- The code itself, a signed 32-bit word. -/
  code : Int32
  deriving DecidableEq, Repr

namespace LibStatus

/-- The call succeeded. -/
def ok : LibStatus := ⟨0⟩

/-- The output buffer is too short. -/
def bufferTooShort : LibStatus := ⟨-132⟩

/-- An argument is invalid, such as an unknown tag or one that differs from the state's. -/
def badArgument : LibStatus := ⟨-173⟩

/-- Only the code zero reports success. -/
def isOk (status : LibStatus) : Bool :=
  status.code = 0

/-- A status is written as its decimal code. -/
def text (status : LibStatus) : String :=
  toString status.code.toInt

end LibStatus

/-- What a hook or setter reports to the host. -/
inductive HostStatus where
  | failure
  | success
  deriving DecidableEq, Repr

namespace HostStatus

/-- The host reads truth as success. -/
def ofBool : Bool → HostStatus
  | true => success
  | false => failure

/-- An outcome is reported as success or failure, without its cause. -/
def ofExcept {Cause Value : Type} : Except Cause Value → HostStatus
  | .ok _ => success
  | .error _ => failure

/-- Whether the host sees success. -/
def isSuccess (status : HostStatus) : Bool :=
  status = success

/-- The number by which the host knows the status. -/
def number : HostStatus → Nat
  | failure => 0
  | success => 1

end HostStatus

end DigestProvider
