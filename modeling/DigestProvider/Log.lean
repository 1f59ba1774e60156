import DigestProvider.Algorithm
import DigestProvider.Bytes.Hex
import DigestProvider.DigestError
import DigestProvider.Hook

/-! Log records by what happened, their levels and texts, and the records that a maximum level lets through. -/

namespace DigestProvider

/-- Severity of a log record, the gravest first. -/
inductive LogLevel where
  | error
  | warn
  | info
  | debug
  | trace
  deriving DecidableEq, Repr

namespace LogLevel

/-- The gravest level has the lowest rank. -/
def rank : LogLevel → Nat
  | error => 0
  | warn => 1
  | info => 2
  | debug => 3
  | trace => 4

/-- The level's name in a log. -/
def name : LogLevel → String
  | error => "ERROR"
  | warn => "WARN"
  | info => "INFO"
  | debug => "DEBUG"
  | trace => "TRACE"

end LogLevel

/-- One event worth a log line. -/
inductive LogRecord where
  /-- Registration of the configured algorithms begins. -/
  | registrationEntered
  /-- Registration ends with these numbers of successes and failures. -/
  | registrationLeft (registered failed : Nat)
  /-- Registration is given up because the configuration is invalid. -/
  | configurationRejected (error : DigestError)
  /-- Construction of a record begins. -/
  | buildEntered (nid : Nid)
  /-- Construction ends after the record was allocated. -/
  | buildLeft (complete : Bool)
  /-- A partly filled record goes back to the host. -/
  | partialReleased (nid : Nid) (step : BuildStep)
  /-- The outcome of registering one algorithm. -/
  | registration (name : String) (nid : Nid) (published : Bool)
  /-- An init hook is called; only the tag-dispatching one names its algorithm. -/
  | initEntered (path : HookPath) (algorithm : Algorithm)
  /-- An update hook is called. -/
  | updateEntered (path : HookPath) (length : Nat)
  /-- A final hook is called. -/
  | finalEntered (path : HookPath)
  /-- A cleanup hook is called. -/
  | cleanupEntered (path : HookPath)
  /-- A hook returns. -/
  | hookLeft (path : HookPath) (role : HookRole) (status : HostStatus)
  /-- A library call failed. -/
  | libraryFailure (call : String) (status : LibStatus)
  /-- Releasing a resource failed, which the caller is not told. -/
  | cleanupFailure (component call : String) (status : LibStatus)
  /-- The bytes of a labelled buffer. -/
  | buffer (label : String) (bytes : Bytes)
  deriving DecidableEq, Repr

namespace LogRecord

/-- Entering and leaving is traced, and trouble is graver the more it costs the caller. -/
def level : LogRecord → LogLevel
  | registrationEntered | registrationLeft .. | buildEntered _ | buildLeft _ => .trace
  | initEntered .. | updateEntered .. | finalEntered _ | cleanupEntered _ | hookLeft .. => .trace
  | configurationRejected _ | libraryFailure .. => .error
  | cleanupFailure .. => .warn
  | registration _ _ published => if published then .info else .warn
  | partialReleased .. | buffer .. => .debug

/-- The text of a record: a message, and after it the named values of a traced event. -/
def message : LogRecord → String
  | registrationEntered => "init_digests: enter"
  | registrationLeft registered failed =>
    "init_digests: leave registered=" ++ toString registered ++ " failed=" ++ toString failed
  | configurationRejected error =>
    "init_digests: rejecting configuration error=" ++ error.message
  | buildEntered nid => "build_descriptor: enter nid=" ++ nid.text
  | buildLeft complete => "build_descriptor: leave ok=" ++ toString complete
  | partialReleased nid step =>
    "releasing partial digest method nid=" ++ nid.text ++ " step=" ++ step.name
  | registration name nid published =>
    (if published then "Digest method registered: " else "Digest method unavailable: ") ++
      name ++ " (nid: " ++ nid.text ++ ")"
  | initEntered .tagged algorithm =>
    HookPath.tagged.hookName .init ++ ": enter hash_type=" ++ algorithm.name
  | initEntered .direct _ => HookPath.direct.hookName .init ++ ": enter"
  | updateEntered path length =>
    path.hookName .update ++ ": enter len=" ++ toString length
  | finalEntered path => path.hookName .final ++ ": enter"
  | cleanupEntered path => path.hookName .cleanup ++ ": enter"
  | hookLeft path role status =>
    path.hookName role ++ ": leave ret=" ++ toString status.number
  | libraryFailure call status =>
    "Library call failed: " ++ call ++ " (status: " ++ status.text ++ ")"
  | cleanupFailure component call status =>
    "Component cleanup failed: " ++ component ++ " (" ++ call ++ " status: " ++ status.text ++ ")"
  | buffer label bytes =>
    label ++ " (" ++ toString bytes.length ++ " bytes)\n" ++ Hex.dump bytes

end LogRecord

/-- What is logged about a library call's status: nothing unless the call failed. -/
def LibStatus.failureLog (status : LibStatus) (call : String) : List LogRecord :=
  if status.isOk then [] else [.libraryFailure call status]

/-- The records at least as grave as the maximum level, in order. -/
def visibleRecords (maximum : LogLevel) (log : List LogRecord) : List LogRecord :=
  log.filter fun record => record.level.rank ≤ maximum.rank

end DigestProvider
