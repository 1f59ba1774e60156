import DigestProvider.Algorithm
import DigestProvider.Status

/-! The four hooks of a digest method: their roles, the two sets they come in, and each hook as data. -/

namespace DigestProvider

/-- The two sets of hooks: those that dispatch on a tag, and those of the dedicated SHA-256 calls. -/
inductive HookPath where
  | tagged
  | direct
  deriving DecidableEq, Repr

/-- The four hooks of a method. -/
inductive HookRole where
  | init
  | update
  | final
  | cleanup
  deriving DecidableEq, Repr

/-- The name of an operation, as errors give it. -/
def HookRole.name : HookRole → String
  | init => "init"
  | update => "update"
  | final => "final"
  | cleanup => "cleanup"

/-- The name of a hook in the log. -/
def HookPath.hookName (path : HookPath) (role : HookRole) : String :=
  match path with
  | .tagged => "digest_" ++ role.name
  | .direct => "sha256_" ++ role.name

/-- An init hook, over a library by its name. -/
inductive InitHook (Library : Type) where
  /-- Stamps the private state with an algorithm and starts the library's tagged hash. -/
  | tagged (library : Library) (algorithm : Algorithm)
  /-- Starts the library's dedicated SHA-256 hash. -/
  | direct (library : Library)
  /-- Does nothing and reports this status. -/
  | fixed (status : HostStatus)
  deriving DecidableEq, Repr

/-- An update, final or cleanup hook, over a library by its name. -/
inductive Hook (Library : Type) where
  /-- Dispatches on the tag in the private state. -/
  | tagged (library : Library)
  /-- Calls the dedicated SHA-256 entry points. -/
  | direct (library : Library)
  /-- Does nothing and reports this status. -/
  | fixed (status : HostStatus)
  deriving DecidableEq, Repr

end DigestProvider
