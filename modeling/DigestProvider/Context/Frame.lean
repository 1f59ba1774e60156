import DigestProvider.Library
import DigestProvider.Log
import DigestProvider.Method

/-!
What hooks run on: the libraries behind them, the private state of one context, the libraries' memory and the log.
-/

namespace DigestProvider

/-- The libraries that hooks name, and whether tagged cleanup gives states back to them. -/
structure Backend (Library State Direct Memory : Type) where
  /-- The tagged entry points of each library. -/
  tagged : Library → HashLibrary State Memory
  /-- The dedicated entry points of each library. -/
  direct : Library → DirectSha256 Direct Memory
  /-- The state of a dedicated hash before any call, for each type of it. -/
  directZero : StateType → Direct
  /-- Whether the tagged cleanup hook calls the library's free. -/
  callsFree : Bool := true

/-- The private state of a context. -/
inductive PrivateState (Library State Direct : Type) where
  /-- The tag last stamped and the state of one library's tagged hash. -/
  | tagged (library : Library) (tag : Tag) (state : State)
  /-- The state of a dedicated SHA-256 hash, which is of some type. -/
  | direct {type : StateType} (state : Direct)
  /-- Plain memory of this many bytes. -/
  | plain (size : Nat)
  deriving Repr

/-- The state of a dedicated SHA-256 hash of a type. -/
@[match_pattern] abbrev PrivateState.ofType {Library State Direct : Type} (type : StateType)
    (state : Direct) : PrivateState Library State Direct :=
  @PrivateState.direct Library State Direct type state

/-- What a hook sees and changes. -/
structure Frame (Library State Direct Memory : Type) where
  /-- The private state, if any is allocated. -/
  state : Option (PrivateState Library State Direct) := none
  /-- The libraries' memory. -/
  memory : Memory
  /-- The log so far. -/
  log : List LogRecord := []

variable {Library State Direct Memory : Type}

/-- Private state of a kind before any hook has run on it. -/
def Backend.zeroState (backend : Backend Library State Direct Memory) :
    StateKind Library → PrivateState Library State Direct
  | .tagged library => .tagged library none (backend.tagged library).zero
  | .direct type => .ofType type (backend.directZero type)
  | .plain size => .plain size

namespace Frame

/-- Adds a record to the log. -/
def note (frame : Frame Library State Direct Memory) (record : LogRecord) :
    Frame Library State Direct Memory :=
  { frame with log := frame.log ++ [record] }

/-- The tag and hash state, if the private state is of this library's tagged kind. -/
def tagged? [DecidableEq Library] (library : Library) (frame : Frame Library State Direct Memory) :
    Option (Tag × State) :=
  match frame.state with
  | some (.tagged owner tag state) => if owner = library then some (tag, state) else none
  | _ => none

/-- The hash state, if the private state is a dedicated one of this type. -/
def direct? (type : StateType) (frame : Frame Library State Direct Memory) : Option Direct :=
  match frame.state with
  | some (.ofType owned state) => if owned = type then some state else none
  | _ => none

/-- Keeps what a tagged call left behind, under the given tag. -/
def keepTagged (frame : Frame Library State Direct Memory) (library : Library) (tag : Tag)
    (reply : Reply State Memory) : Frame Library State Direct Memory :=
  { frame with state := some (.tagged library tag reply.state), memory := reply.memory }

/-- Keeps what a dedicated call left behind, in state of the given type. -/
def keepDirect (frame : Frame Library State Direct Memory) (type : StateType)
    (reply : Reply Direct Memory) : Frame Library State Direct Memory :=
  { frame with state := some (.ofType type reply.state), memory := reply.memory }

/-- Reads a library status for the host; a failed call is logged. -/
def settle (frame : Frame Library State Direct Memory) (call : EntryPoint) (status : LibStatus) :
    HostStatus × Frame Library State Direct Memory :=
  if status.isOk then (.success, frame)
  else (.failure, frame.note (.libraryFailure call.name status))

/-- Releases the private state without running a hook. -/
def clear (frame : Frame Library State Direct Memory) : Frame Library State Direct Memory :=
  { frame with state := none }

end Frame

end DigestProvider
