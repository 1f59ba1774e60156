import DigestProvider.Engine
import DigestProvider.Library.Scripted
import DigestProvider.Library.Stock
import DigestProvider.Scenario.Command
import DigestProvider.Scenario.Slots

/-! What a scenario's commands act on, and what they answer. -/

namespace DigestProvider

/-- The script of a scenario: a call is settled with the status set for its entry point. -/
def forcedStatuses : Script (List (EntryPoint × LibStatus)) :=
  fun entry statuses => (statuses.lookup entry, statuses)

/-- The libraries' memory: the statuses set, and the calls that the scripted library received. -/
abbrev ScenarioMemory := Recorded (List (EntryPoint × LibStatus))

/-- Private state in a scenario. -/
abbrev ScenarioState := PrivateState LibraryName StockState StockLibrary.DirectState

/-- A frame in a scenario. -/
abbrev ScenarioFrame := Frame LibraryName StockState StockLibrary.DirectState ScenarioMemory

/-- The libraries of a scenario, over one build. -/
def Build.scenarioBackend (build : Build LibraryName) :
    Backend LibraryName StockState StockLibrary.DirectState ScenarioMemory where
  tagged
    | .stock => StockLibrary.tagged _
    | .scripted => ((StockLibrary.tagged _).scripted forcedStatuses).recorded
  direct
    | .stock => StockLibrary.direct _
    | .scripted => ((StockLibrary.direct _).scripted forcedStatuses).recorded
  directZero _ := none
  callsFree := build.callsFree

/-- A context: its method and its private state, if any is allocated. -/
structure Context where
  /-- The method it runs. -/
  record : Record LibraryName
  /-- Its private state. -/
  state : Option ScenarioState := none

/-- The text that shows a context. -/
def Context.debugText (context : Context) : String :=
  "MdCtx \x7b nid: Nid(" ++ context.record.method.nid.text ++ "), allocated: " ++
    toString context.state.isSome ++ " \x7d"

/-- The word that shows a tag. -/
def Tag.debugName : Tag → String
  | none => "None"
  | some .sha256 => "Sha256"
  | some .sha384 => "Sha384"
  | some .sha512 => "Sha512"
  | some .sha3_224 => "Sha3_224"
  | some .sha3_256 => "Sha3_256"
  | some .sha3_384 => "Sha3_384"
  | some .sha3_512 => "Sha3_512"

/-- The text that shows private state of the stock library's tagged kind. -/
def Context.stateDebugText (context : Context) : Option String :=
  match context.state with
  | some (.tagged .stock tag _) =>
    some ("HashState \x7b hash_type: " ++ Tag.debugName tag ++ ", .. \x7d")
  | _ => none

/-- Everything that a scenario's commands act on. -/
structure World where
  /-- The build that registration draws on. -/
  build : Build LibraryName
  /-- The faults of the watched host, or none of them for the stock host. -/
  faults : Option HostFaults := some {}
  /-- What the watched host did. -/
  ledger : HostLedger LibraryName := {}
  /-- How many records were issued. -/
  issued : Nat := 0
  /-- The libraries' memory. -/
  memory : ScenarioMemory := ⟨[], []⟩
  /-- The registries. -/
  registries : Slots (Registry LibraryName) := {}
  /-- The records not yet shared. -/
  records : Slots (Record LibraryName) := {}
  /-- The methods kept for use. -/
  methods : Slots (Record LibraryName) := {}
  /-- The contexts. -/
  contexts : Slots Context := {}
  /-- The bare states of tagged hashes. -/
  states : Slots StockState := {}
  /-- The bare states of dedicated hashes. -/
  directStates : Slots StockLibrary.DirectState := {}

/-- What a command that succeeds answers. -/
inductive Value where
  | none
  | flag (value : Bool)
  | hostStatus (status : HostStatus)
  | libStatus (status : LibStatus)
  | length (value : Nat)
  | nid (value : Nid)
  | nids (values : List Nid)
  | text (value : String)
  | bytes (value : Bytes)
  | method (value : Method LibraryName)
  | report (value : RegistrationReport)
  | hashTag (value : Tag)

/-- What an answer says beside its result. -/
inductive Detail where
  /-- The private state of the context afterwards. -/
  | state (value : Option ScenarioState)
  /-- The buffer as it was left. -/
  | buffer (value : Bytes)
  /-- The record afterwards. -/
  | record (value : Method LibraryName)
  /-- The text that shows the private state. -/
  | stateText (value : Option String)
  /-- The algorithm in progress in a bare state. -/
  | hashTag (value : Tag)
  /-- Whether a bare dedicated hash is in progress. -/
  | started (value : Bool)

/-- Why a command failed. -/
inductive Refusal where
  /-- A document given as configuration is none. -/
  | document (fault : ConfigFault)
  /-- The provider failed. -/
  | failed (error : DigestError)

/-- What a command answers, and all that was seen of it. -/
structure Answer where
  /-- The value or the cause of failure. -/
  result : Except Refusal Value
  /-- What is said beside it. -/
  details : List Detail
  /-- The calls that the scripted library received. -/
  libraryCalls : List CallRecord
  /-- The calls that the watched host received. -/
  hostCalls : List (HostCall LibraryName)
  /-- Records given out and taken back since the host was put in place. -/
  counts : Nat × Nat
  /-- The log. -/
  log : List LogRecord

/-- The outcome of a command before it is made an answer. -/
structure Effect where
  /-- The value or the cause of failure. -/
  result : Except Refusal Value
  /-- What is said beside it. -/
  details : List Detail := []
  /-- The log. -/
  log : List LogRecord := []
  /-- The world afterwards. -/
  world : World

end DigestProvider
