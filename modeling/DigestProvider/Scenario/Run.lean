import DigestProvider.Scenario.World

/-!
Running a scenario: what each command does to the world and answers. A command that names something that is not
there has no outcome.
-/

namespace DigestProvider

/-- The name of the registry that is filled before a scenario begins. -/
def sharedRegistry : String := "global"

/-- The byte that fresh buffers are filled with. -/
def bufferFill : UInt8 := 0xAA

/-- The outcome of a provider's operation, with the value that it answers. -/
def outcome {Result : Type} (result : Except DigestError Result) (value : Result → Value) :
    Except Refusal Value :=
  match result with
  | .ok answer => .ok (value answer)
  | .error error => .error (.failed error)

namespace World

/-- The host that commands go to. -/
def host (world : World) : Host LibraryName (Unit × HostLedger LibraryName) :=
  match world.faults with
  | none => Host.stock
  | some faults => (Host.stock.faulty faults).watched

/-- A construction site with an empty log. -/
def site (world : World) : Site (Unit × HostLedger LibraryName) where
  memory := ((), world.ledger)
  issued := world.issued

/-- Keeps what construction left behind. -/
def keepSite (world : World) (site : Site (Unit × HostLedger LibraryName)) : World :=
  { world with ledger := site.memory.2, issued := site.issued }

/-- A registry, which is empty at first use. -/
def registry (world : World) (name : String) : Registry LibraryName :=
  (world.registries.get? name).getD Registry.empty

/-- Keeps a registry under its name. -/
def keepRegistry (world : World) (name : String) (registry : Registry LibraryName) : World :=
  { world with registries := world.registries.put name registry }

/-- A frame on private state, with an empty log. -/
def frame (world : World) (state : Option ScenarioState) : ScenarioFrame where
  state := state
  memory := world.memory

/-- Runs something on a context's private state, which is kept with the libraries' memory. -/
def onContext {Result : Type} (world : World) (name : String)
    (run : Context → ScenarioFrame → Result × ScenarioFrame) :
    Option (Result × List LogRecord × World) :=
  (world.contexts.get? name).map fun context =>
    let (result, frame) := run context (world.frame context.state)
    let contexts := world.contexts.put name { context with state := frame.state }
    (result, frame.log, { world with contexts, memory := frame.memory })

/-- Says what private state a context is left with. -/
def contextDetail (world : World) (name : String) : Detail :=
  .state ((world.contexts.get? name).bind Context.state)

/-- Cleans up a context that goes out of use. -/
def dispose (world : World) (context : Context) : List LogRecord × World :=
  let frame :=
    (world.build.scenarioBackend.cleanup context.record.method (world.frame context.state)).2
  (frame.log, { world with memory := frame.memory })

/-- Registers what a configuration asks for. -/
def initDigests (world : World) (host : Host LibraryName (Unit × HostLedger LibraryName)) (name : String)
    (config : EngineConfig) : Effect :=
  let (report, registry, site) :=
    world.build.initDigests host config (world.registry name) world.site
  { result := .ok (.report report)
    log := site.log
    world := (world.keepSite site).keepRegistry name registry }

/-- Keeps a method under a name and answers it. -/
def answerMethod (world : World) (keep : Option String)
    (result : Except DigestError (Record LibraryName)) : Except Refusal Value × World :=
  match result with
  | .ok record =>
    (.ok (.method record.method), { world with methods := world.methods.keep keep record })
  | .error error => (.error (.failed error), world)

/-- Finishes a command that registers a method. -/
def registered (world : World) (name : String) (keep : Option String)
    (done : Except DigestError (Record LibraryName) × Registry LibraryName ×
      Site (Unit × HostLedger LibraryName)) : Effect :=
  let (result, registry, site) := done
  let (result, world) := ((world.keepSite site).keepRegistry name registry).answerMethod keep result
  { result, log := site.log, world }

/-- Finishes a command that looks a method up. -/
def found (world : World) (keep : Option String) (record : Option (Record LibraryName)) : Effect :=
  match record with
  | none => { result := .ok .none, world }
  | some record =>
    { result := .ok (.method record.method)
      world := { world with methods := world.methods.keep keep record } }

/-- What an operation's answer is as a command's, and what is said beside it. -/
def operationOutcome : OperationAnswer → Except Refusal Value × List Detail
  | .done result => (outcome result fun _ => .none, [])
  | .written result buffer => (outcome result .length, [.buffer buffer])
  | .digest result => (outcome result .bytes, [])
  | .released status => (.ok (.hostStatus status), [])

/-- Calls a hook of a method or recipe on a frame; a hook that is not set does nothing. -/
def callHook (backend : Backend LibraryName StockState StockLibrary.DirectState ScenarioMemory)
    (init : Option (InitHook LibraryName)) (update final cleanup : Option (Hook LibraryName))
    (call : StateCall) (frame : ScenarioFrame) :
    (Option HostStatus × List Detail) × ScenarioFrame :=
  let report := fun (answer : Option (HostStatus × ScenarioFrame)) =>
    match answer with
    | none => ((none, []), frame)
    | some (status, frame) => ((some status, []), frame)
  match call with
  | .init => report (init.map fun hook => backend.runInit hook frame)
  | .update data => report (update.map fun hook => backend.runUpdate hook data frame)
  | .release => report (cleanup.map fun hook => backend.runCleanup hook frame)
  | .final buffer =>
    match final with
    | none => ((none, [.buffer buffer]), frame)
    | some hook =>
      let (written, status, frame) := backend.runFinal hook buffer frame
      ((some status, [.buffer written]), frame)

/-- Calls the hook of a recipe, or else of the context's method. -/
def callContextHook (backend : Backend LibraryName StockState StockLibrary.DirectState ScenarioMemory)
    (method : Method LibraryName) (recipe : Option (Recipe LibraryName)) (call : StateCall)
    (frame : ScenarioFrame) : (Option HostStatus × List Detail) × ScenarioFrame :=
  match recipe with
  | none => callHook backend method.init method.update method.final method.cleanup call frame
  | some recipe =>
    callHook backend (some recipe.init) (some recipe.update) (some recipe.final)
      (some recipe.cleanup) call frame

/-- Calls the tagged entry points on a bare state. -/
def callTagged (tag : Tag) (call : StateCall) (state : StockState) :
    LibStatus × List Detail × StockState :=
  let library := StockLibrary.tagged Unit
  match call with
  | .init =>
    let reply := library.init tag state ()
    (reply.status, [], reply.state)
  | .update data =>
    let reply := library.update tag data state ()
    (reply.status, [], reply.state)
  | .final buffer =>
    let (written, reply) := library.final tag buffer state ()
    (reply.status, [.buffer written], reply.state)
  | .release =>
    let reply := library.free tag state ()
    (reply.status, [], reply.state)

/-- Calls the dedicated entry points on a bare state. -/
def callDirect (call : StateCall) (state : StockLibrary.DirectState) :
    LibStatus × List Detail × StockLibrary.DirectState :=
  let library := StockLibrary.direct Unit
  match call with
  | .init =>
    let reply := library.init state ()
    (reply.status, [], reply.state)
  | .update data =>
    let reply := library.update data state ()
    (reply.status, [], reply.state)
  | .final buffer =>
    let (written, reply) := library.final buffer state ()
    (reply.status, [.buffer written], reply.state)
  | .release =>
    let reply := library.free state ()
    (reply.status, [], reply.state)

/-- The outcome of a command. -/
def perform (world : World) (command : Command) : Option Effect :=
  let backend := world.build.scenarioBackend
  match command with
  | .initDigests name (.given config) => some (world.initDigests world.host name config)
  | .initDigests name (.json text) =>
    match EngineConfig.ofJson text with
    | .error fault => some { result := .error (.document fault), world }
    | .ok config => some (world.initDigests world.host name config)
  | .initGlobal config => some (world.initDigests Host.stock sharedRegistry config)
  | .initMethod name algorithm keep =>
    some (world.registered name keep
      (world.build.initMethod world.host algorithm (world.registry name) world.site))
  | .register name tag pkeyNids keep =>
    match tag.filter world.build.includes with
    | none => some { result := .ok .none, world }
    | some algorithm =>
      some (world.registered name keep
        ((world.build.recipe algorithm).register world.host pkeyNids (world.registry name)
          world.site))
  | .publish name recordName keep => do
    let record ← world.records.get? recordName
    let world := { world with records := world.records.erase recordName }
    return world.registered name keep
      ((world.registry name).publish world.host record world.site)
  | .get name nid keep => some (world.found keep ((world.registry name).get? nid))
  | .byName name algorithm keep => some (world.found keep ((world.registry name).byName? algorithm))
  | .isRegistered name nid =>
    some { result := .ok (.flag ((world.registry name).isRegistered nid)), world }
  | .nids name => some { result := .ok (.nids (world.registry name).nids), world }
  | .showRegistry name => some { result := .ok (.text (world.registry name).debugText), world }
  | .digest name nid data =>
    let (result, frame) := (world.registry name).digest backend nid data (world.frame none)
    some {
      result := outcome result .bytes
      log := frame.log
      world := { world with memory := frame.memory } }
  | .same name methodName => do
    let record ← world.methods.get? methodName
    return { result := .ok (.flag ((world.registry name).holds record)), world }
  | .build name recipe pkeyNids =>
    let (result, site) := recipe.build world.host pkeyNids world.site
    let world := world.keepSite site
    match result with
    | .error error => some { result := .error (.failed error), log := site.log, world }
    | .ok record =>
      some {
        result := .ok (.method record.method)
        log := site.log
        world := { world with records := world.records.put name record } }
  | .newRecord name nid bound =>
    let (record, site) := world.site.allocate world.host nid bound
    let world := world.keepSite site
    match record with
    | none => some { result := .ok .none, world }
    | some record =>
      some {
        result := .ok (.method record.method)
        world := { world with records := world.records.put name record } }
  | .set name setting => do
    let record ← world.records.get? name
    let (status, method, memory) := world.host.apply setting record.method ((), world.ledger)
    return {
      result := .ok (.hostStatus status)
      details := [.record method]
      world := {
        world with
        ledger := memory.2
        records := world.records.put name { record with method } } }
  | .freeze name methodName => do
    let record ← world.records.get? name
    return {
      result := .ok (.method record.method)
      world := {
        world with
        records := world.records.erase name
        methods := world.methods.put methodName record } }
  | .oneShot methodName data => do
    let record ← world.methods.get? methodName
    let (result, frame) := backend.digest record.method data (world.frame none)
    return {
      result := outcome result .bytes
      log := frame.log
      world := { world with memory := frame.memory } }
  | .openContext name methodName => do
    let record ← world.methods.get? methodName
    let (log, world) :=
      match world.contexts.get? name with
      | none => ([], world)
      | some older => world.dispose older
    return {
      result := .ok (.nid record.method.nid)
      details := [.state none]
      log
      world := { world with contexts := world.contexts.put name { record } } }
  | .operate name operation => do
    let (answer, log, world) ← world.onContext name fun context frame =>
      backend.run context.record.method operation frame
    let (result, details) := operationOutcome answer
    return { result, details := details ++ [world.contextDetail name], log, world }
  | .hook name recipe call => do
    let ((status, details), log, world) ← world.onContext name fun context frame =>
      callContextHook backend context.record.method recipe call frame
    return {
      result := .ok ((status.map .hostStatus).getD .none)
      details := details ++ [world.contextDetail name]
      log
      world }
  | .showContext name => do
    let context ← world.contexts.get? name
    return {
      result := .ok (.text context.debugText)
      details := [.stateText context.stateDebugText, .state context.state]
      world }
  | .drop name =>
    match world.contexts.get? name with
    | none => some { result := .ok (.flag false), world }
    | some context =>
      let (log, world) := world.dispose context
      some {
        result := .ok (.flag true)
        log
        world := { world with contexts := world.contexts.erase name } }
  | .callTagged name tag call =>
    let (status, details, state) := callTagged tag call ((world.states.get? name).getD .empty)
    some {
      result := .ok (.libStatus status)
      details := details ++ [.hashTag state.tag]
      world := { world with states := world.states.put name state } }
  | .copyState source target =>
    let state := (world.states.get? source).getD .empty
    some {
      result := .ok (.hashTag state.tag)
      world := { world with states := world.states.put target state } }
  | .callDirect name call =>
    let (status, details, state) := callDirect call ((world.directStates.get? name).getD none)
    some {
      result := .ok (.libStatus status)
      details := details ++ [.started state.isSome]
      world := { world with directStates := world.directStates.put name state } }
  | .force statuses =>
    some {
      result := .ok .none
      world := { world with memory := { world.memory with memory := statuses } } }
  | .host faults => some { result := .ok .none, world := { world with faults, ledger := {} } }

/-- Forgets the calls of earlier commands. -/
def fresh (world : World) : World :=
  { world with
    memory := { world.memory with calls := [] }
    ledger := { world.ledger with calls := [] } }

/-- The answer to a command and the world afterwards. -/
def step (world : World) (command : Command) : Option (Answer × World) :=
  (world.fresh.perform command).map fun effect =>
    ({ result := effect.result
       details := effect.details
       libraryCalls := effect.world.memory.calls
       hostCalls := effect.world.ledger.calls
       counts := (effect.world.ledger.allocated, effect.world.ledger.freed)
       log := effect.log }, effect.world)

/-- Drops all contexts in the order of their names, with the calls and the log that this causes. -/
def close (world : World) : List CallRecord × List LogRecord :=
  let (log, world) :=
    world.contexts.entries.foldl
      (fun (log, world) entry =>
        let (more, world) := world.dispose entry.2
        (log ++ more, world))
      ([], world.fresh)
  (world.memory.calls, log)

/-- The world in which a scenario over a build begins: the shared registry is filled. -/
def start (build : Build LibraryName) : World :=
  (({ build } : World).initDigests Host.stock sharedRegistry {}).world

end World

/-- The answers to a scenario's commands, each absent where it has no outcome, and what closing it causes. -/
def runScenario (build : Build LibraryName) (commands : List Command) :
    List (Option Answer) × List CallRecord × List LogRecord :=
  let step := fun (answers, world) command =>
    match World.step world command with
    | none => (answers ++ [none], world)
    | some (answer, world) => (answers ++ [some answer], world)
  let (answers, world) := commands.foldl step ([], World.start build)
  (answers, world.close)

end DigestProvider
