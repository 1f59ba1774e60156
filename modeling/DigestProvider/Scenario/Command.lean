import DigestProvider.Config.Document
import DigestProvider.Context.Operation
import DigestProvider.Method.Recipe

/-! The commands of a scenario, which name the registries, records, methods, contexts and hash states they act on. -/

namespace DigestProvider

/-- The libraries of a scenario: the stock one, and the same under a script that can settle calls. -/
inductive LibraryName where
  | stock
  | scripted
  deriving DecidableEq, Repr

/-- Both keep dedicated states of the stock library's type. -/
instance : DedicatedStates LibraryName where
  typeOf _ := .stock

/-- Changes to a recipe, made in the order of the fields. -/
structure RecipeChanges where
  /-- Another identifier. -/
  nid : Option Nid := none
  /-- Another digest length. -/
  resultSize : Option Nat := none
  /-- Another kind of private state. -/
  stateKind : Option (StateKind LibraryName) := none
  /-- A recipe to take the init hook from. -/
  initFrom : Option (Recipe LibraryName) := none
  /-- A recipe to take the other hooks from. -/
  hooksFrom : Option (Recipe LibraryName) := none
  /-- The status of an init hook that does nothing else. -/
  init : Option HostStatus := none
  /-- The status of a cleanup hook that does nothing else. -/
  cleanup : Option HostStatus := none

/-- A recipe with changes made to it. -/
def RecipeChanges.apply (changes : RecipeChanges) (recipe : Recipe LibraryName) :
    Recipe LibraryName :=
  let initSource := changes.initFrom.getD recipe
  let hookSource := changes.hooksFrom.getD recipe
  { nid := changes.nid.getD recipe.nid
    resultSize := changes.resultSize.getD recipe.resultSize
    stateKind := changes.stateKind.getD recipe.stateKind
    init := (changes.init.map InitHook.fixed).getD initSource.init
    update := hookSource.update
    final := hookSource.final
    cleanup := (changes.cleanup.map Hook.fixed).getD hookSource.cleanup }

/-- The setting that takes one hook from a recipe. -/
def Recipe.hookSetting {Library : Type} (recipe : Recipe Library) : HookRole → Setting Library
  | .init => .init recipe.init
  | .update => .update recipe.update
  | .final => .final recipe.final
  | .cleanup => .cleanup recipe.cleanup

/-- Where a configuration comes from. -/
inductive ConfigSource where
  | given (config : EngineConfig)
  | json (text : String)

/-- A call on a bare hash state or, by a context's hook, on private state. -/
inductive StateCall where
  | init
  | update (data : Bytes)
  | final (buffer : Bytes)
  | release
  deriving DecidableEq, Repr

/-- A step of a scenario. Where a method may be kept, an absent name keeps it nowhere. -/
inductive Command where
  /-- Registers what a configuration asks for. -/
  | initDigests (registry : String) (config : ConfigSource)
  /-- Registers into the shared registry through the stock host. -/
  | initGlobal (config : EngineConfig)
  /-- Registers one algorithm and logs the outcome. -/
  | initMethod (registry : String) (algorithm : Algorithm) (keep : Option String)
  /-- Registers one algorithm if it is compiled in. -/
  | register (registry : String) (tag : Tag) (pkeyNids : List Nid) (keep : Option String)
  /-- Publishes a record, which is used up. -/
  | publish (registry record : String) (keep : Option String)
  /-- Looks a method up by identifier. -/
  | get (registry : String) (nid : Nid) (keep : Option String)
  /-- Looks a method up by name. -/
  | byName (registry name : String) (keep : Option String)
  /-- Asks whether an identifier has a method. -/
  | isRegistered (registry : String) (nid : Nid)
  /-- Lists the identifiers with methods. -/
  | nids (registry : String)
  /-- Shows a registry. -/
  | showRegistry (registry : String)
  /-- The digest of a message by a published method. -/
  | digest (registry : String) (nid : Nid) (data : Bytes)
  /-- Asks whether a method is the very one that the registry holds. -/
  | same (registry method : String)
  /-- Makes a record from a recipe. -/
  | build (record : String) (recipe : Recipe LibraryName) (pkeyNids : List Nid)
  /-- Asks the host for an empty record. -/
  | newRecord (record : String) (nid : Nid) (bound : Option Nid)
  /-- Runs one of the host's setters on a record. -/
  | set (record : String) (setting : Setting LibraryName)
  /-- Turns a record into a method without publishing it. -/
  | freeze (record method : String)
  /-- The digest of a message on a context of its own. -/
  | oneShot (method : String) (data : Bytes)
  /-- Opens a context on a method; an older one under the name is dropped. -/
  | openContext (context method : String)
  /-- Runs an operation of a context. -/
  | operate (context : String) (operation : Operation)
  /-- Calls a hook on a context, its method's own or a recipe's. -/
  | hook (context : String) (recipe : Option (Recipe LibraryName)) (call : StateCall)
  /-- Shows a context and the tag in its private state. -/
  | showContext (context : String)
  /-- Drops a context. -/
  | drop (context : String)
  /-- Calls the stock library's tagged entry points on a bare state. -/
  | callTagged (state : String) (tag : Tag) (call : StateCall)
  /-- Copies a bare state. -/
  | copyState (source target : String)
  /-- Calls the stock library's dedicated entry points on a bare state. -/
  | callDirect (state : String) (call : StateCall)
  /-- Sets the statuses that settle the scripted library's calls. -/
  | force (statuses : List (EntryPoint × LibStatus))
  /-- Puts a new host in place: one with faults that is watched, or the stock host. -/
  | host (faults : Option HostFaults)

end DigestProvider
