import DigestProvider.Host
import DigestProvider.Log

/-!
Recipes for method records and their execution on a host: one setter after another, and the partial record goes
back to the host at the first refusal.
-/

namespace DigestProvider

/-- All that is needed to fill one method record. -/
structure Recipe (Library : Type) where
  /-- The algorithm's identifier. -/
  nid : Nid
  /-- Digest length in bytes. -/
  resultSize : Nat
  /-- The init hook. -/
  init : InitHook Library
  /-- The update hook. -/
  update : Hook Library
  /-- The final hook. -/
  final : Hook Library
  /-- The cleanup hook. -/
  cleanup : Hook Library
  /-- The private state. -/
  stateKind : StateKind Library
  deriving DecidableEq, Repr

namespace Recipe

variable {Library : Type}

/-- The recipe of an algorithm over a library's tagged entry points. -/
def tagged (library : Library) (algorithm : Algorithm) : Recipe Library where
  nid := algorithm.nid
  resultSize := algorithm.digestSize
  init := .tagged library algorithm
  update := .tagged library
  final := .tagged library
  cleanup := .tagged library
  stateKind := .tagged library

/-- The recipe of SHA-256 over a library's dedicated entry points. -/
def direct [DedicatedStates Library] (library : Library) : Recipe Library where
  nid := Algorithm.sha256.nid
  resultSize := Algorithm.sha256.digestSize
  init := .direct library
  update := .direct library
  final := .direct library
  cleanup := .direct library
  stateKind := .direct (typeOf library)

/-- The settings that fill the record, in order; key types are set only if there are any. -/
def settings (recipe : Recipe Library) (pkeyNids : List Nid) : List (Setting Library) :=
  [.init recipe.init, .update recipe.update, .final recipe.final, .cleanup recipe.cleanup,
    .resultSize recipe.resultSize, .stateKind recipe.stateKind] ++
    if pkeyNids.isEmpty then [] else [.pkeyTypes pkeyNids]

end Recipe

/-- Where records are made: the host's memory, the number of records issued so far, and the log. -/
structure Site (Memory : Type) where
  /-- The memory of the host. -/
  memory : Memory
  /-- How many records were issued; the next one's serial number. -/
  issued : Nat := 0
  /-- The log so far. -/
  log : List LogRecord := []

namespace Site

variable {Library Memory : Type}

/-- Adds a record to the log. -/
def note (site : Site Memory) (record : LogRecord) : Site Memory :=
  { site with log := site.log ++ [record] }

/-- Asks the host for a record, which gets the next serial number. -/
def allocate (host : Host Library Memory) (nid : Nid) (pkeyType : Option Nid) (site : Site Memory) :
    Option (Record Library) × Site Memory :=
  match host.allocate nid pkeyType site.memory with
  | (none, memory) => (none, { site with memory })
  | (some method, memory) =>
    (some ⟨site.issued, method⟩, { site with memory, issued := site.issued + 1 })

/-- Gives a record back to the host. -/
def release (host : Host Library Memory) (record : Record Library) (site : Site Memory) :
    Site Memory :=
  { site with memory := host.release record site.memory }

end Site

/-- Runs settings on a record up to the first that the host refuses. -/
def Host.applyAll {Library Memory : Type} (host : Host Library Memory) :
    List (Setting Library) → Method Library → Memory →
      Option BuildStep × Method Library × Memory
  | [], method, memory => (none, method, memory)
  | setting :: rest, method, memory =>
    match host.apply setting method memory with
    | (.failure, method, memory) => (some setting.step, method, memory)
    | (.success, method, memory) => host.applyAll rest method memory

/-- Makes a record from a recipe, or releases what there is of it at the first refusal. -/
def Recipe.build {Library Memory : Type} (host : Host Library Memory) (recipe : Recipe Library)
    (pkeyNids : List Nid) (site : Site Memory) :
    Except DigestError (Record Library) × Site Memory :=
  match (site.note (.buildEntered recipe.nid)).allocate host recipe.nid none with
  | (none, site) => (.error (.methodAllocation recipe.nid), site)
  | (some record, site) =>
    match host.applyAll (recipe.settings pkeyNids) record.method site.memory with
    | (none, method, memory) =>
      (.ok { record with method }, { site with memory }.note (.buildLeft true))
    | (some step, method, memory) =>
      let site := { site with memory }.note (.partialReleased recipe.nid step)
      (.error (.methodStep recipe.nid step),
        (site.release host { record with method }).note (.buildLeft false))

end DigestProvider
