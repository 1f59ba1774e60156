import DigestProvider.Config
import DigestProvider.Registry

/-!
Registration of a build's algorithms: each is built and published on its own, so that one refusal leaves the others
alone.
-/

namespace DigestProvider

/-- What a build of the provider contains. -/
structure Build (Library : Type) where
  /-- Which algorithms are compiled in. -/
  includes : Algorithm → Bool
  /-- The hooks that SHA-256 is registered with. -/
  sha256Path : HookPath := .tagged
  /-- Whether tagged cleanup gives states back to the library. -/
  callsFree : Bool := true
  /-- The library that its recipes name. -/
  library : Library

namespace Build

variable {Library : Type}

/-- The algorithms compiled in, in registration order. -/
def algorithms (build : Build Library) : List Algorithm :=
  Algorithm.all.filter build.includes

/-- The recipe by which an algorithm is registered. -/
def recipe [DedicatedStates Library] (build : Build Library) (algorithm : Algorithm) :
    Recipe Library :=
  match algorithm, build.sha256Path with
  | .sha256, .direct => .direct build.library
  | _, _ => .tagged build.library algorithm

end Build

/-- The outcome of registering every configured algorithm. -/
structure RegistrationReport where
  /-- Identifiers that were published. -/
  registered : List Nid := []
  /-- Algorithms that were not, with the cause; no algorithm stands for a rejected configuration. -/
  failed : List (Tag × DigestError) := []
  /-- Algorithms that the configuration leaves out. -/
  skipped : List Algorithm := []
  deriving DecidableEq, Repr

/-- A report is complete if nothing that was attempted failed. -/
def RegistrationReport.isComplete (report : RegistrationReport) : Bool :=
  report.failed.isEmpty

section Registration

variable {Library Memory : Type}

/-- Builds the recipe's record and publishes it. -/
def Recipe.register (host : Host Library Memory) (recipe : Recipe Library) (pkeyNids : List Nid)
    (registry : Registry Library) (site : Site Memory) :
    Except DigestError (Record Library) × Registry Library × Site Memory :=
  match recipe.build host pkeyNids site with
  | (.error cause, site) => (.error cause, registry, site)
  | (.ok record, site) => registry.publish host record site

namespace Build

variable [DedicatedStates Library]

/-- Registers an algorithm and logs the outcome. -/
def registerLogged (host : Host Library Memory) (build : Build Library) (algorithm : Algorithm)
    (pkeyNids : List Nid) (registry : Registry Library) (site : Site Memory) :
    Except DigestError (Record Library) × Registry Library × Site Memory :=
  let (result, registry, site) := (build.recipe algorithm).register host pkeyNids registry site
  (result, registry, site.note (.registration algorithm.name algorithm.nid result.toBool))

/-- Registers one algorithm without key types, provided it is compiled in. -/
def initMethod (host : Host Library Memory) (build : Build Library) (algorithm : Algorithm)
    (registry : Registry Library) (site : Site Memory) :
    Except DigestError (Record Library) × Registry Library × Site Memory :=
  if build.includes algorithm then build.registerLogged host algorithm [] registry site
  else (.error (.unsupportedAlgorithm algorithm.name), registry, site)

/-- How far registration has come. -/
structure Progress (Library Memory : Type) where
  /-- The report so far. -/
  report : RegistrationReport := {}
  /-- The registry so far. -/
  registry : Registry Library
  /-- The construction site. -/
  site : Site Memory

/-- Registration takes up one algorithm: it is skipped, published or refused. -/
def advance (host : Host Library Memory) (build : Build Library) (config : EngineConfig)
    (progress : Progress Library Memory) (algorithm : Algorithm) : Progress Library Memory :=
  let report := progress.report
  if config.wants (some algorithm) then
    match build.registerLogged host algorithm config.requiredKeys progress.registry
        progress.site with
    | (.ok record, registry, site) =>
      ⟨{ report with registered := report.registered ++ [record.method.nid] }, registry, site⟩
    | (.error cause, registry, site) =>
      ⟨{ report with failed := report.failed ++ [(some algorithm, cause)] }, registry, site⟩
  else
    { progress with report := { report with skipped := report.skipped ++ [algorithm] } }

/-- Registers every algorithm that is compiled in and wanted; an invalid configuration registers none. -/
def initDigests (host : Host Library Memory) (build : Build Library) (config : EngineConfig)
    (registry : Registry Library) (site : Site Memory) :
    RegistrationReport × Registry Library × Site Memory :=
  let site := site.note .registrationEntered
  match config.validate with
  | .error cause =>
    ({ failed := [(none, cause)] }, registry, site.note (.configurationRejected cause))
  | .ok _ =>
    let done := build.algorithms.foldl (advance host build config) { registry, site }
    let left := LogRecord.registrationLeft done.report.registered.length done.report.failed.length
    (done.report, done.registry, done.site.note left)

end Build

end Registration

end DigestProvider
