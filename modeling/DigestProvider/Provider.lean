import DigestProvider.Engine
import DigestProvider.Library.Stock

/-!
A provider ready for use: everything a build contains is registered through the stock host and runs over the stock
library.
-/

namespace DigestProvider

/-- A provider by its registry, its hooks' backend and the log of its registration. -/
structure Provider where
  /-- What is published. -/
  registry : Registry Unit
  /-- The stock library, the only one. -/
  backend : Backend Unit StockState StockLibrary.DirectState Unit
  /-- The log of the registration. -/
  log : List LogRecord

namespace Provider

/-- Registers what a build contains, with no configuration. -/
def ofBuild (build : Build Unit) : Provider :=
  let (_, registry, site) := build.initDigests Host.stock {} Registry.empty { memory := () }
  { registry
    backend := {
      tagged := fun _ => StockLibrary.tagged Unit
      direct := fun _ => StockLibrary.direct Unit
      directZero := fun _ => none
      callsFree := build.callsFree }
    log := site.log }

/-- The digest of a message by the method published under an identifier, and the log of it all. -/
def digest (provider : Provider) (nid : Nid) (data : Bytes) :
    Except DigestError Bytes × List LogRecord :=
  let (result, frame) :=
    provider.registry.digest provider.backend nid data { memory := (), log := provider.log }
  (result, frame.log)

/-- The digests of a message by every published method in order, and the log of it all. -/
def digestAll (provider : Provider) (data : Bytes) :
    List (Except DigestError Bytes) × List LogRecord :=
  let step := fun (results, log) nid =>
    let (result, frame) :=
      provider.registry.digest provider.backend nid data { memory := (), log := log }
    (results ++ [result], frame.log)
  provider.registry.nids.foldl step ([], provider.log)

/-- The digest of a message in pieces by the method published under an identifier, if any, and the log of it all. -/
def digestPieces (provider : Provider) (nid : Nid) (pieces : List Bytes) :
    Option (Except DigestError Bytes) × List LogRecord :=
  match provider.registry.get? nid with
  | none => (none, provider.log)
  | some record =>
    let (result, frame) :=
      provider.backend.digestPieces record.method pieces { memory := (), log := provider.log }
    (some result, frame.log)

end Provider

end DigestProvider
