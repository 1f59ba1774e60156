import DigestProvider.Algorithm.Spelling
import DigestProvider.DigestError

/-! The configuration of a provider: which algorithms to register, for which key types, and whether to log. -/

namespace DigestProvider

/-- The choices of a configuration. -/
structure EngineConfig where
  /-- Names of the algorithms to register, or all that are compiled in. -/
  digests : Option (List String) := none
  /-- Whether a logger is to be installed. -/
  debugLog : Bool := false
  /-- Numbers of the key types that the digests may sign with. -/
  pkeyNids : List Int32 := []
  deriving DecidableEq, Repr

namespace EngineConfig

/-- The first listed name that no algorithm answers to. -/
def unknownName? (config : EngineConfig) : Option String :=
  (config.digests.getD []).find? fun name => (Algorithm.ofName? name).isNone

/-- A configuration is valid unless it lists an unknown name. -/
def validate (config : EngineConfig) : Except DigestError Unit :=
  match config.unknownName? with
  | none => .ok ()
  | some name => .error (.config ("unknown digest algorithm: " ++ name))

/-- Whether a tag is to be registered: each one without a list, else the algorithms that its names ask for. -/
def wants (config : EngineConfig) (tag : Tag) : Bool :=
  match config.digests with
  | none => true
  | some names => tag.isSome && names.any fun name => Algorithm.ofName? name = tag

/-- The key types as host identifiers. -/
def requiredKeys (config : EngineConfig) : List Nid :=
  config.pkeyNids.map Nid.mk

end EngineConfig

end DigestProvider
