import DigestProvider.Algorithm.Spelling
import DigestProvider.Context.Operation
import DigestProvider.Method.Recipe

/-! The registry of published methods: a slot for each position in the registration order, filled at most once. -/

namespace DigestProvider

/-- A registry by what its slots hold. -/
structure Registry (Library : Type) where
  /-- What is published at each position. -/
  slots : Vector (Option (Record Library)) Algorithm.all.length

namespace Registry

variable {Library : Type}

/-- A registry in which nothing is published. -/
def empty : Registry Library :=
  ⟨Vector.replicate _ none⟩

/-- The position of the slot for an identifier: that of the algorithm filed under it. -/
def position? (nid : Nid) : Option (Fin Algorithm.all.length) :=
  (Algorithm.ofNid? nid).bind Algorithm.position?

/-- Puts a record into the slot at a position. -/
def fill (registry : Registry Library) (position : Fin Algorithm.all.length)
    (record : Record Library) : Registry Library :=
  ⟨registry.slots.set position (some record) position.isLt⟩

/-- The record published under an identifier. -/
def get? (registry : Registry Library) (nid : Nid) : Option (Record Library) :=
  (position? nid).bind fun position => registry.slots.get position

/-- The record published for an algorithm. -/
def slot (registry : Registry Library) (algorithm : Algorithm) : Option (Record Library) :=
  registry.get? algorithm.nid

/-- The record published for the algorithm that a name asks for. -/
def byName? (registry : Registry Library) (name : String) : Option (Record Library) :=
  (Algorithm.ofName? name).bind registry.slot

/-- Whether a record is published under an identifier. -/
def isRegistered (registry : Registry Library) (nid : Nid) : Bool :=
  (registry.get? nid).isSome

/-- The identifiers under which records are published, in registration order. -/
def nids (registry : Registry Library) : List Nid :=
  (Algorithm.all.map Algorithm.nid).filter registry.isRegistered

/-- The identifiers as a diagnostic text. -/
def debugText (registry : Registry Library) : String :=
  "Registry \x7b nids: [" ++
    ", ".intercalate (registry.nids.map fun nid => "Nid(" ++ nid.text ++ ")") ++ "] \x7d"

/-- Whether the slot of a record's identifier holds this very record, by its serial number. -/
def holds (registry : Registry Library) (record : Record Library) : Bool :=
  (registry.get? record.method.nid).any (·.serial = record.serial)

/-- Publishes a record in the slot of its identifier; without a free slot the record is released. -/
def publish {Memory : Type} (host : Host Library Memory) (record : Record Library)
    (registry : Registry Library) (site : Site Memory) :
    Except DigestError (Record Library) × Registry Library × Site Memory :=
  match position? record.method.nid with
  | none =>
    (.error (.unsupportedNid record.method.nid), registry, site.release host record)
  | some position =>
    match registry.slots.get position with
    | none => (.ok record, registry.fill position record, site)
    | some _ =>
      (.error (.alreadyRegistered record.method.nid), registry, site.release host record)

/-- The digest of a message by the method published under an identifier. -/
def digest {State Direct Memory : Type} [DecidableEq Library] [DedicatedStates Library]
    (backend : Backend Library State Direct Memory) (registry : Registry Library) (nid : Nid)
    (data : Bytes) (frame : Frame Library State Direct Memory) :
    Except DigestError Bytes × Frame Library State Direct Memory :=
  match registry.get? nid with
  | none => (.error (.unsupportedNid nid), frame)
  | some record => backend.digest record.method data frame

end Registry

end DigestProvider
