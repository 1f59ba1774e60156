/-! Object identifiers by which the host knows algorithms and key types. -/

namespace DigestProvider

/-- A host object identifier. -/
structure Nid where
  /-- The identifier's number, a signed 32-bit word. -/
  value : Int32
  deriving DecidableEq, Repr

namespace Nid

/-- The identifier of no object. -/
def undefined : Nid := ⟨0⟩

/-- An identifier is written as its decimal number. -/
def text (nid : Nid) : String :=
  toString nid.value.toInt

end Nid

end DigestProvider
