import DigestProvider.Bytes

/-! Lowercase hexadecimal text of bytes, plain and as a dump of sixteen bytes a line. -/

namespace DigestProvider.Hex

/-- The sixteen lowercase hexadecimal digits by value. -/
def digit (value : Nat) : Char :=
  if value < 10 then Char.ofNat (48 + value) else Char.ofNat (87 + value)

/-- The two digits of one byte, the high one first. -/
def pair (byte : UInt8) : List Char :=
  [digit (byte.toNat / 16), digit (byte.toNat % 16)]

/-- The digits of every byte, in order and with nothing between them. -/
def encode (bytes : Bytes) : String :=
  String.ofList (bytes.flatMap pair)

/-- A dump puts this many bytes on a line. -/
def lineLength : Nat := 16

/-- One dump line separates neighbouring bytes by a space. -/
def line (bytes : Bytes) : List Char :=
  [' '].intercalate (bytes.map pair)

/-- A dump separates its lines by a newline and ends without one. -/
def dumpText (bytes : Bytes) : List Char :=
  ['\n'].intercalate ((chunks lineLength bytes).map line)

/-- The dump of a byte string, empty for the empty one. -/
def dump (bytes : Bytes) : String :=
  String.ofList (dumpText bytes)

end DigestProvider.Hex
