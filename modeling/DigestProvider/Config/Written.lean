import DigestProvider.Config
import DigestProvider.Config.Mismatch

/-! The compact JSON text of a configuration: an object with its three fields in order and no space in it. -/

namespace DigestProvider

/-- An array of values that are already written. -/
def writtenArray (values : List (List Char)) : List Char :=
  '[' :: [','].intercalate values ++ [']']

/-- A field's key and value that is already written. -/
def writtenMember (field : ConfigField) (value : List Char) : List Char :=
  Json.quoted field.name.toList ++ ':' :: value

namespace EngineConfig

/-- The value of the list of names, null without one. -/
def writtenDigests (config : EngineConfig) : List Char :=
  match config.digests with
  | none => "null".toList
  | some names => writtenArray (names.map fun name => Json.quoted name.toList)

/-- The value of the key types, as decimal numbers. -/
def writtenKeys (config : EngineConfig) : List Char :=
  writtenArray (config.pkeyNids.map fun nid => (toString nid.toInt).toList)

/-- The characters of the text. -/
def written (config : EngineConfig) : List Char :=
  '{' :: [','].intercalate
    [writtenMember .digests config.writtenDigests,
      writtenMember .debugLog (toString config.debugLog).toList,
      writtenMember .pkeyNids config.writtenKeys] ++ ['}']

/-- The text itself. -/
def toJson (config : EngineConfig) : String :=
  String.ofList config.written

end EngineConfig

end DigestProvider
