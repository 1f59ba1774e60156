import DigestProvider.Decimal.Layout
import DigestProvider.Json.Token
import DigestProvider.Text.Diagnostic

/-! Where a JSON document departs from the shape of a configuration, and the texts of these findings. -/

namespace DigestProvider

/-- The fields of a configuration document, in order. -/
inductive ConfigField where
  | digests
  | debugLog
  | pkeyNids
  deriving DecidableEq, Repr

namespace ConfigField

/-- Every field, in order. -/
def all : List ConfigField := [digests, debugLog, pkeyNids]

/-- A field's key. -/
def name : ConfigField → String
  | digests => "digests"
  | debugLog => "debug_log"
  | pkeyNids => "pkey_nids"

/-- The field with a key. -/
def ofName? (name : String) : Option ConfigField :=
  all.find? (·.name = name)

end ConfigField

/-- What a document holds at some place. -/
inductive FoundValue where
  | null
  | boolean (value : Bool)
  | number (value : Json.Number)
  | text (value : String)
  | sequence
  | map

/-- What a configuration needs at some place. -/
inductive Expectation where
  | config
  | sequence
  | text
  | boolean
  | word
  deriving DecidableEq, Repr

/-- A departure from the shape of a configuration. -/
inductive Mismatch where
  /-- A value of the wrong kind. -/
  | invalidType (found : FoundValue) (expected : Expectation)
  /-- An integer that no 32-bit word holds. -/
  | outOfRange (value : Int)
  /-- A key that is no field's. -/
  | unknownField (name : String)
  /-- A field given again. -/
  | duplicateField (field : ConfigField)

/-- A text between backquotes. -/
def backquoted (text : String) : String :=
  "\x60" ++ text ++ "\x60"

/-- The text for what was found; brackets and braces are shown by kind only. -/
def FoundValue.description : FoundValue → String
  | null => "null"
  | boolean value => "boolean " ++ backquoted (toString value)
  | number (.integer value) => "integer " ++ backquoted (toString value)
  | number (.real value) => "floating point " ++ backquoted (Decimal.floatText value)
  | .text value => "string " ++ Text.diagnostic value
  | sequence => "sequence"
  | map => "map"

/-- The text for what was needed. -/
def Expectation.description : Expectation → String
  | config => "struct EngineConfig"
  | sequence => "a sequence"
  | .text => "a string"
  | boolean => "a boolean"
  | word => "i32"

/-- The text of a finding. -/
def Mismatch.message : Mismatch → String
  | invalidType found expected =>
    "invalid type: " ++ found.description ++ ", expected " ++ expected.description
  | outOfRange value =>
    "invalid value: " ++ (FoundValue.number (.integer value)).description ++ ", expected " ++
      Expectation.word.description
  | unknownField name =>
    "unknown field " ++ backquoted name ++ ", expected one of " ++
      ", ".intercalate (ConfigField.all.map fun field => backquoted field.name)
  | duplicateField field => "duplicate field " ++ backquoted field.name

end DigestProvider
