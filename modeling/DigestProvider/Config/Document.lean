import DigestProvider.Config
import DigestProvider.Config.Mismatch

/-!
Reading a configuration from JSON: an object with each field at most once, in any order, or an array of the leading
fields. The document is read in order, and its first fault is the one reported.
-/

namespace DigestProvider

/-- Why a document is no configuration. -/
inductive ConfigFault where
  /-- It is no JSON, or more than one document. -/
  | malformed
  /-- It is of the wrong shape. -/
  | mismatch (cause : Mismatch)
  /-- It is a configuration that is not valid. -/
  | invalid (error : DigestError)

/-- A value read from the front of the tokens, and the tokens behind it. -/
abbrev Reading (Value : Type) := Except ConfigFault (Value × List Json.Token)

/-- The value that a token is or opens, unless it is punctuation. -/
def FoundValue.ofToken? : Json.Token → Option FoundValue
  | .null => some .null
  | .boolean value => some (.boolean value)
  | .number value => some (.number value)
  | .text value => some (.text value)
  | .openBracket => some .sequence
  | .openBrace => some .map
  | .closeBracket | .closeBrace | .comma | .colon | .malformed => none

/-- The fault of a token that is not what is needed. -/
def ConfigFault.misfit (expected : Expectation) (token : Json.Token) : ConfigFault :=
  match FoundValue.ofToken? token with
  | some found => .mismatch (.invalidType found expected)
  | none => .malformed

/-- A token that has to be a string. -/
def readString : Json.Token → Except ConfigFault String
  | .text value => .ok value
  | token => .error (.misfit .text token)

/-- A token that has to be a boolean. -/
def readBoolean : Json.Token → Except ConfigFault Bool
  | .boolean value => .ok value
  | token => .error (.misfit .boolean token)

/-- A token that has to be a 32-bit integer. -/
def readWord : Json.Token → Except ConfigFault Int32
  | .number (.integer value) =>
    if Int32.minValue.toInt ≤ value && value ≤ Int32.maxValue.toInt then .ok (Int32.ofInt value)
    else .error (.mismatch (.outOfRange value))
  | token => .error (.misfit .word token)

/-- The further elements of an array, each behind a comma, up to its closing bracket. -/
def readMore {Value : Type} (element : Json.Token → Except ConfigFault Value) :
    List Json.Token → Reading (List Value)
  | .closeBracket :: rest => .ok ([], rest)
  | .comma :: token :: rest =>
    match element token, readMore element rest with
    | .error fault, _ => .error fault
    | .ok _, .error fault => .error fault
    | .ok value, .ok (others, rest) => .ok (value :: others, rest)
  | _ => .error .malformed

/-- The elements of an array whose bracket has been read. -/
def readElements {Value : Type} (element : Json.Token → Except ConfigFault Value) :
    List Json.Token → Reading (List Value)
  | [] => .error .malformed
  | .closeBracket :: rest => .ok ([], rest)
  | token :: rest =>
    match element token, readMore element rest with
    | .error fault, _ => .error fault
    | .ok _, .error fault => .error fault
    | .ok value, .ok (others, rest) => .ok (value :: others, rest)

/-- The fields read so far. -/
structure ConfigDraft where
  /-- The list of names, if given, which may be null. -/
  digests : Option (Option (List String)) := none
  /-- The logger choice, if given. -/
  debugLog : Option Bool := none
  /-- The key types, if given. -/
  pkeyNids : Option (List Int32) := none
  deriving DecidableEq, Repr

namespace ConfigDraft

/-- Whether a field was given. -/
def has (draft : ConfigDraft) : ConfigField → Bool
  | .digests => draft.digests.isSome
  | .debugLog => draft.debugLog.isSome
  | .pkeyNids => draft.pkeyNids.isSome

/-- The configuration with the given fields and defaults elsewhere. -/
def config (draft : ConfigDraft) : EngineConfig where
  digests := draft.digests.getD none
  debugLog := draft.debugLog.getD false
  pkeyNids := draft.pkeyNids.getD []

end ConfigDraft

/-- Reads an array of values into a draft. -/
def readArray {Value : Type} (element : Json.Token → Except ConfigFault Value)
    (keep : List Value → ConfigDraft) : List Json.Token → Reading ConfigDraft
  | [] => .error .malformed
  | .openBracket :: rest =>
    match readElements element rest with
    | .error fault => .error fault
    | .ok (values, rest) => .ok (keep values, rest)
  | token :: _ => .error (.misfit .sequence token)

/-- Reads a field's value into a draft. -/
def readField (field : ConfigField) (draft : ConfigDraft) (tokens : List Json.Token) :
    Reading ConfigDraft :=
  match field, tokens with
  | _, [] => .error .malformed
  | .digests, .null :: rest => .ok ({ draft with digests := some none }, rest)
  | .digests, _ =>
    readArray readString (fun names => { draft with digests := some (some names) }) tokens
  | .debugLog, token :: rest =>
    match readBoolean token with
    | .error fault => .error fault
    | .ok value => .ok ({ draft with debugLog := some value }, rest)
  | .pkeyNids, _ => readArray readWord (fun nids => { draft with pkeyNids := some nids }) tokens

/-- Reads what follows a key: its field must be known and new, and a colon stands before the value. -/
def readMember (name : String) (draft : ConfigDraft) (tokens : List Json.Token) :
    Reading ConfigDraft :=
  match ConfigField.ofName? name with
  | none => .error (.mismatch (.unknownField name))
  | some field =>
    if draft.has field then .error (.mismatch (.duplicateField field))
    else
      match tokens with
      | .colon :: rest => readField field draft rest
      | _ => .error .malformed

/-- Behind the elements of an array there are fewer tokens than before. -/
theorem length_of_readMore {Value : Type} {element : Json.Token → Except ConfigFault Value}
    {tokens rest : List Json.Token} {values : List Value}
    (read : readMore element tokens = .ok (values, rest)) : rest.length < tokens.length := by
  -- Each element takes a comma and a token, and the end takes the bracket.
  fun_induction readMore element tokens generalizing values rest <;> grind

/-- Behind an array there are fewer tokens than before. -/
theorem length_of_readElements {Value : Type} {element : Json.Token → Except ConfigFault Value}
    {tokens rest : List Json.Token} {values : List Value}
    (read : readElements element tokens = .ok (values, rest)) : rest.length < tokens.length := by
  -- The first element takes a token and the others what they take.
  have more := @length_of_readMore Value element
  unfold readElements at read
  grind

/-- Behind an array that was kept there are fewer tokens than before. -/
theorem length_of_readArray {Value : Type} {element : Json.Token → Except ConfigFault Value}
    {keep : List Value → ConfigDraft} {tokens rest : List Json.Token} {draft : ConfigDraft}
    (read : readArray element keep tokens = .ok (draft, rest)) : rest.length < tokens.length := by
  -- The bracket and the elements are taken.
  have elements := @length_of_readElements Value element
  unfold readArray at read
  grind

/-- Behind a field's value there are fewer tokens than before. -/
theorem length_of_readField {field : ConfigField} {draft next : ConfigDraft}
    {tokens rest : List Json.Token} (read : readField field draft tokens = .ok (next, rest)) :
    rest.length < tokens.length := by
  -- A null and a boolean are one token, and an array is at least two.
  have names := @length_of_readArray String readString
  have words := @length_of_readArray Int32 readWord
  unfold readField at read
  grind

/-- Behind a member there are fewer tokens than before. -/
theorem length_of_readMember {name : String} {draft next : ConfigDraft}
    {tokens rest : List Json.Token} (read : readMember name draft tokens = .ok (next, rest)) :
    rest.length < tokens.length := by
  -- The colon and the value are taken.
  have value := @length_of_readField
  unfold readMember at read
  grind

/-- The further members of an object, each behind a comma, up to its closing brace. -/
def readMoreMembers (draft : ConfigDraft) (tokens : List Json.Token) : Reading ConfigDraft :=
  match tokens with
  | .closeBrace :: rest => .ok (draft, rest)
  | .comma :: .text name :: rest =>
    match _ : readMember name draft rest with
    | .error fault => .error fault
    | .ok (draft, rest) => readMoreMembers draft rest
  | _ => .error .malformed
termination_by tokens.length
decreasing_by
  -- A member takes tokens away.
  next read =>
  have fewer := length_of_readMember read
  simp only [List.length_cons]
  omega

/-- The members of an object whose brace has been read. -/
def readMembers (tokens : List Json.Token) : Reading ConfigDraft :=
  match tokens with
  | .closeBrace :: rest => .ok ({}, rest)
  | .text name :: rest =>
    match readMember name {} rest with
    | .error fault => .error fault
    | .ok (draft, rest) => readMoreMembers draft rest
  | _ => .error .malformed

/-- The further fields of an array, each behind a comma, up to its closing bracket. -/
def readMoreFields : List ConfigField → ConfigDraft → List Json.Token → Reading ConfigDraft
  | _, draft, .closeBracket :: rest => .ok (draft, rest)
  | field :: fields, draft, .comma :: rest =>
    match readField field draft rest with
    | .error fault => .error fault
    | .ok (draft, rest) => readMoreFields fields draft rest
  | _, _, _ => .error .malformed

/-- The fields in order, in an array whose bracket has been read. -/
def readFields (tokens : List Json.Token) : Reading ConfigDraft :=
  match tokens with
  | .closeBracket :: rest => .ok ({}, rest)
  | _ =>
    match readField .digests {} tokens with
    | .error fault => .error fault
    | .ok (draft, rest) => readMoreFields [.debugLog, .pkeyNids] draft rest

/-- The draft that a document holds, and the tokens behind it. -/
def readDraft : List Json.Token → Reading ConfigDraft
  | .openBrace :: rest => readMembers rest
  | .openBracket :: rest => readFields rest
  | [] => .error .malformed
  | token :: _ => .error (.misfit .config token)

/-- The configuration that a document holds, with nothing behind it. -/
def readConfig (tokens : List Json.Token) : Except ConfigFault EngineConfig :=
  match readDraft tokens with
  | .error fault => .error fault
  | .ok (draft, rest) => if rest.isEmpty then .ok draft.config else .error .malformed

/-- Reads a configuration and validates it. -/
def EngineConfig.ofJson (text : String) : Except ConfigFault EngineConfig :=
  match readConfig (Json.tokens text.toList) with
  | .error fault => .error fault
  | .ok config =>
    match config.validate with
    | .error error => .error (.invalid error)
    | .ok _ => .ok config

end DigestProvider
