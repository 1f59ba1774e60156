import DigestProvider.Config.Document
import DigestProvider.Proofs.Json.Value

/-!
How a configuration's fields are read from the tokens of a document. Main statements: the value of a field is read as
it was given, and any other value in its place is read to its end or refused.
-/

namespace DigestProvider

open Json

/-- The tokens of a field's value. -/
def EngineConfig.valueTokens (config : EngineConfig) : ConfigField → List Token
  | .digests =>
    match config.digests with
    | none => [.null]
    | some names => arrayOf (names.map fun name => [.text name])
  | .debugLog => [.boolean config.debugLog]
  | .pkeyNids => arrayOf (config.pkeyNids.map fun nid => [.number (.integer nid.toInt)])

/-- A member for each of some fields. -/
def EngineConfig.members (config : EngineConfig) (fields : List ConfigField) :
    List (String × List Token) :=
  -- The order of the fields is that of the members.
  fields.map fun field => (field.name, config.valueTokens field)

/-- The configuration with the values of some fields and defaults elsewhere. -/
def EngineConfig.only (config : EngineConfig) (fields : List ConfigField) : EngineConfig where
  digests := if .digests ∈ fields then config.digests else none
  debugLog := if .debugLog ∈ fields then config.debugLog else false
  pkeyNids := if .pkeyNids ∈ fields then config.pkeyNids else []

/-- The draft with one more field taken from a configuration. -/
def ConfigDraft.take (config : EngineConfig) (draft : ConfigDraft) : ConfigField → ConfigDraft
  | .digests => { draft with digests := some config.digests }
  | .debugLog => { draft with debugLog := some config.debugLog }
  | .pkeyNids => { draft with pkeyNids := some config.pkeyNids }

/-- The draft with several more fields taken from a configuration. -/
def ConfigDraft.takeAll (config : EngineConfig) (draft : ConfigDraft) (fields : List ConfigField) :
    ConfigDraft :=
  -- A later value would replace an earlier one, but no field is given twice.
  fields.foldl (ConfigDraft.take config) draft

/-- An empty draft has no field. -/
theorem ConfigDraft.has_empty (field : ConfigField) : ({} : ConfigDraft).has field = false := by
  -- None of the three has been given.
  cases field <;> rfl

/-- A draft has a field once it is taken, and the others as before. -/
theorem ConfigDraft.has_take (config : EngineConfig) (draft : ConfigDraft)
    (field other : ConfigField) :
    (draft.take config field).has other = (decide (other = field) || draft.has other) := by
  -- Taking a field leaves the other two alone.
  cases field <;> cases other <;> rfl

/-- A draft of the fields of a configuration is its restriction to them. -/
theorem ConfigDraft.config_takeAll (config : EngineConfig) (fields : List ConfigField) :
    (({} : ConfigDraft).takeAll config fields).config = config.only fields := by
  -- What is taken into any draft is kept there, one field beside the other.
  have every (draft : ConfigDraft) : draft.takeAll config fields =
      { digests := if .digests ∈ fields then some config.digests else draft.digests
        debugLog := if .debugLog ∈ fields then some config.debugLog else draft.debugLog
        pkeyNids := if .pkeyNids ∈ fields then some config.pkeyNids else draft.pkeyNids } := by
    induction fields generalizing draft with
    | nil => simp [takeAll]
    | cons field rest ih =>
      refine (ih (draft.take config field)).trans ?_
      cases field <;> simp [take]
  rw [every]
  simp only [ConfigDraft.config, EngineConfig.only, EngineConfig.mk.injEq]
  refine ⟨?_, ?_, ?_⟩ <;> split <;> rfl

/-- A field's key is that of no other field. -/
theorem ConfigField.ofName?_name (field : ConfigField) : ofName? field.name = some field := by
  -- The three names differ.
  cases field <;> decide

/-- A fault of a document itself, and not of a configuration that it holds. -/
def ConfigFault.OfDocument (fault : ConfigFault) : Prop :=
  -- Only the validation that comes after reading finds a configuration invalid.
  ∀ error, fault ≠ .invalid error

/-- A token that does not fit is a fault of the document. -/
theorem ConfigFault.ofDocument_misfit (expected : Expectation) (token : Token) :
    (misfit expected token).OfDocument := by
  -- A token that does not fit is malformed, or it is a mismatch.
  intro error same
  unfold misfit at same
  split at same <;> cases same

/-- A reader of single tokens, to which neither punctuation nor a malformed token has a value. -/
structure ReadsScalars {Value : Type} (element : Token → Except ConfigFault Value) : Prop where
  plain : ∀ token value, element token = .ok value → token.isPunctuation = false
  sound : ∀ token value, element token = .ok value → token.isMalformed = false
  refuses : ∀ token fault, element token = .error fault → fault.OfDocument

/-- Strings are read from single tokens. -/
theorem readString_scalars : ReadsScalars readString where
  -- Only a string is read.
  plain token value read := by cases token <;> first | rfl | cases read
  sound token value read := by cases token <;> first | rfl | cases read
  refuses token fault read := by
    cases token <;> cases read <;> exact ConfigFault.ofDocument_misfit .text _

/-- Integers are read from single tokens. -/
theorem readWord_scalars : ReadsScalars readWord where
  -- Only a number is read, and a number out of range is refused as such.
  plain token value read := by cases token <;> first | rfl | cases read
  sound token value read := by cases token <;> first | rfl | cases read
  refuses token fault read := by
    unfold readWord at read
    split at read
    · split at read
      · cases read
      · cases read
        exact fun error same => nomatch same
    · cases read
      exact ConfigFault.ofDocument_misfit .word _

/-- A word that is written as a number is read. -/
theorem readWord_toInt (nid : Int32) : readWord (.number (.integer nid.toInt)) = .ok nid := by
  -- A word is within the range of words.
  have fits : (Int32.minValue.toInt ≤ nid.toInt && nid.toInt ≤ Int32.maxValue.toInt) = true := by
    simpa using ⟨nid.minValue_le_toInt, nid.toInt_le⟩
  rw [readWord, if_pos fits, Int32.ofInt_toInt]

section Arrays

variable {Value : Type} {element : Token → Except ConfigFault Value}

/-- The first element of an array is read as if it were behind a comma. -/
theorem readElements_cons {token : Token} (other : token ≠ .closeBracket) (rest : List Token) :
    readElements element (token :: rest) = readMore element (.comma :: token :: rest) := by
  -- Only a closing bracket is read otherwise in the first place.
  cases token <;> first | rfl | exact absurd rfl other

/-- The elements of an array are read as if each were behind a comma. -/
theorem readElements_values {values : List (List Token)} (each : ∀ value ∈ values, IsValue value)
    (rest : List Token) :
    readElements element (upToFault ([.comma].intercalate values ++ .closeBracket :: rest)) =
      readMore element (upToFault (values.flatMap (.comma :: ·) ++ .closeBracket :: rest)) := by
  -- The comma that is supplied makes the first element like the others.
  cases values with
  | nil => rfl
  | cons value others =>
    -- No value begins with the bracket that would close the array.
    obtain ⟨token, more, rfl, other, _⟩ := (each value List.mem_cons_self).front
    simp only [intercalate_cons, List.flatMap_cons, List.cons_append]
    obtain ⟨left, leads, _⟩ :=
      upToFault_front token (more ++ others.flatMap (.comma :: ·) ++ .closeBracket :: rest)
    rw [leads, upToFault_cons rfl, leads, readElements_cons other]

/-- An array is read as if each of its values were behind a comma. -/
theorem readArray_arrayOf (keep : List Value → ConfigDraft) {values : List (List Token)}
    (each : ∀ value ∈ values, IsValue value) (rest : List Token) :
    readArray element keep (upToFault (arrayOf values ++ rest)) =
      (readMore element (upToFault (values.flatMap (.comma :: ·) ++ .closeBracket :: rest))).map
        fun read => (keep read.1, read.2) := by
  have whole : arrayOf values ++ rest =
      .openBracket :: ([.comma].intercalate values ++ .closeBracket :: rest) := by
    simp [arrayOf]
  rw [whole, upToFault_cons rfl, ← readElements_values each, readArray]
  -- What is kept of the elements does not depend on how they were read.
  cases readElements element
    (upToFault ([.comma].intercalate values ++ .closeBracket :: rest)) with
  | error fault => rfl
  | ok read => rfl

/-- Elements that are read from single tokens are read one after another. -/
theorem readMore_given (scalars : ReadsScalars element) {token : Value → Token}
    (reads : ∀ value, element (token value) = .ok value) (values : List Value) (rest : List Token) :
    readMore element (upToFault
        ((values.map fun value => [token value]).flatMap (.comma :: ·) ++ .closeBracket :: rest)) =
      .ok (values, upToFault rest) := by
  -- What has a value is well formed, and so the next element is still there.
  induction values with
  | nil => rfl
  | cons value others ih =>
    have sound := scalars.sound _ _ (reads value)
    simp only [List.map_cons, List.flatMap_cons, List.cons_append, List.nil_append]
    rw [upToFault_cons rfl, upToFault_cons sound, readMore, reads, ih]

end Arrays

/-- The value of a field is read as it was given. -/
theorem readField_given (config : EngineConfig) (field : ConfigField) (draft : ConfigDraft)
    (rest : List Token) :
    readField field draft (upToFault (config.valueTokens field ++ rest)) =
      .ok (draft.take config field, upToFault rest) := by
  -- An array is read by its elements, and the other values are single tokens.
  have listed {Value : Type} {element : Token → Except ConfigFault Value} {token : Value → Token}
      (scalars : ReadsScalars element) (reads : ∀ value, element (token value) = .ok value)
      (keep : List Value → ConfigDraft) (values : List Value) :
      readArray element keep
          (upToFault (arrayOf (values.map fun value => [token value]) ++ rest)) =
        .ok (keep values, upToFault rest) := by
    have each := isValue_of_scalars (fun value => scalars.plain _ value (reads value)) values
    rw [readArray_arrayOf keep each, readMore_given scalars reads]
    rfl
  -- Null is the one value that a field has besides its own kind.
  cases field with
  | digests =>
    unfold EngineConfig.valueTokens
    cases given : config.digests with
    | none => simp [upToFault, Token.isMalformed, readField, ConfigDraft.take, given]
    | some names =>
      have read := @listed String readString .text readString_scalars (fun _ => rfl)
        (fun names => { draft with digests := some (some names) }) names
      rw [ConfigDraft.take, given]
      exact read
  | debugLog => rfl
  | pkeyNids => exact listed readWord_scalars readWord_toInt _ config.pkeyNids

end DigestProvider
