import DigestProvider.Config.Written
import DigestProvider.Proofs.Config.ByField

/-! A configuration that is written and read back is itself again, as far as it is valid. -/

namespace DigestProvider

open Json

/-- A 32-bit word is written as a number in decimal. -/
theorem Json.WrittenToken.word (nid : Int32) :
    WrittenToken (.number (.integer nid.toInt)) (toString nid.toInt).toList := by
  -- Such a word is far within the numerals whose value is an integer.
  have low := nid.le_toInt
  have high := nid.toInt_lt
  obtain ⟨numeral, written, value⟩ :=
    exists_numeral (show -0x8000000000000000 ≤ nid.toInt by omega) (by omega)
  have token : numeral.token = .number (.integer nid.toInt) := by rw [Numeral.token, value]
  exact token ▸ .numeral written

/-- Values that are written as single tokens make a written array. -/
theorem layout_writtenArray {Value : Type} {token : Value → Token} {chars : Value → List Char}
    (written : ∀ value, WrittenToken (token value) (chars value)) (values : List Value) :
    Layout (arrayOf (values.map fun value => [token value])) (writtenArray (values.map chars)) := by
  -- Each value is written by itself, and the commas come from the array.
  refine Layout.array (List.forall₂_map_left_iff.mpr (List.forall₂_map_right_iff.mpr ?_))
  exact List.forall₂_same.mpr fun value _ => (written value).layout

namespace EngineConfig

/-- The list of names is written as its value. -/
theorem layout_writtenDigests (config : EngineConfig) :
    Layout (config.valueTokens .digests) config.writtenDigests := by
  -- An absent list is written as null and an empty one as an empty array.
  unfold valueTokens writtenDigests
  cases config.digests with
  | none => exact WrittenToken.null.layout
  | some names => exact layout_writtenArray WrittenToken.quoted names

/-- The logger choice is written as its value. -/
theorem layout_writtenDebugLog (config : EngineConfig) :
    Layout (config.valueTokens .debugLog) (toString config.debugLog).toList := by
  -- The two truth values are written as their literals.
  unfold valueTokens
  cases config.debugLog with
  | false => exact WrittenToken.no.layout
  | true => exact WrittenToken.yes.layout

/-- The key types are written as their value. -/
theorem layout_writtenKeys (config : EngineConfig) :
    Layout (config.valueTokens .pkeyNids) config.writtenKeys :=
  -- A signed word is written as one numeral, its sign included.
  layout_writtenArray WrittenToken.word config.pkeyNids

/-- The written text is an object of all three fields. -/
theorem layout_written (config : EngineConfig) :
    Layout (objectOf (config.members ConfigField.all)) config.written :=
  -- The fields are written in the order in which they are declared.
  Layout.object (.cons (config.layout_writtenDigests.member _)
    (.cons (config.layout_writtenDebugLog.member _)
      (.cons (config.layout_writtenKeys.member _) .nil)))

/-- No field is left out of all of them. -/
theorem only_all (config : EngineConfig) : config.only ConfigField.all = config := rfl

/-- The text of a configuration is read as the configuration itself exactly if that is valid, and is else refused with
the error of its validation. -/
theorem ofJson_toJson (config : EngineConfig) :
    (ofJson config.toJson = .ok config ↔ config.validate = .ok ()) ∧
      ∀ error, config.validate = .error error → ofJson config.toJson = .error (.invalid error) := by
  -- The compact text is one of the layouts of all three fields, and those are read by field.
  have layout : Layout (objectOf (config.members ConfigField.all)) config.toJson.toList := by
    rw [toJson, String.toList_ofList]
    exact config.layout_written
  have reads := config.readsAs_of_object (by decide) layout
  rw [only_all] at reads
  refine ⟨⟨fun read => ?_, fun valid => ?_⟩, reads.refused⟩
  · -- What is refused is not read as anything.
    cases checked : config.validate with
    | ok _ => rfl
    | error error => cases read.symm.trans (reads.refused error checked)
  · refine reads.taken fun name listed => ?_
    by_contra unknown
    -- An unknown name would not be valid.
    obtain ⟨_, _, _, _, _, _, wrong⟩ :=
      validate_of_unknown ⟨name, listed, Option.not_isSome_iff_eq_none.mp unknown⟩
    cases valid.symm.trans wrong

/-- A name with white space beside it and the least key type come back, and a name with a quote and a line break is
refused as it is written. -/
theorem ofJson_toJson_of_two :
    ofJson (toJson { digests := some ["sha-256\t"], pkeyNids := [-2147483648] }) =
        .ok { digests := some ["sha-256\t"], pkeyNids := [-2147483648] } ∧
      ofJson (toJson { digests := some ["md\"5\n"] }) =
        .error (.invalid (.config "unknown digest algorithm: md\"5\n")) :=
  -- The first configuration is valid, and the second names no algorithm.
  ⟨(ofJson_toJson _).1.mpr (by decide), (ofJson_toJson _).2 _ (by decide)⟩

end EngineConfig

end DigestProvider
