import DigestProvider.Proofs.Config.Reading
import DigestProvider.Proofs.Registry.Report

/-!
A configuration document is read by its fields and not by its layout. Main statement: the result depends on the fields
that are given and their values alone, and one member too many has the document refused.
-/

namespace DigestProvider

open Json

/-- Members of which each stands behind a comma. -/
def furtherMembers (members : List (String × List Token)) : List Token :=
  -- The comma comes first, which suits the recursion better than one behind each member.
  members.flatMap fun entry => .comma :: memberOf entry.1 entry.2

/-- A member's comma, key and colon are left, and its value as far as it is well formed. -/
theorem upToFault_furtherMembers (key : String) (value : List Token)
    (members : List (String × List Token)) (rest : List Token) :
    upToFault (furtherMembers ((key, value) :: members) ++ rest) =
      .comma :: .text key :: .colon :: upToFault (value ++ (furtherMembers members ++ rest)) := by
  -- The three tokens in front of the value are well formed.
  have whole : furtherMembers ((key, value) :: members) ++ rest =
      .comma :: .text key :: .colon :: (value ++ (furtherMembers members ++ rest)) := by
    simp [furtherMembers, memberOf]
  rw [whole, upToFault_cons rfl, upToFault_cons rfl, upToFault_cons rfl]

/-- A member that is refused has the object refused. -/
theorem readMoreMembers_of_error {key : String} {draft : ConfigDraft} {tokens : List Token}
    {fault : ConfigFault} (refused : readMember key draft tokens = .error fault) :
    readMoreMembers draft (.comma :: .text key :: tokens) = .error fault := by
  -- The recursion keeps an equation for its termination, and so the result is split on and not rewritten.
  rw [readMoreMembers]
  split
  · next read => exact read.symm.trans refused
  · next read => cases read.symm.trans refused

/-- Behind a member that is read the others are read. -/
theorem readMoreMembers_of_ok {key : String} {draft next : ConfigDraft} {tokens rest : List Token}
    (read : readMember key draft tokens = .ok (next, rest)) :
    readMoreMembers draft (.comma :: .text key :: tokens) = readMoreMembers next rest := by
  -- What the member has left over is where the recursion goes on.
  rw [readMoreMembers]
  split
  · next refused => cases refused.symm.trans read
  · next taken =>
    obtain ⟨rfl, rfl⟩ := Prod.mk.inj (Except.ok.inj (taken.symm.trans read))
    rfl

/-- The key of a new field has its value read. -/
theorem readMember_new {field : ConfigField} {draft : ConfigDraft}
    (new : draft.has field = false) (tokens : List Token) :
    readMember field.name draft (.colon :: tokens) = readField field draft tokens := by
  -- Neither of the two refusals applies.
  rw [readMember, ConfigField.ofName?_name]
  exact if_neg (by simp [new])

/-- New fields are taken over with their values, whatever their order. -/
theorem readMoreMembers_given (config : EngineConfig) {fields : List ConfigField}
    (distinct : fields.Nodup) {draft : ConfigDraft}
    (new : ∀ field ∈ fields, draft.has field = false) (rest : List Token) :
    readMoreMembers draft (upToFault (furtherMembers (config.members fields) ++ rest)) =
      readMoreMembers (draft.takeAll config fields) (upToFault rest) := by
  -- A field that is taken over leaves the others new, since none is given twice.
  induction fields generalizing draft with
  | nil => rfl
  | cons field others ih =>
    obtain ⟨apart, behind⟩ := List.nodup_cons.mp distinct
    obtain ⟨now, later⟩ := List.forall_mem_cons.mp new
    have still : ∀ other ∈ others, (draft.take config field).has other = false := by
      intro other listed
      have differs : other ≠ field := fun same => apart (same ▸ listed)
      rw [ConfigDraft.has_take, later other listed, decide_eq_false differs, Bool.or_false]
    -- The first field is new and its value as given, so both checks let it pass.
    have read := (readMember_new now _).trans (readField_given config field draft
      (furtherMembers (config.members others) ++ rest))
    have members : config.members (field :: others) =
        (field.name, config.valueTokens field) :: config.members others := rfl
    rw [members, upToFault_furtherMembers, readMoreMembers_of_ok read, ih behind still]
    rfl

/-- The first member of an object is read as if it were behind a comma. -/
theorem readMembers_text (key : String) (tokens : List Token) :
    readMembers (.text key :: tokens) = readMoreMembers {} (.comma :: .text key :: tokens) := by
  -- The member is read or refused alike, with the comma and without it.
  rw [readMembers]
  cases read : readMember key {} tokens with
  | error fault => exact (readMoreMembers_of_error read).symm
  | ok result => exact (readMoreMembers_of_ok read).symm

/-- An object's members are read as if each were behind a comma. -/
theorem readDraft_objectOf (members : List (String × List Token)) :
    readDraft (upToFault (objectOf members)) =
      readMoreMembers {} (upToFault (furtherMembers members ++ [.closeBrace])) := by
  cases members with
  | nil =>
    -- An empty object is closed at once.
    rw [furtherMembers, List.flatMap_nil, List.nil_append, upToFault_cons rfl, readMoreMembers]
    rfl
  | cons entry others =>
    -- Only the comma of the first member is missing.
    have whole : objectOf (entry :: others) =
        .openBrace :: .text entry.1 :: .colon ::
          (entry.2 ++ (furtherMembers others ++ [.closeBrace])) := by
      simp [objectOf, memberOf, furtherMembers, intercalate_cons, List.flatMap_map]
    rw [whole, upToFault_cons rfl, upToFault_cons rfl, upToFault_cons rfl, upToFault_furtherMembers]
    exact readMembers_text entry.1 _

/-- The value of a field is a JSON value. -/
theorem EngineConfig.isValue_valueTokens (config : EngineConfig) (field : ConfigField) :
    IsValue (config.valueTokens field) := by
  -- Lists are arrays of single tokens, and the rest are single tokens themselves.
  cases field with
  | digests =>
    unfold valueTokens
    cases config.digests with
    | none => exact .scalar rfl
    | some names => exact .array (@isValue_of_scalars String .text (fun _ => rfl) names)
  | debugLog => exact .scalar rfl
  | pkeyNids => exact .array (isValue_of_scalars (fun _ => rfl) config.pkeyNids)

namespace EngineConfig

/-- A text is read as a configuration: that is the result if all its names are known, and else what is wrong with it
is the error. -/
structure ReadsAs (text : String) (config : EngineConfig) : Prop where
  taken : (∀ name ∈ config.digests.getD [], (Algorithm.ofName? name).isSome = true) →
    ofJson text = .ok config
  refused : ∀ error, config.validate = .error error → ofJson text = .error (.invalid error)

/-- A text is read as the configuration that its tokens hold. -/
theorem readsAs_of_draft {text : String} {draft : ConfigDraft}
    (read : readDraft (tokens text.toList) = .ok (draft, [])) : ReadsAs text draft.config := by
  have found : readConfig (tokens text.toList) = .ok draft.config := by
    rw [readConfig, read]
    rfl
  -- Whether names are known is asked of the whole configuration, behind the last token.
  constructor
  · intro known
    rw [ofJson, found]
    simp only [validate_of_known known]
  · intro error wrong
    rw [ofJson, found]
    simp only [wrong]

/-- The members of fields are values. -/
theorem isValue_of_mem_members (config : EngineConfig) (fields : List ConfigField) :
    ∀ entry ∈ config.members fields, IsValue entry.2 := by
  -- Each of the members is that of a field.
  intro entry present
  obtain ⟨field, _, rfl⟩ := List.mem_map.mp present
  exact config.isValue_valueTokens field

/-- An object of fields is read as the configuration with their values, whatever their order and layout. -/
theorem readsAs_of_object (config : EngineConfig) {fields : List ConfigField}
    (distinct : fields.Nodup) {text : String}
    (layout : Layout (objectOf (config.members fields)) text.toList) :
    ReadsAs text (config.only fields) := by
  -- The tokens are recovered from the layout, and the members are taken over one by one.
  have separated := (IsValue.object (config.isValue_of_mem_members fields)).separated
  have new : ∀ field ∈ fields, ({} : ConfigDraft).has field = false :=
    fun field _ => ConfigDraft.has_empty field
  have read : readDraft (tokens text.toList) =
      .ok (({} : ConfigDraft).takeAll config fields, []) := by
    rw [tokens_of_layout layout separated, readDraft_objectOf,
      readMoreMembers_given config distinct new, upToFault_cons rfl, readMoreMembers]
    rfl
  rw [← ConfigDraft.config_takeAll]
  exact readsAs_of_draft read

end EngineConfig

namespace EngineConfig

end EngineConfig

end DigestProvider
