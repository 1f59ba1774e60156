import DigestProvider.Proofs.Registry.Offers

/-! A slot is written once: the first publisher of an identifier keeps it, whatever is attempted later. -/

namespace DigestProvider

/-- No algorithm is filed under an identifier exactly if none carries it. -/
theorem Algorithm.ofNid?_eq_none_iff {nid : Nid} :
    ofNid? nid = none ↔ ¬∃ algorithm : Algorithm, algorithm.nid = nid := by
  -- An algorithm is found under its own identifier, and carries the one that it is found under.
  constructor
  · rintro unknown ⟨algorithm, rfl⟩
    simp at unknown
  · intro foreign
    cases known : ofNid? nid with
    | none => rfl
    | some algorithm => exact absurd ⟨algorithm, nid_of_ofNid? known⟩ foreign

namespace Registry

variable {Library Memory : Type}

/-- A record of no algorithm is turned away, and the registry stays as it is. -/
theorem publish_of_unknown (host : Host Library Memory) {record : Record Library}
    (unknown : Algorithm.ofNid? record.method.nid = none) (registry : Registry Library)
    (site : Site Memory) :
    registry.publish host record site =
      (.error (.unsupportedNid record.method.nid), registry, site.release host record) := by
  -- The search for a slot fails at once.
  simp only [publish, position?_of_unknown unknown]

/-- A record whose slot is free is published in it. -/
theorem publish_of_free (host : Host Library Memory) {record : Record Library}
    {algorithm : Algorithm} (known : Algorithm.ofNid? record.method.nid = some algorithm)
    {registry : Registry Library} (free : registry.slot algorithm = none) (site : Site Memory) :
    registry.publish host record site = (.ok record, registry.offer record, site) := by
  -- The host is not concerned.
  obtain ⟨position, located, holds⟩ := exists_position_of_known known
  rw [holds registry] at free
  simp only [publish, offer, located, free]

/-- A record whose slot is taken is turned away, and the registry stays as it is. -/
theorem publish_of_taken (host : Host Library Memory) {record held : Record Library}
    {algorithm : Algorithm} (known : Algorithm.ofNid? record.method.nid = some algorithm)
    {registry : Registry Library} (taken : registry.slot algorithm = some held)
    (site : Site Memory) :
    registry.publish host record site =
      (.error (.alreadyRegistered record.method.nid), registry, site.release host record) := by
  -- Whatever the slot holds stays there.
  obtain ⟨position, located, holds⟩ := exists_position_of_known known
  rw [holds registry] at taken
  simp only [publish, located, taken]

/-- Publication succeeds exactly for an algorithm's identifier under which nothing is found yet. -/
theorem publish_succeeds_iff (host : Host Library Memory) (record : Record Library)
    (registry : Registry Library) (site : Site Memory) :
    (registry.publish host record site).1.toBool = true ↔
      (∃ algorithm : Algorithm, algorithm.nid = record.method.nid) ∧
        registry.get? record.method.nid = none := by
  -- The three outcomes of publication are taken in turn.
  cases known : Algorithm.ofNid? record.method.nid with
  | none =>
    rw [publish_of_unknown host known]
    have foreign := Algorithm.ofNid?_eq_none_iff.mp known
    exact ⟨fun succeeds => absurd succeeds Bool.false_ne_true,
      fun expected => absurd expected.1 foreign⟩
  | some algorithm =>
    rw [get?_of_known known]
    have own := Algorithm.nid_of_ofNid? known
    cases held : registry.slot algorithm with
    | none =>
      rw [publish_of_free host known held]
      exact ⟨fun _ => ⟨⟨algorithm, own⟩, rfl⟩, fun _ => rfl⟩
    | some earlier =>
      rw [publish_of_taken host known held]
      exact ⟨fun succeeds => absurd succeeds Bool.false_ne_true,
        fun expected => absurd expected.2 (Option.some_ne_none earlier)⟩

/-- A publication that succeeds answers the record and files it under its identifier alone. -/
theorem publish_ok {host : Host Library Memory} {record returned : Record Library}
    {registry : Registry Library} {site : Site Memory}
    (published : (registry.publish host record site).1 = .ok returned) :
    returned = record ∧
      (registry.publish host record site).2.1.get? record.method.nid = some returned ∧
      ∀ other, other ≠ record.method.nid →
        (registry.publish host record site).2.1.get? other = registry.get? other := by
  -- Success tells that there is a slot and that it was free.
  have succeeds : (registry.publish host record site).1.toBool = true := by rw [published]; rfl
  obtain ⟨⟨algorithm, own⟩, free⟩ := (publish_succeeds_iff host record registry site).mp succeeds
  have known : Algorithm.ofNid? record.method.nid = some algorithm := by rw [← own]; simp
  rw [get?_of_known known] at free
  rw [publish_of_free host known free] at published
  obtain rfl : record = returned := Except.ok.inj published
  refine ⟨rfl, ?_, ?_⟩
  · rw [registry_publish, get?_offer known, get?_of_known known, free, if_pos rfl, Option.none_or]
  · intro other apart
    rw [registry_publish]
    cases filed : Algorithm.ofNid? other with
    | none => rw [get?_of_unknown filed, get?_of_unknown filed]
    | some _ => rw [get?_offer filed, if_neg (Ne.symm apart), Option.or_none]

/-- A publication that fails tells whether there is no slot or the slot is taken, and changes none. -/
theorem publish_error {host : Host Library Memory} {record : Record Library} {cause : DigestError}
    {registry : Registry Library} {site : Site Memory}
    (refused : (registry.publish host record site).1 = .error cause) :
    (registry.publish host record site).2.1 = registry ∧
      ((¬∃ algorithm : Algorithm, algorithm.nid = record.method.nid) ∧
          cause = .unsupportedAlgorithm ("nid " ++ record.method.nid.text) ∨
        (registry.get? record.method.nid).isSome ∧
          cause = .alreadyRegistered record.method.nid) := by
  -- A free slot would not have led to an error.
  cases known : Algorithm.ofNid? record.method.nid with
  | none =>
    rw [publish_of_unknown host known] at refused ⊢
    exact ⟨rfl, .inl ⟨Algorithm.ofNid?_eq_none_iff.mp known, (Except.error.inj refused).symm⟩⟩
  | some algorithm =>
    cases held : registry.slot algorithm with
    | none =>
      rw [publish_of_free host known held] at refused
      cases refused
    | some earlier =>
      rw [publish_of_taken host known held] at refused ⊢
      refine ⟨rfl, .inr ⟨?_, (Except.error.inj refused).symm⟩⟩
      rw [get?_of_known known, held, Option.isSome_some]

/-- Something is published under an identifier exactly if the identifier is listed. -/
theorem mem_nids_iff (registry : Registry Library) (nid : Nid) :
    nid ∈ registry.nids ↔ registry.isRegistered nid = true := by
  unfold nids
  rw [List.mem_filter]
  refine ⟨fun listed => listed.2, fun registered => ⟨?_, registered⟩⟩
  -- What is registered has a slot, and so its identifier is an algorithm's.
  cases known : Algorithm.ofNid? nid with
  | none => simp [isRegistered, get?_of_unknown known] at registered
  | some algorithm =>
    exact List.mem_map.mpr ⟨algorithm, algorithm.mem_all, Algorithm.nid_of_ofNid? known⟩

/-- The identifiers are listed in registration order. -/
theorem nids_sublist (registry : Registry Library) :
    registry.nids.Sublist (Algorithm.all.map Algorithm.nid) :=
  -- The order of publication has left no trace.
  List.filter_sublist

/-- No identifier is listed twice. -/
theorem nids_nodup (registry : Registry Library) : registry.nids.Nodup := by
  -- The seven algorithms have seven identifiers.
  have distinct : (Algorithm.all.map Algorithm.nid).Nodup := by decide
  exact distinct.sublist registry.nids_sublist

/-- A name finds what is published under the identifier of the algorithm it asks for. -/
theorem byName?_eq (registry : Registry Library) (name : String) :
    registry.byName? name =
      (Algorithm.ofName? name).bind fun algorithm => registry.get? algorithm.nid := by
  -- An algorithm's identifier leads back to its slot.
  simp only [byName?, get?_nid]

end Registry

namespace Registrar

variable {Library Memory : Type} [DedicatedStates Library]

/-- Under an algorithm's identifier the first record offered is found, once calls began on an empty registry. -/
theorem get?_performAll (requests : List (Host Library Memory × Registration Library))
    (site : Site Memory) (algorithm : Algorithm) :
    ((Registrar.mk Registry.empty site).performAll requests).registry.get? algorithm.nid =
      ((Registrar.mk Registry.empty site).offersAll requests).find?
        fun record => record.method.nid = algorithm.nid := by
  -- At the start there is nothing to be found.
  rw [registry_performAll, Registry.get?_offers (Algorithm.ofNid?_nid algorithm),
    Registry.get?_empty, Option.none_or]

/-- What is found carries the identifier it is found under, once calls began on an empty registry. -/
theorem nid_of_get?_performAll {requests : List (Host Library Memory × Registration Library)}
    {site : Site Memory} {nid : Nid} {record : Record Library}
    (found : ((Registrar.mk Registry.empty site).performAll requests).registry.get? nid =
      some record) : record.method.nid = nid := by
  -- Only an algorithm's identifier finds anything, and the search tests for it.
  cases known : Algorithm.ofNid? nid with
  | none => simp [Registry.get?_of_unknown known] at found
  | some algorithm =>
    rw [← Algorithm.nid_of_ofNid? known, get?_performAll] at found
    rw [← Algorithm.nid_of_ofNid? known]
    simpa using List.find?_some found

/-- A slot holds a record of the algorithm that stands at its position, once calls began on an empty registry. -/
theorem nid_of_slots_performAll {requests : List (Host Library Memory × Registration Library)}
    {site : Site Memory} {position : Fin Algorithm.all.length} {record : Record Library}
    (held : ((Registrar.mk Registry.empty site).performAll requests).registry.slots.get position =
      some record) : record.method.nid = (Algorithm.all.get position).nid := by
  -- The algorithm's identifier leads to this very slot, and what it finds there carries it.
  have located : Registry.position? (Algorithm.all.get position).nid = some position := by
    rw [Registry.position?, Algorithm.ofNid?_nid, Option.bind_some,
      Algorithm.position?_eq_some_iff]
  have found : ((Registrar.mk Registry.empty site).performAll requests).registry.get?
      (Algorithm.all.get position).nid = some record := by
    rw [Registry.get?, located, Option.bind_some, held]
  exact nid_of_get?_performAll found

/-- Whatever calls a registry has gone through from its empty start, each slot is written by the first publisher. -/
theorem slots_written_once (requests : List (Host Library Memory × Registration Library))
    (site : Site Memory) :
    let reached := (Registrar.mk Registry.empty site).performAll requests
    let registry := reached.registry
    -- A slot holds only a method of the algorithm at its position.
    (∀ position record, registry.slots.get position = some record →
      record.method.nid = (Algorithm.all.get position).nid) ∧
    -- A method is found only under its own identifier, and for good.
    (∀ nid record, registry.get? nid = some record → record.method.nid = nid) ∧
    (∀ nid record later, registry.get? nid = some record →
      (reached.performAll later).registry.get? nid = some record) ∧
    -- Publication needs a slot that is free; otherwise it says what is wrong and changes nothing.
    (∀ (host : Host Library Memory) record site,
      let (answer, after, _) := registry.publish host record site
      (answer.toBool = true ↔
        (∃ algorithm : Algorithm, algorithm.nid = record.method.nid) ∧
          registry.get? record.method.nid = none) ∧
      (∀ returned, answer = .ok returned →
        returned = record ∧ after.get? record.method.nid = some returned ∧
          ∀ other, other ≠ record.method.nid → after.get? other = registry.get? other) ∧
      (∀ cause, answer = .error cause →
        after = registry ∧
          ((¬∃ algorithm : Algorithm, algorithm.nid = record.method.nid) ∧
              cause = .unsupportedAlgorithm ("nid " ++ record.method.nid.text) ∨
            (registry.get? record.method.nid).isSome ∧
              cause = .alreadyRegistered record.method.nid))) ∧
    -- Of all the records offered under an algorithm's identifier the first is found.
    (∀ algorithm : Algorithm, registry.get? algorithm.nid =
      ((Registrar.mk Registry.empty site).offersAll requests).find?
        fun record => record.method.nid = algorithm.nid) ∧
    -- The ways to ask for what is published agree.
    (∀ nid, ((registry.get? nid).isSome ↔ registry.isRegistered nid = true) ∧
      (registry.isRegistered nid = true ↔ nid ∈ registry.nids)) ∧
    registry.nids.Nodup ∧ registry.nids.Sublist (Algorithm.all.map Algorithm.nid) ∧
    (∀ name, registry.byName? name =
      (Algorithm.ofName? name).bind fun algorithm => registry.get? algorithm.nid) := by
  intro reached registry
  refine ⟨fun position record held => nid_of_slots_performAll held,
    fun nid record found => nid_of_get?_performAll found,
    fun nid record later found => get?_performAll_of_some found later, ?_,
    get?_performAll requests site, ?_, registry.nids_nodup, registry.nids_sublist,
    registry.byName?_eq⟩
  · intro host record there
    exact ⟨Registry.publish_succeeds_iff host record registry there,
      fun returned published => Registry.publish_ok published,
      fun cause refused => Registry.publish_error refused⟩
  · intro nid
    exact ⟨Iff.rfl, (registry.mem_nids_iff nid).symm⟩

end Registrar

end DigestProvider
