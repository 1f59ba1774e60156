import DigestProvider.Proofs.Registry.Independent
import DigestProvider.Proofs.Registry.Report

/-!
Registrations one after another. Main statement: over a host without a history two of them come to the same in either
order, and to the same as one for the union of their configurations.
-/

namespace DigestProvider

namespace EngineConfig

/-- The configuration that asks for what either of two asks for, with the key types of the first. -/
def union (first second : EngineConfig) : EngineConfig where
  digests :=
    match first.digests, second.digests with
    | some names, some others => some (names ++ others)
    -- One that asks for everything leaves nothing to add.
    | _, _ => none
  debugLog := first.debugLog || second.debugLog
  pkeyNids := first.pkeyNids

/-- The union of two configurations wants what either of them wants. -/
theorem wants_union (first second : EngineConfig) (tag : Tag) :
    (first.union second).wants tag = (first.wants tag || second.wants tag) := by
  unfold union wants
  rcases first with ⟨_ | names, _, _⟩
  · rfl
  · rcases second with ⟨_ | others, _, _⟩
    · simp
    · -- A name of the joint list stands in one of the two lists.
      cases tag <;> simp [List.any_append]

/-- A valid configuration lists known names only. -/
theorem known_of_valid {config : EngineConfig} (valid : config.validate = .ok ()) :
    ∀ name ∈ config.digests.getD [], (Algorithm.ofName? name).isSome = true := by
  intro name listed
  cases known : Algorithm.ofName? name with
  | some algorithm => rfl
  | none =>
    -- An unknown name would have been reported.
    obtain ⟨_, _, _, _, _, _, refused⟩ := validate_of_unknown ⟨name, listed, known⟩
    rw [valid] at refused
    cases refused

/-- The union of two valid configurations is valid. -/
theorem valid_union {first second : EngineConfig} (valid : first.validate = .ok ())
    (sound : second.validate = .ok ()) : (first.union second).validate = .ok () := by
  -- A name of the joint list is known from the list that it comes from.
  have known := known_of_valid valid
  have alsoKnown := known_of_valid sound
  apply validate_of_known
  unfold union
  rcases first with ⟨_ | names, _, _⟩
  · simp
  · rcases second with ⟨_ | others, _, _⟩
    · simp
    · intro name listed
      rcases List.mem_append.mp listed with early | late
      · exact known name early
      · exact alsoKnown name late

end EngineConfig

/-- A host whose answers depend on what it is asked alone, and not on what it was asked before. -/
def Host.HistoryFree {Library Memory : Type} (host : Host Library Memory) : Prop :=
  -- Whatever it remembers, it answers like itself.
  ∀ nid, Host.AlikeOn nid host host

section HistoryFree

variable {Library Memory : Type} {host : Host Library Memory}

/-- The stock host has no history. -/
theorem Host.stock_historyFree : (Host.stock : Host Library Memory).HistoryFree :=
  fun _ => Host.AlikeOn.stock

/-- Faults do not give a host a history. -/
theorem Host.HistoryFree.faulty (free : host.HistoryFree) (faults : HostFaults) :
    (host.faulty faults).HistoryFree := by
  intro nid
  constructor
  · intro pkeyType memory other
    unfold Host.faulty
    dsimp only
    split
    · rfl
    · exact (free nid).allocate (faults.bind <|> pkeyType) memory other
  · intro setting method named memory other
    -- Which of the three ways a setter takes depends on the record and the setting.
    unfold Host.faulty
    dsimp only
    split
    · exact ⟨rfl, rfl⟩
    · split
      · exact ⟨rfl, rfl⟩
      · exact (free nid).apply setting method named memory other

/-- An outcome is a publication exactly if there is a record. -/
theorem Outcome.registered_iff {outcome : Outcome Library} :
    (∃ record, outcome = .registered record) ↔ outcome.record?.isSome = true := by
  -- Only a publication has a record.
  cases outcome <;> simp [Outcome.record?]

namespace Build

variable [DedicatedStates Library] {build : Build Library} {config : EngineConfig}
  {algorithm : Algorithm}

/-- What a registration has to put into an algorithm's slot: the contents of the record that construction makes, if the
algorithm is in the table and wanted. -/
def supply (host : Host Library Memory) (build : Build Library) (config : EngineConfig)
    (site : Site Memory) (algorithm : Algorithm) : Option (Method Library) :=
  if build.includes algorithm && config.wants (some algorithm) then
    ((build.recipe algorithm).build host config.requiredKeys site).1.toOption.map Record.method
  else none

/-- Over a host without a history the supply is the same at any time. -/
theorem supply_eq (free : host.HistoryFree) (keeps : host.KeepsNid) (build : Build Library)
    (config : EngineConfig) (site place : Site Memory) (algorithm : Algorithm) :
    build.supply host config site algorithm = build.supply host config place algorithm := by
  -- What the host has seen of other constructions does not show in this one.
  have alike := (free (build.recipe algorithm).nid).build keeps config.requiredKeys site place
  unfold supply
  split
  · -- Contents that agree in one sense do so in the other.
    generalize ((build.recipe algorithm).build host config.requiredKeys site).1 = one at alike ⊢
    generalize ((build.recipe algorithm).build host config.requiredKeys place).1 = two at alike ⊢
    cases one <;> cases two <;> simp_all [Except.map, Except.toOption]
  · rfl

/-- The supply of a union is that of the first configuration, or else that of the second. -/
theorem supply_union {first second : EngineConfig} (keys : first.pkeyNids = second.pkeyNids)
    (host : Host Library Memory) (build : Build Library) (site : Site Memory)
    (algorithm : Algorithm) :
    build.supply host (first.union second) site algorithm =
      (build.supply host first site algorithm).or (build.supply host second site algorithm) := by
  -- With the same key types each of the three asks construction for the same.
  have sameKeys : second.requiredKeys = first.requiredKeys := congrArg (List.map Nid.mk) keys.symm
  have unionKeys : (first.union second).requiredKeys = first.requiredKeys := rfl
  unfold supply
  rw [EngineConfig.wants_union, sameKeys, unionKeys]
  cases build.includes algorithm with
  | false => rfl
  | true =>
    cases first.wants (some algorithm) with
    | false => cases second.wants (some algorithm) <;> rfl
    | true => cases second.wants (some algorithm) <;> simp

/-- It does not matter which of two configurations supplies an algorithm. -/
theorem supply_comm {first second : EngineConfig} (keys : first.pkeyNids = second.pkeyNids)
    (host : Host Library Memory) (build : Build Library) (site : Site Memory)
    (algorithm : Algorithm) :
    (build.supply host first site algorithm).or (build.supply host second site algorithm) =
      (build.supply host second site algorithm).or (build.supply host first site algorithm) := by
  -- The union asks for the same in either order.
  have sameKeys : (first.union second).requiredKeys = (second.union first).requiredKeys :=
    congrArg (List.map Nid.mk) keys
  rw [← supply_union keys, ← supply_union keys.symm]
  unfold supply
  rw [EngineConfig.wants_union, EngineConfig.wants_union, Bool.or_comm, sameKeys]

/-- The record of an algorithm's turn has the contents of the supply, if the slot is free. -/
theorem record?_outcome (keeps : host.KeepsNid) (config : EngineConfig)
    (included : build.includes algorithm = true) {progress : Progress Library Memory}
    (open_ : progress.registry.slot algorithm = none) :
    (build.outcome host config progress algorithm).record?.map Record.method =
      build.supply host config progress.site algorithm := by
  -- Both sides ask whether the algorithm is wanted before anything is built.
  unfold supply outcome
  rw [included, Bool.true_and]
  split
  · rw [Recipe.register_eq keeps (build.nid_recipe algorithm), open_]
    -- Construction alone decides what is published in a free slot.
    rcases (build.recipe algorithm).build host config.requiredKeys progress.site with
      ⟨cause | made, after⟩
    · rfl
    · rfl
  · rfl

/-- No identifier is reported as registered twice. -/
theorem registered_nodup (keeps : host.KeepsNid) (valid : config.validate = .ok ())
    (build : Build Library) (registry : Registry Library) (site : Site Memory) :
    (build.initDigests host config registry site).1.registered.Nodup := by
  -- The table names no identifier twice, and the report adds none.
  exact build.nids_nodup.sublist (registered_sublist keeps valid build registry site)

/-- An identifier that is reported as registered is that of an algorithm in the table. -/
theorem included_of_registered (keeps : host.KeepsNid) (valid : config.validate = .ok ())
    {registry : Registry Library} {site : Site Memory} {nid : Nid}
    (registered : nid ∈ (build.initDigests host config registry site).1.registered) :
    ∃ algorithm, build.includes algorithm = true ∧ algorithm.nid = nid := by
  -- What is reported as registered stands in the table's own list.
  have listed := (registered_sublist keeps valid build registry site).subset registered
  obtain ⟨algorithm, member, named⟩ := List.mem_map.mp listed
  exact ⟨algorithm, (List.mem_filter.mp member).2, named⟩

/-- Over a host without a history, a valid registration fills a slot that is free with the supply, and reports the
algorithm as registered exactly if there was any and the slot was free. -/
theorem initDigests_supplies (free : host.HistoryFree) (keeps : host.KeepsNid)
    (valid : config.validate = .ok ()) (build : Build Library) (registry : Registry Library)
    (site place : Site Memory) (algorithm : Algorithm) :
    ((build.initDigests host config registry site).2.1.slot algorithm).map Record.method =
        ((registry.slot algorithm).map Record.method).or
          (build.supply host config place algorithm) ∧
      (algorithm.nid ∈ (build.initDigests host config registry site).1.registered ↔
        registry.slot algorithm = none ∧ (build.supply host config place algorithm).isSome) := by
  by_cases included : build.includes algorithm = true
  · have listed : algorithm ∈ build.algorithms :=
      List.mem_filter.mpr ⟨Algorithm.mem_all _, included⟩
    obtain ⟨before, later, table⟩ := List.append_of_mem listed
    obtain ⟨shown, same, final⟩ := initDigests_entry keeps valid table registry site
    rw [final, shown.registered, Option.map_or]
    cases held : registry.slot algorithm with
    | none =>
      -- What the algorithm's own turn publishes is the supply.
      have made := record?_outcome keeps config included (same.trans held)
      rw [supply_eq free keeps build config _ place] at made
      rw [made, Outcome.registered_iff, ← made, Option.isSome_map]
      simp
    | some earlier =>
      refine ⟨by simp, ?_⟩
      have taken : ¬∃ record, build.outcome host config
          (build.progressAfter host config registry site before) algorithm = .registered record := by
        rintro ⟨record, outcome⟩
        obtain ⟨_, open_, _⟩ := (outcome_registered_iff keeps).mp outcome
        rw [same, held] at open_
        cases open_
      simp [taken]
  · -- An algorithm outside the table has no turn at all.
    have nothing : build.supply host config place algorithm = none := by simp [supply, included]
    have absent : algorithm ∉ build.algorithms := by simp [algorithms, included]
    obtain ⟨_, reached, _⟩ := initDigests_of_valid valid host build registry site
    have kept : (build.initDigests host config registry site).2.1 = _ := reached
    rw [nothing, kept, progressAfter, slot_advanceAll_of_absent keeps absent]
    refine ⟨by simp, ⟨fun registered => ?_, fun supplied => by simp at supplied⟩⟩
    obtain ⟨other, present, named⟩ := included_of_registered keeps valid registered
    exact absurd (Algorithm.nid_injective named ▸ present) included

/-- The identifiers that are reported as registered are those of the algorithms supplied for free slots. -/
theorem mem_registered_iff (free : host.HistoryFree) (keeps : host.KeepsNid)
    (valid : config.validate = .ok ()) (build : Build Library) (registry : Registry Library)
    (site place : Site Memory) (nid : Nid) :
    nid ∈ (build.initDigests host config registry site).1.registered ↔
      ∃ algorithm, algorithm.nid = nid ∧ registry.slot algorithm = none ∧
        (build.supply host config place algorithm).isSome := by
  -- Every identifier reported is that of some algorithm, for which the supply decides.
  have supplies := initDigests_supplies free keeps valid build registry site place
  constructor
  · intro registered
    obtain ⟨algorithm, _, rfl⟩ := included_of_registered keeps valid registered
    exact ⟨algorithm, rfl, (supplies algorithm).2.mp registered⟩
  · rintro ⟨algorithm, rfl, supplied⟩
    exact (supplies algorithm).2.mpr supplied

/-- After a valid registration a slot is free exactly if it was free and there was no supply for it. -/
theorem slot_free_iff (free : host.HistoryFree) (keeps : host.KeepsNid)
    (valid : config.validate = .ok ()) (build : Build Library) (registry : Registry Library)
    (site place : Site Memory) (algorithm : Algorithm) :
    (build.initDigests host config registry site).2.1.slot algorithm = none ↔
      registry.slot algorithm = none ∧ build.supply host config place algorithm = none := by
  -- A slot without contents holds no record.
  rw [← Option.map_eq_none_iff (f := Record.method),
    (initDigests_supplies free keeps valid build registry site place algorithm).1,
    Option.or_eq_none_iff, Option.map_eq_none_iff]

section TwoRuns

variable {first second : EngineConfig} (free : host.HistoryFree) (keeps : host.KeepsNid)
  (valid : first.validate = .ok ()) (sound : second.validate = .ok ()) (build : Build Library)
  (registry : Registry Library) (site place : Site Memory)
include free keeps valid sound

/-- After two registrations a slot holds what it held, or else the supply of the first, or else that of the second. -/
theorem slot_of_two (algorithm : Algorithm) :
    let one := build.initDigests host first registry site
    ((build.initDigests host second one.2.1 one.2.2).2.1.slot algorithm).map Record.method =
      ((registry.slot algorithm).map Record.method).or
        ((build.supply host first place algorithm).or
          (build.supply host second place algorithm)) := by
  -- The second run finds what the first has left, and offers its own supply behind that.
  intro one
  rw [(initDigests_supplies free keeps sound build one.2.1 one.2.2 place algorithm).1,
    (initDigests_supplies free keeps valid build registry site place algorithm).1, Option.or_assoc]

/-- Over two registrations an identifier is reported as registered if its slot was free and either has a supply. -/
theorem registered_of_two (nid : Nid) :
    let one := build.initDigests host first registry site
    nid ∈ one.1.registered ++ (build.initDigests host second one.2.1 one.2.2).1.registered ↔
      ∃ algorithm, algorithm.nid = nid ∧ registry.slot algorithm = none ∧
        ((build.supply host first place algorithm).or
          (build.supply host second place algorithm)).isSome := by
  intro one
  rw [List.mem_append, mem_registered_iff free keeps valid build registry site place,
    mem_registered_iff free keeps sound build one.2.1 one.2.2 place, ← exists_or]
  refine exists_congr fun algorithm => ?_
  rw [slot_free_iff free keeps valid build registry site place algorithm]
  -- The second run gets its chance where the first had no supply.
  cases build.supply host first place algorithm with
  | none => simp
  | some method => simp

/-- No identifier is reported as registered by both of two registrations, or twice by one. -/
theorem nodup_of_two :
    let one := build.initDigests host first registry site
    (one.1.registered ++ (build.initDigests host second one.2.1 one.2.2).1.registered).Nodup := by
  intro one
  refine List.nodup_append.mpr ⟨registered_nodup keeps valid build registry site,
    registered_nodup keeps sound build one.2.1 one.2.2, ?_⟩
  rintro nid early other late rfl
  obtain ⟨algorithm, _, rfl⟩ := included_of_registered keeps valid early
  -- The slot that the first run filled was not free for the second.
  obtain ⟨_, supplied⟩ :=
    (initDigests_supplies free keeps valid build registry site site algorithm).2.mp early
  obtain ⟨open_, _⟩ :=
    (initDigests_supplies free keeps sound build one.2.1 one.2.2 site algorithm).2.mp late
  have none := ((slot_free_iff free keeps valid build registry site site algorithm).mp open_).2
  rw [none] at supplied
  cases supplied

end TwoRuns

/-- Over a host without a history that keeps identifiers, registering for two valid configurations with the same key
types comes to the same in either order and for their union at once: each slot gets the same contents, and over both
runs just the identifiers of the union are reported as registered, none of them twice. -/
theorem initDigests_compose (free : host.HistoryFree) (keeps : host.KeepsNid)
    (build : Build Library) {first second : EngineConfig} (valid : first.validate = .ok ())
    (sound : second.validate = .ok ()) (keys : first.pkeyNids = second.pkeyNids)
    (registry : Registry Library) (site : Site Memory) :
    let one := build.initDigests host first registry site
    let two := build.initDigests host second one.2.1 one.2.2
    let early := build.initDigests host second registry site
    let late := build.initDigests host first early.2.1 early.2.2
    let whole := build.initDigests host (first.union second) registry site
    (∀ algorithm,
      (two.2.1.slot algorithm).map Record.method = (late.2.1.slot algorithm).map Record.method ∧
      (two.2.1.slot algorithm).map Record.method = (whole.2.1.slot algorithm).map Record.method) ∧
    (∀ nid, nid ∈ one.1.registered ++ two.1.registered ↔ nid ∈ whole.1.registered) ∧
    (∀ nid, nid ∈ early.1.registered ++ late.1.registered ↔ nid ∈ whole.1.registered) ∧
    (one.1.registered ++ two.1.registered).Nodup ∧
    (early.1.registered ++ late.1.registered).Nodup := by
  intro one two early late whole
  -- Each of the three runs is described by the supplies, so that only these are compared.
  have joint := EngineConfig.valid_union valid sound
  have forth := slot_of_two free keeps valid sound build registry site site
  have back := slot_of_two free keeps sound valid build registry site site
  have registered (nid : Nid) := mem_registered_iff free keeps joint build registry site site nid
  simp only [supply_union keys] at registered
  refine ⟨fun algorithm => ⟨?_, ?_⟩, fun nid => ?_, fun nid => ?_,
    nodup_of_two free keeps valid sound build registry site,
    nodup_of_two free keeps sound valid build registry site⟩
  · exact (forth algorithm).trans ((supply_comm keys host build site algorithm) ▸
      (back algorithm).symm)
  · refine (forth algorithm).trans ?_
    rw [← supply_union keys]
    exact (initDigests_supplies free keeps joint build registry site site algorithm).1.symm
  · exact (registered_of_two free keeps valid sound build registry site site nid).trans
      (registered nid).symm
  · refine (registered_of_two free keeps sound valid build registry site site nid).trans
      (Iff.trans (exists_congr fun algorithm => ?_) (registered nid).symm)
    rw [supply_comm keys.symm]

/-- Two overlapping selections, a fault and a slot that is taken: SHA-512 is registered by the first run alone, and the
algorithm that the host refuses by none. -/
theorem initDigests_compose_overlapping :
    let host : Host Unit Unit :=
      Host.stock.faulty { failStep := some .final, onlyNid := some Algorithm.sha384.nid }
    let build : Build Unit := { includes := fun _ => true, library := () }
    let first : EngineConfig := { digests := some ["sha512", "SHA-384"], pkeyNids := [6] }
    let second : EngineConfig :=
      { digests := some ["SHA3-256", "SHA512", "SHA-384", "SHA256"], debugLog := true
        pkeyNids := [6] }
    let used : Registry Unit :=
      Registry.empty.offer ⟨0, Method.empty Algorithm.sha256.nid none⟩
    let one := build.initDigests host first used { memory := (), issued := 1 }
    let two := build.initDigests host second one.2.1 one.2.2
    let whole := build.initDigests host (first.union second) used { memory := (), issued := 1 }
    host.HistoryFree ∧ host.KeepsNid ∧ first.validate = .ok () ∧ second.validate = .ok () ∧
      one.1.registered = [Algorithm.sha512.nid] ∧ two.1.registered = [Algorithm.sha3_256.nid] ∧
      (one.1.registered ++ two.1.registered).Nodup ∧
      Algorithm.sha512.nid ∈ whole.1.registered ∧ Algorithm.sha384.nid ∉ whole.1.registered ∧
      (two.2.1.slot .sha512).map Record.method = (whole.2.1.slot .sha512).map Record.method := by
  intro host build first second used one two whole
  have free : host.HistoryFree := Host.stock_historyFree.faulty _
  have keeps : host.KeepsNid := Host.stock_keepsNid.faulty _
  have valid : first.validate = .ok () := by rfl
  have sound : second.validate = .ok () := by rfl
  obtain ⟨slots, registered, _, distinct, _⟩ := initDigests_compose free keeps build valid sound rfl
    used { memory := (), issued := 1 }
  -- What neither of the two runs reports, the run for the union cannot report either.
  have missing : Algorithm.sha384.nid ∉ one.1.registered ++ two.1.registered := by decide
  exact ⟨free, keeps, valid, sound, by decide, by decide, distinct,
    (registered _).mp (by decide), fun listed => missing ((registered _).mpr listed),
    (slots .sha512).2⟩

end Build

end HistoryFree

end DigestProvider
