import DigestProvider.Proofs.Registry.Report

/-!
What becomes of the algorithms that a configuration names. Main statement: one that is compiled in is published or
reported as failed, and a complete report means that it is published.
-/

namespace DigestProvider

/-- A configuration wants what one of its names asks for. -/
theorem EngineConfig.wants_of_named {config : EngineConfig} {names : List String}
    (listed : config.digests = some names) {name : String} (member : name ∈ names)
    {algorithm : Algorithm} (named : Algorithm.ofName? name = some algorithm) :
    config.wants (some algorithm) = true :=
  -- The name is the one by which it is named in the list.
  (wants_iff_named listed algorithm).mpr ⟨name, member, named⟩

section Turns

variable {Library Memory : Type} {host : Host Library Memory}

/-- A registration that succeeds has built the record that it answers, and files it under the record's identifier. -/
theorem Recipe.register_ok {recipe : Recipe Library} {pkeyNids : List Nid}
    {registry : Registry Library} {site : Site Memory} {record : Record Library}
    (registered : (recipe.register host pkeyNids registry site).1 = .ok record) :
    (recipe.build host pkeyNids site).1 = .ok record ∧
      (recipe.register host pkeyNids registry site).2.1.get? record.method.nid = some record := by
  unfold register at registered ⊢
  rcases built : recipe.build host pkeyNids site with ⟨cause | made, after⟩
  · rw [built] at registered
    cases registered
  · rw [built] at registered
    -- What was published is what was made.
    obtain ⟨rfl, filed, _⟩ := Registry.publish_ok registered
    exact ⟨rfl, filed⟩

namespace Build

variable [DedicatedStates Library] {build : Build Library} {config : EngineConfig}

/-- The record that an algorithm's turn publishes was built for it, and is found under the record's identifier. -/
theorem record_of_turn {progress : Progress Library Memory} {algorithm : Algorithm}
    {record : Record Library}
    (outcome : build.outcome host config progress algorithm = .registered record) :
    ((build.recipe algorithm).build host config.requiredKeys progress.site).1 = .ok record ∧
      (build.advance host config progress algorithm).registry.get? record.method.nid =
        some record := by
  -- An algorithm that is not wanted would have been skipped.
  have wanted : config.wants (some algorithm) = true := by
    cases asked : config.wants (some algorithm) with
    | true => rfl
    | false =>
      rw [outcome_skipped_iff.mpr asked] at outcome
      cases outcome
  obtain ⟨registry, _, answer⟩ := advance_of_wanted wanted host build progress
  rw [outcome] at answer
  -- The turn of an algorithm that is wanted is its recipe's registration.
  have registered : ((build.recipe algorithm).register host config.requiredKeys progress.registry
      progress.site).1 = .ok record := by
    cases result : ((build.recipe algorithm).register host config.requiredKeys progress.registry
        progress.site).1 with
    | error cause =>
      rw [result] at answer
      cases answer
    | ok made =>
      rw [result] at answer
      cases answer
      rfl
  rw [registry]
  exact Recipe.register_ok registered

/-- An algorithm of the table that is wanted has its record published and reported, or its failure reported. -/
theorem initDigests_reports (valid : config.validate = .ok ()) (host : Host Library Memory)
    {algorithm : Algorithm} (included : build.includes algorithm = true)
    (wanted : config.wants (some algorithm) = true) (registry : Registry Library)
    (site : Site Memory) :
    (∃ record place,
      ((build.recipe algorithm).build host config.requiredKeys place).1 = .ok record ∧
      record.method.nid ∈ (build.initDigests host config registry site).1.registered ∧
      (build.initDigests host config registry site).2.1.get? record.method.nid = some record) ∨
      ∃ cause, (some algorithm, cause) ∈ (build.initDigests host config registry site).1.failed := by
  have listed : algorithm ∈ build.algorithms :=
    List.mem_filter.mpr ⟨Algorithm.mem_all _, included⟩
  obtain ⟨before, later, table⟩ := List.append_of_mem listed
  let start : Progress Library Memory := { registry, site := site.note .registrationEntered }
  let turn := build.progressAfter host config registry site before
  obtain ⟨_, reached, _⟩ := initDigests_of_valid valid host build registry site
  have entries : (build.initDigests host config registry site).1 = _ :=
    initDigests_report valid host build registry site
  -- The table has the algorithm in one place, and the outcome of that turn is among the entries.
  have own : (algorithm, build.outcome host config turn algorithm) ∈
      build.outcomes host config build.algorithms start :=
    (mem_table_outcomes_iff table registry site).mpr rfl
  -- The outcome of its own turn is in one of the two lists.
  cases outcome : build.outcome host config turn algorithm with
  | registered record =>
    obtain ⟨built, filed⟩ := record_of_turn outcome
    refine .inl ⟨record, turn.site, built, ?_, ?_⟩
    · have published : record ∈ Outcome.records (build.outcomes host config build.algorithms start) :=
        List.mem_filterMap.mpr ⟨_, own, by rw [outcome]; rfl⟩
      rw [entries]
      exact List.mem_map.mpr ⟨record, published, rfl⟩
    · -- The turns behind its own leave the record where it is.
      have last : (build.initDigests host config registry site).2.1 = _ := reached
      rw [last, progressAfter, table, List.foldl_append, List.foldl_cons, registry_advanceAll]
      exact Registry.get?_offers_of_some filed _
  | failed cause =>
    refine .inr ⟨cause, ?_⟩
    rw [entries]
    exact Outcome.mem_failures_iff.mpr (outcome ▸ own)
  | skipped =>
    have unwanted := outcome_skipped_iff.mp outcome
    rw [wanted] at unwanted
    cases unwanted

/-- Whatever the host does, each algorithm of a build that some listed name asks for is reported: the record built for
it is listed as registered and found in the registry, or its failure is listed. Over a host that keeps identifiers it is
listed under its own, and a complete report means that it is registered. -/
theorem initDigests_drops_none {names : List String} (listed : config.digests = some names)
    (valid : config.validate = .ok ()) (build : Build Library) (host : Host Library Memory)
    (registry : Registry Library) (site : Site Memory) :
    let done := build.initDigests host config registry site
    let report := done.1
    let after := done.2.1
    ∀ name ∈ names, ∀ algorithm, Algorithm.ofName? name = some algorithm →
      build.includes algorithm = true →
        ((∃ record place,
            ((build.recipe algorithm).build host config.requiredKeys place).1 = .ok record ∧
            record.method.nid ∈ report.registered ∧
            after.get? record.method.nid = some record) ∨
          ∃ cause, (some algorithm, cause) ∈ report.failed) ∧
        (host.KeepsNid →
          (algorithm.nid ∈ report.registered ∨ ∃ cause, (some algorithm, cause) ∈ report.failed) ∧
          (report.isComplete = true → after.isRegistered algorithm.nid = true)) := by
  intro done report after name member algorithm named included
  have wanted := EngineConfig.wants_of_named listed member named
  have reported := initDigests_reports valid host included wanted registry site
  refine ⟨reported, fun keeps => ?_⟩
  -- Under an honest host the record that was built for the algorithm is the algorithm's own.
  rcases reported with ⟨record, place, built, shown, filed⟩ | ⟨cause, shown⟩
  · have own : record.method.nid = algorithm.nid :=
      (Recipe.nid_of_build keeps built).trans (build.nid_recipe algorithm)
    rw [own] at shown filed
    refine ⟨.inl shown, fun _ => ?_⟩
    have found : after.get? algorithm.nid = some record := filed
    rw [Registry.isRegistered, found, Option.isSome_some]
  · refine ⟨.inr ⟨cause, shown⟩, fun complete => ?_⟩
    -- A report with a failure in it is not complete.
    have none : report.failed = [] := List.isEmpty_iff.mp complete
    have impossible : (some algorithm, cause) ∈ report.failed := shown
    rw [none] at impossible
    cases impossible

/-- Of two algorithms asked for by name, one that the host refuses is reported, and without the refusal both are
registered. -/
theorem initDigests_drops_none_of_two :
    let host : Host Unit Unit :=
      Host.stock.faulty { failStep := some .final, onlyNid := some Algorithm.sha384.nid }
    let build : Build Unit := { includes := fun algorithm => algorithm ≠ .sha512, library := () }
    let config : EngineConfig := { digests := some [" sha-256", "SHA384"] }
    let done := build.initDigests host config Registry.empty { memory := () }
    let steady := build.initDigests Host.stock config Registry.empty { memory := () }
    config.validate = .ok () ∧ host.KeepsNid ∧
      Algorithm.ofName? "SHA384" = some .sha384 ∧ build.includes .sha384 = true ∧
      (∃ cause, (some .sha384, cause) ∈ done.1.failed) ∧
      steady.1.isComplete = true ∧ steady.2.1.isRegistered Algorithm.sha384.nid = true := by
  intro host build config done steady
  have valid : config.validate = .ok () := by rfl
  have keeps : host.KeepsNid := Host.stock_keepsNid.faulty _
  have named : Algorithm.ofName? "SHA384" = some .sha384 := by decide
  -- The same theorem over a host with the refusal and over one without it.
  have refused := initDigests_drops_none rfl valid build host Registry.empty { memory := () }
    "SHA384" (by decide) .sha384 named rfl
  have accepted := initDigests_drops_none rfl valid build Host.stock Registry.empty { memory := () }
    "SHA384" (by decide) .sha384 named rfl
  have missing : Algorithm.sha384.nid ∉ done.1.registered := by decide
  exact ⟨valid, keeps, named, rfl, (refused.2 keeps).1.resolve_left missing, by decide,
    (accepted.2 Host.stock_keepsNid).2 (by decide)⟩

/-- A valid configuration may name an algorithm of which the report says nothing, although it is complete: one that is
not compiled in, or one whose record the host gives out under another identifier. -/
theorem named_without_report :
    let config : EngineConfig := { digests := some ["SHA256"] }
    let small : Build Unit :=
      { includes := fun algorithm => algorithm = .sha384 ∨ algorithm = .sha3_256, library := () }
    let full : Build Unit := { includes := fun _ => true, library := () }
    let misfiling : Host Unit Unit :=
      { Host.stock with
        allocate := fun _ bound memory => (some (Method.empty Algorithm.sha384.nid bound), memory) }
    let one := small.initDigests Host.stock config Registry.empty { memory := () }
    let two := full.initDigests misfiling config Registry.empty { memory := () }
    config.validate = .ok () ∧ Algorithm.ofName? "SHA256" = some .sha256 ∧
      (Algorithm.sha256.nid ∉ one.1.registered ∧ one.1.failed = [] ∧ one.1.isComplete = true ∧
        one.2.1.isRegistered Algorithm.sha256.nid = false) ∧
      (Algorithm.sha256.nid ∉ two.1.registered ∧ two.1.failed = [] ∧ two.1.isComplete = true ∧
        two.2.1.isRegistered Algorithm.sha256.nid = false) := by
  -- Both registrations are followed to their end.
  intro config small full misfiling one two
  exact ⟨rfl, by decide, ⟨by decide, by decide, by decide, by decide⟩,
    ⟨by decide, by decide, by decide, by decide⟩⟩

end Build

end Turns

end DigestProvider
