import DigestProvider.Proofs.Registry.Outcomes

/-!
The report of a registration accounts for a build's whole table and nothing else, and an invalid configuration is
refused before the host is called.
-/

namespace DigestProvider

/-- Some name of a list asks for an algorithm. -/
def Algorithm.NamedIn (names : List String) (algorithm : Algorithm) : Prop :=
  ∃ name ∈ names, Algorithm.ofName? name = some algorithm

namespace EngineConfig

/-- A configuration with a list wants just the algorithms that are named in it. -/
theorem wants_iff_named {config : EngineConfig} {names : List String}
    (listed : config.digests = some names) (algorithm : Algorithm) :
    config.wants (some algorithm) = true ↔ algorithm.NamedIn names := by
  simp [wants, listed, Algorithm.NamedIn]

/-- A configuration with an unknown name is refused for the first such name, as it is written. -/
theorem validate_of_unknown {config : EngineConfig}
    (unknown : ∃ name ∈ config.digests.getD [], Algorithm.ofName? name = none) :
    ∃ known name rest, config.digests = some (known ++ name :: rest) ∧
      (∀ other ∈ known, (Algorithm.ofName? other).isSome = true) ∧
      Algorithm.ofName? name = none ∧
      config.validate = .error (.config ("unknown digest algorithm: " ++ name)) := by
  obtain ⟨some_, listed, strange⟩ := unknown
  cases digests : config.digests with
  | none => simp [digests] at listed
  | some names =>
    -- The search finds a name, since there is one to be found.
    cases search : config.unknownName? with
    | none =>
      have every := List.find?_eq_none.mp search some_ listed
      simp [strange] at every
    | some name =>
      have found := search
      rw [unknownName?, digests, Option.getD_some, List.find?_eq_some_iff_append] at found
      obtain ⟨unnamed, known, rest, rfl, earlier⟩ := found
      refine ⟨known, name, rest, rfl, ?_, by simpa using unnamed, by rw [validate, search]⟩
      intro other member
      have named := earlier other member
      simpa using named

/-- A configuration that lists known names only is valid. -/
theorem validate_of_known {config : EngineConfig}
    (known : ∀ name ∈ config.digests.getD [], (Algorithm.ofName? name).isSome = true) :
    config.validate = .ok () := by
  -- The search for an unknown name comes to nothing.
  have nothing : config.unknownName? = none := by
    refine List.find?_eq_none.mpr fun name listed => ?_
    have named := known name listed
    simp [Option.isSome_iff_ne_none.mp named]
  rw [validate, nothing]

end EngineConfig

section Calls

variable {Library Memory : Type} {host : Host Library Memory}

/-- The calls of a recipe's registration concern its identifier alone. -/
theorem Recipe.register_concerns (keeps : host.KeepsNid) {recipe : Recipe Library}
    {algorithm : Algorithm} (own : recipe.nid = algorithm.nid) (pkeyNids : List Nid)
    (registry : Registry Library) (site : Site (Memory × HostLedger Library)) :
    HostLedger.Concerns algorithm.nid site.memory.2
      (recipe.register host.watched pkeyNids registry site).2.2.memory.2 := by
  -- The calls are those of construction, and at most one more that gives the record back.
  have concerns := recipe.build_concerns keeps pkeyNids site
  rw [register_eq keeps.watched own]
  rcases built : recipe.build host.watched pkeyNids site with ⟨cause | record, after⟩
  · rw [built, own] at concerns
    exact concerns
  · have named : record.method.nid = algorithm.nid :=
      (nid_of_build keeps.watched (by rw [built])).trans own
    rw [built, own] at concerns
    cases registry.slot algorithm with
    | none => exact concerns
    | some earlier =>
      -- The record that finds its slot taken goes back under the same identifier.
      obtain ⟨calls, entered, same⟩ := concerns
      refine ⟨calls ++ [.release record], ?_, ?_⟩
      · rw [← List.append_assoc, ← entered]
        rfl
      · intro call member
        rcases List.mem_append.mp member with before | last
        · exact same call before
        · rw [List.mem_singleton.mp last]
          exact named

namespace Build

variable [DedicatedStates Library]

/-- The host calls of turns one after another concern algorithms of the table that are wanted. -/
theorem advanceAll_calls (keeps : host.KeepsNid) (build : Build Library) (config : EngineConfig)
    (algorithms : List Algorithm) (progress : Progress Library (Memory × HostLedger Library)) :
    ∃ calls, (algorithms.foldl (build.advance host.watched config) progress).site.memory.2.calls =
        progress.site.memory.2.calls ++ calls ∧
      ∀ call ∈ calls, ∃ algorithm ∈ algorithms,
        config.wants (some algorithm) = true ∧ call.nid = algorithm.nid := by
  -- The induction is on the turns; what the later ones are for is still in the table.
  induction algorithms generalizing progress with
  | nil => exact ⟨[], by simp, by simp⟩
  | cons algorithm rest ih =>
    obtain ⟨later, entered, wanted⟩ := ih (build.advance host.watched config progress algorithm)
    have weaken (call) (member : call ∈ later) : ∃ other ∈ algorithm :: rest,
        config.wants (some other) = true ∧ call.nid = other.nid := by
      obtain ⟨other, present, concerned⟩ := wanted call member
      exact ⟨other, List.mem_cons_of_mem algorithm present, concerned⟩
    by_cases asked : config.wants (some algorithm) = true
    · -- Its own turn comes first, and concerns the algorithm alone.
      obtain ⟨_, ⟨note, site⟩, _⟩ := advance_of_wanted asked host.watched build progress
      obtain ⟨now, first, same⟩ := Recipe.register_concerns keeps (build.nid_recipe algorithm)
        config.requiredKeys progress.registry progress.site
      refine ⟨now ++ later, ?_, ?_⟩
      · rw [List.foldl_cons, entered, site, ← List.append_assoc, ← first]
        rfl
      · intro call member
        rcases List.mem_append.mp member with early | late
        · exact ⟨algorithm, List.mem_cons_self, asked, same call early⟩
        · exact weaken call late
    · -- An algorithm that is not wanted has no calls made for it.
      obtain ⟨_, untouched⟩ :=
        advance_of_unwanted (by simpa using asked) host.watched build progress
      exact ⟨later, by rw [List.foldl_cons, entered, untouched], weaken⟩

end Build

end Calls

namespace Build

variable {Library Memory : Type} [DedicatedStates Library]

/-- A configuration with an unknown name is refused for the first such name: nothing is published, and the host is not
called. -/
theorem initDigests_of_unknown {config : EngineConfig}
    (unknown : ∃ name ∈ config.digests.getD [], Algorithm.ofName? name = none)
    (host : Host Library Memory) (build : Build Library) (registry : Registry Library)
    (site : Site Memory) :
    let done := build.initDigests host config registry site
    done.2.2.memory = site.memory ∧ done.2.1 = registry ∧
      ∃ known name rest, config.digests = some (known ++ name :: rest) ∧
        (∀ other ∈ known, (Algorithm.ofName? other).isSome = true) ∧
        Algorithm.ofName? name = none ∧
        done.1 = { failed := [(none, .config ("unknown digest algorithm: " ++ name))] } := by
  intro done
  obtain ⟨known, name, rest, digests, earlier, strange, refused⟩ :=
    EngineConfig.validate_of_unknown unknown
  -- The loop over the table is not entered.
  have rejected : done = ({ failed := [(none, .config ("unknown digest algorithm: " ++ name))] },
      registry, (site.note .registrationEntered).note
        (.configurationRejected (.config ("unknown digest algorithm: " ++ name)))) := by
    simp only [done, initDigests, refused]
  rw [rejected]
  exact ⟨rfl, rfl, known, name, rest, digests, earlier, strange, rfl⟩

/-- Whatever the host does, each algorithm of the table is on one of the three lists, and on the last one exactly if it
is not wanted. -/
theorem initDigests_lists {config : EngineConfig} (valid : config.validate = .ok ())
    (host : Host Library Memory) (build : Build Library) (registry : Registry Library)
    (site : Site Memory) :
    let report := (build.initDigests host config registry site).1
    report.registered.length + report.failed.length + report.skipped.length =
        build.algorithms.length ∧
      (report.failed.map Prod.fst).Sublist (build.algorithms.map some) ∧
      report.skipped.Sublist build.algorithms ∧
      ∀ algorithm ∈ build.algorithms,
        (algorithm ∈ report.skipped ↔ config.wants (some algorithm) = false) := by
  intro report
  let start : Progress Library Memory := { registry, site := site.note .registrationEntered }
  let entries := build.outcomes host config build.algorithms start
  have lists : report =
      { registered := (Outcome.records entries).map (·.method.nid)
        failed := Outcome.failures entries
        skipped := Outcome.omissions entries } :=
    initDigests_report valid host build registry site
  have table : entries.map Prod.fst = build.algorithms :=
    algorithms_outcomes host build config build.algorithms start
  have failed : report.failed = Outcome.failures entries := congrArg _ lists
  have skipped : report.skipped = Outcome.omissions entries := congrArg _ lists
  refine ⟨?_, ?_, ?_, ?_⟩
  · -- Each outcome of the table was entered into one list.
    rw [lists, List.length_map, Outcome.length_lists, ← table, List.length_map]
  · rw [failed]
    exact table ▸ Outcome.failures_sublist entries
  · rw [skipped]
    exact table ▸ List.filter_sublist.map Prod.fst
  · intro algorithm listed
    obtain ⟨before, later, split⟩ := List.append_of_mem listed
    -- Its own turn alone can have put it on the list.
    rw [skipped, Outcome.mem_omissions_iff, mem_table_outcomes_iff split registry site, eq_comm,
      outcome_skipped_iff]

section KeepsNid

variable {host : Host Library Memory} (keeps : host.KeepsNid) {config : EngineConfig}
  (valid : config.validate = .ok ())
include keeps valid

/-- The identifiers that are reported as registered are the table's, in its order and each at most once. -/
theorem registered_sublist (build : Build Library) (registry : Registry Library)
    (site : Site Memory) :
    (build.initDigests host config registry site).1.registered.Sublist
      (build.algorithms.map Algorithm.nid) := by
  -- The list is made up of the records that were published, in table order.
  have own : Outcome.Own (build.outcomes host config build.algorithms
      { registry, site := site.note .registrationEntered }) := own_outcomes keeps build.algorithms
  have ordered := Outcome.records_sublist own
  rw [algorithms_outcomes] at ordered
  rw [initDigests_report valid]
  exact ordered

/-- Each identifier of the table is accounted for once, on whichever list. -/
theorem nids_initDigests (build : Build Library) (registry : Registry Library)
    (site : Site Memory) :
    (build.initDigests host config registry site).1.nids.Perm
      (build.algorithms.map Algorithm.nid) := by
  -- The report starts out empty, and each turn's outcome accounts for its algorithm.
  have own : Outcome.Own (build.outcomes host config build.algorithms
      { registry, site := site.note .registrationEntered }) := own_outcomes keeps build.algorithms
  have accounted := RegistrationReport.nids_enterAll own {}
  rw [algorithms_outcomes] at accounted
  obtain ⟨reported, _⟩ := initDigests_of_valid valid host build registry site
  rw [reported, progressAfter, report_advanceAll]
  exact accounted

/-- What becomes of an algorithm of the table is decided by its slot, the configuration and what construction comes to
at its turn; only a registration changes the slot. -/
theorem initDigests_turn {build : Build Library} {before later : List Algorithm}
    {algorithm : Algorithm} (split : build.algorithms = before ++ algorithm :: later)
    (registry : Registry Library) (site : Site Memory) :
    let done := build.initDigests host config registry site
    let turn := build.progressAfter host config registry site before
    let made := ((build.recipe algorithm).build host config.requiredKeys turn.site).1
    (algorithm.nid ∈ done.1.registered ↔
      config.wants (some algorithm) = true ∧ registry.slot algorithm = none ∧
        ∃ record, made = .ok record) ∧
    (∀ cause, (some algorithm, cause) ∈ done.1.failed ↔
      config.wants (some algorithm) = true ∧
        (made = .error cause ∨
          (∃ record, made = .ok record) ∧ (registry.slot algorithm).isSome = true ∧
            cause = .alreadyRegistered algorithm.nid)) ∧
    (∀ record, algorithm.nid ∈ done.1.registered → made = .ok record →
      done.2.1.slot algorithm = some record) ∧
    (algorithm.nid ∉ done.1.registered →
      done.2.1.slot algorithm = registry.slot algorithm) := by
  -- The report shows the outcome of its own turn, which the two equivalences on outcomes read.
  intro done turn made
  obtain ⟨shows, slot, final⟩ := initDigests_entry keeps valid split registry site
  have registered : algorithm.nid ∈ done.1.registered ↔
      config.wants (some algorithm) = true ∧ registry.slot algorithm = none ∧
        ∃ record, made = .ok record := by
    rw [← slot, ← exists_and_left, ← exists_and_left]
    exact shows.registered.trans (exists_congr fun _ => outcome_registered_iff keeps)
  refine ⟨registered, ?_, ?_, ?_⟩
  · -- The slot is at its turn as it was at the start.
    intro cause
    rw [← slot]
    exact (shows.failed cause).trans (outcome_failed_iff keeps)
  · intro record member built
    obtain ⟨asked, free, _⟩ := registered.mp member
    have outcome : build.outcome host config turn algorithm = .registered record :=
      (outcome_registered_iff keeps).mpr ⟨asked, slot.trans free, built⟩
    refine final.trans ?_
    rw [free, outcome]
    rfl
  · intro missing
    refine final.trans ?_
    -- Nothing was published that the slot could have been filled with.
    cases outcome : build.outcome host config turn algorithm with
    | registered record => exact absurd (shows.registered.mpr ⟨record, outcome⟩) missing
    | failed cause => exact Option.or_none
    | skipped => exact Option.or_none

end KeepsNid

/-- Whatever the host refuses and whatever is registered already: an unknown name has the configuration refused before
any call, and else each algorithm of the table is registered, failed or skipped. Over a host that keeps identifiers its
own turn, its slot and the configuration decide which, and no other slot changes. -/
theorem initDigests_accounts (host : Host Library Memory) (build : Build Library)
    (config : EngineConfig) (registry : Registry Library)
    (site : Site (Memory × HostLedger Library)) :
    let done := build.initDigests host.watched config registry site
    let report := done.1
    let after := done.2.1
    let ledger := done.2.2.memory.2
    ((∃ name ∈ config.digests.getD [], Algorithm.ofName? name = none) →
      done.2.2.memory = site.memory ∧ after = registry ∧
      -- The name that is reported is the first unknown one.
      ∃ known name rest, config.digests = some (known ++ name :: rest) ∧
        (∀ other ∈ known, (Algorithm.ofName? other).isSome = true) ∧
        Algorithm.ofName? name = none ∧
        report = { failed := [(none, .config ("unknown digest algorithm: " ++ name))] }) ∧
    ((∀ name ∈ config.digests.getD [], (Algorithm.ofName? name).isSome = true) →
      -- The three lists account for the table, and only what is not wanted is skipped.
      report.registered.length + report.failed.length + report.skipped.length =
        build.algorithms.length ∧
      (report.failed.map Prod.fst).Sublist (build.algorithms.map some) ∧
      report.skipped.Sublist build.algorithms ∧
      (∀ algorithm ∈ build.algorithms,
        (algorithm ∈ report.skipped ↔ config.wants (some algorithm) = false)) ∧
      (host.KeepsNid →
        -- What is registered is listed under the identifiers of the table, in its order.
        report.nids.Perm (build.algorithms.map Algorithm.nid) ∧
        report.registered.Sublist (build.algorithms.map Algorithm.nid) ∧
        (∃ calls, ledger.calls = site.memory.2.calls ++ calls ∧
          ∀ call ∈ calls, ∃ algorithm ∈ build.algorithms,
            config.wants (some algorithm) = true ∧ call.nid = algorithm.nid) ∧
        (∀ algorithm, build.includes algorithm = false →
          after.slot algorithm = registry.slot algorithm) ∧
        ∀ before algorithm later, build.algorithms = before ++ algorithm :: later →
          -- What construction comes to depends on how the turns before it have left the host.
          let turn := build.progressAfter host.watched config registry site before
          let made :=
            ((build.recipe algorithm).build host.watched config.requiredKeys turn.site).1
          (algorithm.nid ∈ report.registered ↔
            config.wants (some algorithm) = true ∧ registry.slot algorithm = none ∧
              ∃ record, made = .ok record) ∧
          (∀ cause, (some algorithm, cause) ∈ report.failed ↔
            config.wants (some algorithm) = true ∧
              (made = .error cause ∨
                (∃ record, made = .ok record) ∧ (registry.slot algorithm).isSome = true ∧
                  cause = .alreadyRegistered algorithm.nid)) ∧
          (∀ cause, made = .error cause →
            cause = .methodAllocation algorithm.nid ∨
              ∃ step, cause = .methodStep algorithm.nid step) ∧
          (∀ record, algorithm.nid ∈ report.registered → made = .ok record →
            after.slot algorithm = some record) ∧
          (algorithm.nid ∉ report.registered → after.slot algorithm = registry.slot algorithm))) := by
  intro done report after ledger
  refine ⟨fun unknown => initDigests_of_unknown unknown host.watched build registry site,
    fun known => ?_⟩
  -- Only the last part needs to know under which identifiers the host files its records.
  have valid := EngineConfig.validate_of_known known
  obtain ⟨total, failures, omissions, skipped⟩ :=
    initDigests_lists valid host.watched build registry site
  refine ⟨total, failures, omissions, skipped, fun keeps => ?_⟩
  obtain ⟨_, filled, _, left⟩ := initDigests_of_valid valid host.watched build registry site
  refine ⟨nids_initDigests keeps.watched valid build registry site,
    registered_sublist keeps.watched valid build registry site, ?_, ?_, ?_⟩
  · obtain ⟨calls, made, wanted⟩ := advanceAll_calls keeps build config build.algorithms
      { registry, site := site.note .registrationEntered }
    refine ⟨calls, ?_, wanted⟩
    -- The end of the loop is logged, and that is no call.
    simp only [ledger, done, left]
    exact made
  · intro algorithm missing
    have absent : algorithm ∉ build.algorithms := by simp [algorithms, missing]
    have same : after = _ := filled
    rw [same]
    exact slot_advanceAll_of_absent keeps.watched absent
  · intro before algorithm later split turn made
    obtain ⟨registered, failed, stored, kept⟩ :=
      initDigests_turn keeps.watched valid split registry site
    refine ⟨registered, failed, ?_, stored, kept⟩
    intro cause refused
    rw [← build.nid_recipe algorithm]
    exact Recipe.build_error refused

/-- With one setter refused for one algorithm, each of the three lists gets one of three algorithms. -/
theorem initDigests_accounts_one_of_each :
    let host : Host Unit Unit :=
      Host.stock.faulty { failStep := some .final, onlyNid := some Algorithm.sha384.nid }
    let build : Build Unit :=
      { includes := fun algorithm => algorithm = .sha256 ∨ algorithm = .sha384 ∨ algorithm = .sha512
        library := () }
    let config : EngineConfig := { digests := some [" sha-256", "SHA384"], pkeyNids := [6] }
    let done := build.initDigests host.watched config Registry.empty { memory := ((), {}) }
    host.KeepsNid ∧
      Algorithm.sha256.nid ∈ done.1.registered ∧
      (some .sha384, .methodStep Algorithm.sha384.nid .final) ∈ done.1.failed ∧
      .sha512 ∈ done.1.skipped ∧
      (done.2.1.slot .sha256).map Record.serial = some 0 ∧
      done.2.1.slot .sha384 = none := by
  intro host build config done
  have keeps : host.KeepsNid := Host.stock_keepsNid.faulty _
  have known : ∀ name ∈ config.digests.getD [], (Algorithm.ofName? name).isSome = true := by decide
  obtain ⟨_, _, _, skipped, kept⟩ :=
    (initDigests_accounts host build config Registry.empty { memory := ((), {}) }).2 known
  obtain ⟨_, _, _, _, entry⟩ := kept keeps
  obtain ⟨firstRegistered, _, _, firstFilled, _⟩ :=
    entry [] .sha256 [.sha384, .sha512] (by decide)
  obtain ⟨secondRegistered, secondFailed, _, _, secondKept⟩ :=
    entry [.sha256] .sha384 [.sha512] (by decide)
  have registered : Algorithm.sha256.nid ∈ done.1.registered :=
    firstRegistered.mpr ⟨by decide, rfl, _, rfl⟩
  have missing : Algorithm.sha384.nid ∉ done.1.registered := by
    intro member
    obtain ⟨_, _, record, made⟩ := secondRegistered.mp member
    cases made
  have filled : done.2.1.slot .sha256 = _ := firstFilled _ registered rfl
  refine ⟨keeps, registered, ?_, ?_, ?_, secondKept missing⟩
  · exact (secondFailed _).mpr ⟨by decide, .inl rfl⟩
  · exact (skipped .sha512 (by decide)).mpr (by decide)
  · rw [filled]
    rfl

/-- A setter may put a record under another identifier in the place of the one that was given out, and the algorithm is
then on none of the three lists. The second run shows a spelling that is accepted although it is no algorithm's name. -/
theorem initDigests_loses_swapped :
    let swapping : Host Unit Unit :=
      { Host.stock with
        apply := fun setting method memory =>
          match setting with
          | .init _ => (.success, setting.store (Method.empty Algorithm.sha384.nid none), memory)
          | _ => Host.stock.apply setting method memory }
    let build : Build Unit := { includes := fun algorithm => algorithm = .sha256, library := () }
    let full : Build Unit := { includes := fun _ => true, library := () }
    let site : Site (Unit × HostLedger Unit) := { memory := ((), {}) }
    let turn := build.progressAfter swapping.watched {} Registry.empty site []
    let done := build.initDigests swapping.watched {} Registry.empty site
    let spelled := full.initDigests (Host.stock : Host Unit Unit).watched
      { digests := some ["SHA-3-256"] } Registry.empty site
    -- Each record is given out under the identifier that was asked for.
    (∀ nid pkeyType memory method,
      (swapping.allocate nid pkeyType memory).1 = some method → method.nid = nid) ∧
      EngineConfig.wants {} (some .sha256) = true ∧
      (Registry.empty : Registry Unit).slot .sha256 = none ∧
      ((build.recipe .sha256).build swapping.watched [] turn.site).1.toBool = true ∧
      done.1 = { registered := [Algorithm.sha384.nid] } ∧
      done.2.1.slot .sha256 = none ∧
      spelled.1.registered = [Algorithm.sha3_256.nid] ∧ spelled.1.failed = [] := by
  intro swapping build full site turn done spelled
  refine ⟨?_, rfl, rfl, ?_, ?_, ?_, ?_, ?_⟩
  · intro nid pkeyType memory method given
    -- Records are given out by the stock host.
    obtain rfl := Option.some.inj given
    rfl
  · decide +kernel
  · decide +kernel
  · decide +kernel
  · decide +kernel
  · decide +kernel

end Build

end DigestProvider
