import DigestProvider.Proofs.Registry.Requested

/-!
The registration of one algorithm, on its own or by a configuration that names no other. Main statement: both make the
same host calls, leave the same registry and log the same outcome, and the report tells the result.
-/

namespace DigestProvider

/-- A record tells the outcome of registering an algorithm. -/
def LogRecord.isRegistration : LogRecord → Bool
  | registration .. => true
  | _ => false

section Logs

variable {Library Memory : Type}

/-- Construction does not read the log that it adds to, and reports no registration there. -/
theorem Recipe.build_behind_any_log (host : Host Library Memory) (recipe : Recipe Library)
    (pkeyNids : List Nid) (memory : Memory) (issued : Nat) :
    ∃ result after made told, (∀ record ∈ told, record.isRegistration = false) ∧
      ∀ log, recipe.build host pkeyNids { memory, issued, log } =
        (result, { memory := after, issued := made, log := log ++ told }) := by
  -- Each of the three ways out of construction adds records of its own.
  rcases given : host.allocate recipe.nid none memory with ⟨_ | method, kept⟩
  · exact ⟨.error (.methodAllocation recipe.nid), kept, issued, [.buildEntered recipe.nid],
      by simp [LogRecord.isRegistration], fun log => build_of_refused given⟩
  · rcases applied : host.applyAll (recipe.settings pkeyNids) method kept with
      ⟨_ | step, next, after⟩
    · refine ⟨.ok ⟨issued, next⟩, after, issued + 1, [.buildEntered recipe.nid, .buildLeft true],
        by simp [LogRecord.isRegistration], fun log => ?_⟩
      rw [build_of_accepted given applied, List.append_assoc, List.cons_append, List.nil_append]
    · refine ⟨.error (.methodStep recipe.nid step), host.release ⟨issued, next⟩ after, issued + 1,
        [.buildEntered recipe.nid, .partialReleased recipe.nid step, .buildLeft false],
        by simp [LogRecord.isRegistration], fun log => ?_⟩
      rw [build_of_abandoned given applied, List.append_assoc, List.append_assoc]
      rfl

/-- Registration does not read the log either, and publication adds nothing to it. -/
theorem Recipe.register_behind_any_log (host : Host Library Memory) (recipe : Recipe Library)
    (pkeyNids : List Nid) (registry : Registry Library) (memory : Memory) (issued : Nat) :
    ∃ result filed after made told, (∀ record ∈ told, record.isRegistration = false) ∧
      ∀ log, recipe.register host pkeyNids registry { memory, issued, log } =
        (result, filed, { memory := after, issued := made, log := log ++ told }) := by
  -- The record, if there is one, decides whether publication has the host take it back.
  obtain ⟨built, kept, made, told, quiet, ran⟩ :=
    build_behind_any_log host recipe pkeyNids memory issued
  unfold register
  cases built with
  | error cause =>
    refine ⟨.error cause, registry, kept, made, told, quiet, fun log => ?_⟩
    rw [ran log]
  | ok record =>
    cases known : Algorithm.ofNid? record.method.nid with
    | none =>
      refine ⟨.error (.unsupportedNid record.method.nid), registry, host.release record kept, made,
        told, quiet, fun log => ?_⟩
      rw [ran log]
      exact Registry.publish_of_unknown host known registry _
    | some algorithm =>
      cases held : registry.slot algorithm with
      | none =>
        refine ⟨.ok record, registry.offer record, kept, made, told, quiet, fun log => ?_⟩
        rw [ran log]
        exact Registry.publish_of_free host known held _
      | some earlier =>
        refine ⟨.error (.alreadyRegistered record.method.nid), registry, host.release record kept,
          made, told, quiet, fun log => ?_⟩
        rw [ran log]
        exact Registry.publish_of_taken host known held _

/-- The outcome is logged behind all that registration itself adds. -/
theorem Build.registerLogged_behind_any_log [DedicatedStates Library]
    (host : Host Library Memory) (build : Build Library) (algorithm : Algorithm)
    (pkeyNids : List Nid) (registry : Registry Library) (memory : Memory) (issued : Nat) :
    ∃ result filed after made told, (∀ record ∈ told, record.isRegistration = false) ∧
      ∀ log, build.registerLogged host algorithm pkeyNids registry { memory, issued, log } =
        (result, filed,
          { memory := after
            issued := made
            log := log ++ told ++
              [.registration algorithm.name algorithm.nid result.toBool] }) := by
  -- The one record more is that of the registration, which is a function of the answer.
  obtain ⟨result, filed, after, made, told, quiet, ran⟩ :=
    (build.recipe algorithm).register_behind_any_log host pkeyNids registry memory issued
  refine ⟨result, filed, after, made, told, quiet, fun log => ?_⟩
  rw [registerLogged, ran log]
  rfl

end Logs

namespace EngineConfig

variable {name : String} {algorithm : Algorithm}

/-- A configuration that names one algorithm wants that algorithm. -/
theorem wants_named (named : Algorithm.ofName? name = some algorithm) :
    wants { digests := some [name] } (some algorithm) = true :=
  -- Its list consists of that name.
  wants_of_named rfl List.mem_cons_self named

/-- It wants no other. -/
theorem not_wants_of_ne (named : Algorithm.ofName? name = some algorithm) {other : Algorithm}
    (apart : other ≠ algorithm) : wants { digests := some [name] } (some other) = false := by
  -- A name stands for one algorithm, and there is no other name on the list.
  rw [Bool.eq_false_iff]
  intro wanted
  obtain ⟨listed, member, also⟩ := (wants_iff_named rfl other).mp wanted
  obtain rfl := List.mem_singleton.mp member
  exact apart (Option.some.inj (also.symm.trans named))

/-- It is valid. -/
theorem validate_of_named (named : Algorithm.ofName? name = some algorithm) :
    validate { digests := some [name] } = .ok () := by
  -- Only a name that stands for no algorithm makes a list invalid.
  apply validate_of_known
  intro listed member
  obtain rfl := List.mem_singleton.mp member
  rw [named, Option.isSome_some]

end EngineConfig

section Turns

variable {Library Memory : Type}

/-- The report on an algorithm that alone was attempted. -/
def RegistrationReport.ofResult (algorithm : Algorithm) (skipped : List Algorithm)
    (result : Except DigestError (Record Library)) : RegistrationReport :=
  match result with
  | .ok record => { registered := [record.method.nid], skipped }
  | .error cause => { failed := [(some algorithm, cause)], skipped }

namespace Build

variable [DedicatedStates Library]

/-- The turns of algorithms that are not wanted do no more than list them. -/
theorem advanceAll_of_unwanted (host : Host Library Memory) (build : Build Library)
    {config : EngineConfig} {algorithms : List Algorithm}
    (unwanted : ∀ algorithm ∈ algorithms, config.wants (some algorithm) = false)
    (progress : Progress Library Memory) :
    algorithms.foldl (build.advance host config) progress =
      { progress with
        report := { progress.report with
          skipped := progress.report.skipped ++ algorithms } } := by
  -- The induction is on the algorithms; each makes the list of those skipped longer by itself.
  induction algorithms generalizing progress with
  | nil => simp
  | cons algorithm rest ih =>
    obtain ⟨now, later⟩ := List.forall_mem_cons.mp unwanted
    rw [List.foldl_cons, ih later]
    simp [advance, now]

/-- A configuration that wants one algorithm of the table registers it as it is registered on its own. -/
theorem initDigests_of_one (host : Host Library Memory) (build : Build Library)
    {config : EngineConfig} (valid : config.validate = .ok ()) {algorithm : Algorithm}
    (wanted : config.wants (some algorithm) = true)
    (others : ∀ other ≠ algorithm, config.wants (some other) = false)
    {before after : List Algorithm} (table : build.algorithms = before ++ algorithm :: after)
    (registry : Registry Library) (site : Site Memory) :
    let turn := build.registerLogged host algorithm config.requiredKeys registry
      (site.note .registrationEntered)
    let report := RegistrationReport.ofResult algorithm (before ++ after) turn.1
    build.initDigests host config registry site =
      (report, turn.2.1,
        turn.2.2.note (.registrationLeft report.registered.length report.failed.length)) := by
  intro turn report
  -- The table names the algorithm once, so nothing before or behind it is wanted.
  obtain ⟨notBefore, notAfter⟩ := absent_of_distinct (table ▸ build.algorithms_nodup)
  have early : ∀ other ∈ before, config.wants (some other) = false := fun other member =>
    others other (ne_of_mem_of_not_mem member notBefore)
  have late : ∀ other ∈ after, config.wants (some other) = false := fun other member =>
    others other (ne_of_mem_of_not_mem member notAfter)
  -- Before and after its own turn the others are listed as skipped.
  rw [initDigests, valid]
  dsimp only
  rw [table, List.foldl_append, List.foldl_cons, build.advanceAll_of_unwanted host early,
    build.advanceAll_of_unwanted host late, List.nil_append]
  simp only [advance, wanted, if_true, report, turn]
  -- The turn reports the record or the cause, which is what the short report is made from.
  rcases build.registerLogged host algorithm config.requiredKeys registry
    (site.note .registrationEntered) with ⟨cause | record, filed, left⟩
  · rfl
  · rfl

/-- A registration that succeeds found the algorithm's slot free, and is found there now. -/
theorem get?_of_registerLogged {host : Host Library Memory} (keeps : host.KeepsNid)
    {build : Build Library} {algorithm : Algorithm} {pkeyNids : List Nid}
    {registry : Registry Library} {site : Site Memory} {record : Record Library}
    (registered : (build.registerLogged host algorithm pkeyNids registry site).1 = .ok record) :
    record.method.nid = algorithm.nid ∧ registry.get? algorithm.nid = none ∧
      (build.registerLogged host algorithm pkeyNids registry site).2.1.get? algorithm.nid =
        some record := by
  obtain ⟨built, filed⟩ := Recipe.register_ok registered
  -- The host keeps the recipe's identifier, which is the algorithm's.
  have own : record.method.nid = algorithm.nid :=
    (Recipe.nid_of_build keeps built).trans (build.nid_recipe algorithm)
  refine ⟨own, ?_, own ▸ filed⟩
  -- With the slot taken the registration would have failed.
  have answer : ((build.recipe algorithm).register host pkeyNids registry site).1 = .ok record :=
    registered
  rw [Recipe.register_eq keeps (build.nid_recipe algorithm)] at answer
  rw [Registry.get?_nid]
  rcases ran : (build.recipe algorithm).build host pkeyNids site with ⟨outcome, after⟩
  rw [ran] at built answer
  obtain rfl : outcome = .ok record := built
  cases held : registry.slot algorithm with
  | none => rfl
  | some earlier =>
    simp only [held] at answer
    cases answer

/-- An algorithm of the build comes to the same on its own and by a configuration that names it alone. -/
theorem initMethod_alongside (host : Host Library Memory) {build : Build Library}
    {algorithm : Algorithm} (included : build.includes algorithm = true) {name : String}
    (named : Algorithm.ofName? name = some algorithm) (registry : Registry Library)
    (site : Site Memory) :
    ∃ result filed memory issued told skipped,
      (∀ record ∈ told, record.isRegistration = false) ∧
      build.initMethod host algorithm registry site =
        (result, filed,
          { memory
            issued
            log := site.log ++ told ++
              [.registration algorithm.name algorithm.nid result.toBool] }) ∧
      let report := RegistrationReport.ofResult algorithm skipped result
      build.initDigests host { digests := some [name] } registry site =
        (report, filed,
          { memory
            issued
            log := site.log ++ [.registrationEntered] ++ told ++
              [.registration algorithm.name algorithm.nid result.toBool] ++
              [.registrationLeft report.registered.length report.failed.length] }) := by
  have listed : algorithm ∈ build.algorithms :=
    List.mem_filter.mpr ⟨Algorithm.mem_all _, included⟩
  obtain ⟨before, after, table⟩ := List.append_of_mem listed
  -- Registration does the same behind either log.
  obtain ⟨result, filed, memory, issued, told, quiet, ran⟩ :=
    build.registerLogged_behind_any_log host algorithm [] registry site.memory site.issued
  refine ⟨result, filed, memory, issued, told, before ++ after, quiet, ?_, ?_⟩
  · -- On its own, the algorithm passes the check for being compiled in, and registration is all that is left.
    exact (if_pos included).trans (ran site.log)
  · -- In the loop, the record of its start stands in the log already, and no key types are asked for.
    have turn : build.registerLogged host algorithm [] registry (site.note .registrationEntered) = _ :=
      ran (site.log ++ [LogRecord.registrationEntered])
    have loop := build.initDigests_of_one host (EngineConfig.validate_of_named named)
      (EngineConfig.wants_named named) (fun _ apart => EngineConfig.not_wants_of_ne named apart)
      table registry site
    simp only [EngineConfig.requiredKeys, List.map_nil, turn] at loop
    rw [loop]
    rfl

/-- An algorithm of the build registered on its own, and by a configuration whose list is one of its spellings, over a
host that keeps identifiers: the host receives the same calls, the registry is left the same, and the same outcome is
logged, in the latter case between the two records of the loop. The report lists the algorithm as registered just where
a record was newly published, which is the one answered, and lists just the error that was answered otherwise. -/
theorem initMethod_agrees {host : Host Library Memory} (keeps : host.KeepsNid)
    {build : Build Library} {algorithm : Algorithm} (included : build.includes algorithm = true)
    {name : String} (named : Algorithm.ofName? name = some algorithm) (registry : Registry Library)
    (site : Site (Memory × HostLedger Library)) :
    let one := build.initMethod host.watched algorithm registry site
    let loop := build.initDigests host.watched { digests := some [name] } registry site
    let report := loop.1
    -- The ledger of calls is part of the memory.
    loop.2.2.memory = one.2.2.memory ∧ loop.2.2.issued = one.2.2.issued ∧
      loop.2.1 = one.2.1 ∧
      (∃ told, (∀ record ∈ told, record.isRegistration = false) ∧
        let registration := LogRecord.registration algorithm.name algorithm.nid one.1.toBool
        let left := LogRecord.registrationLeft report.registered.length report.failed.length
        one.2.2.log = site.log ++ told ++ [registration] ∧
        loop.2.2.log = site.log ++ [.registrationEntered] ++ told ++ [registration] ++ [left]) ∧
      (∀ record, one.1 = .ok record →
        registry.get? algorithm.nid = none ∧ record.method.nid = algorithm.nid) ∧
      (∀ record, one.1 = .ok record ↔
        report.registered = [algorithm.nid] ∧ report.failed = [] ∧
          loop.2.1.get? algorithm.nid = some record) ∧
      ∀ cause, one.1 = .error cause ↔
        report.failed = [(some algorithm, cause)] ∧ report.registered = [] := by
  intro one loop report
  obtain ⟨result, filed, memory, issued, told, skipped, quiet, alone, among⟩ :=
    initMethod_alongside host.watched included named registry site
  -- A record that is answered was newly published, which the report of the loop has to show.
  have published : ∀ record, result = .ok record →
      record.method.nid = algorithm.nid ∧ registry.get? algorithm.nid = none ∧
        filed.get? algorithm.nid = some record := by
    rintro record rfl
    have registered : build.registerLogged host.watched algorithm [] registry site = _ :=
      (if_pos included).symm.trans alone
    have found := get?_of_registerLogged keeps.watched (congrArg Prod.fst registered)
    rwa [registered] at found
  have answered : one = _ := alone
  have looped : loop = _ := among
  have reported : report = RegistrationReport.ofResult algorithm skipped result :=
    congrArg Prod.fst among
  rw [answered, looped, reported]
  refine ⟨rfl, rfl, rfl, ⟨told, quiet, rfl, rfl⟩, ?_, ?_, ?_⟩
  · intro record made
    obtain ⟨own, free, _⟩ := published record made
    exact ⟨free, own⟩
  · intro record
    constructor
    · rintro (rfl : result = .ok record)
      obtain ⟨own, _, found⟩ := published record rfl
      exact ⟨congrArg (fun nid => [nid]) own, rfl, found⟩
    · rintro ⟨listed, _, found⟩
      cases result with
      -- The slot holds one record, so the one that was made is the one found there.
      | ok made =>
        obtain ⟨_, _, also⟩ := published made rfl
        exact congrArg Except.ok (Option.some.inj (also.symm.trans found))
      | error cause => cases listed
  · intro cause
    constructor
    · rintro (rfl : result = .error cause)
      exact ⟨rfl, rfl⟩
    · rintro ⟨listed, _⟩
      cases result with
      | ok made => cases listed
      | error other =>
        cases listed
        rfl

/-- A host that refuses a setter of one algorithm's record does so either way, and the algorithm is reported as failed by
the configuration that names it in another spelling. -/
theorem initMethod_agrees_refused :
    let host : Host Unit Unit :=
      Host.stock.faulty { failStep := some .final, onlyNid := some Algorithm.sha384.nid }
    let build : Build Unit := { includes := fun _ => true, sha256Path := .direct, library := () }
    let start : Site (Unit × HostLedger Unit) := { memory := ((), {}) }
    let one := build.initMethod host.watched .sha384 Registry.empty start
    let loop := build.initDigests host.watched { digests := some ["\tsha-384 "] } Registry.empty start
    let cause := DigestError.methodStep Algorithm.sha384.nid .final
    loop.2.2.memory.2.calls = one.2.2.memory.2.calls ∧ one.1 = .error cause ∧
      loop.1.failed = [(some .sha384, cause)] ∧ loop.1.registered = [] := by
  intro host build start one loop cause
  have keeps : host.KeepsNid := Host.stock_keepsNid.faulty _
  have named : Algorithm.ofName? "\tsha-384 " = some .sha384 := by decide
  have refused : one.1 = .error cause := rfl
  obtain ⟨memory, _, _, _, _, _, failures⟩ :=
    initMethod_agrees keeps (rfl : build.includes .sha384 = true) named Registry.empty start
  exact ⟨congrArg (·.2.calls) memory, refused, (failures cause).mp refused⟩

end Build

end Turns

end DigestProvider
