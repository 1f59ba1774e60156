import DigestProvider.Proofs.Method.Ledger
import DigestProvider.Proofs.Registry.Usable

/-!
Registration of a table of algorithms, one outcome for each. Main statements: the report is made up of the outcomes
in table order, and over a host that keeps identifiers an algorithm's slot is touched by its own turn alone.
-/

namespace DigestProvider

/-- In a list without repetitions an item occurs neither before nor after itself. -/
theorem absent_of_distinct {Item : Type} {before after : List Item} {item : Item}
    (distinct : (before ++ item :: after).Nodup) : item ∉ before ∧ item ∉ after := by
  -- The item can be moved to the front, where it differs from all the others.
  have first : (item :: (before ++ after)).Nodup := List.perm_middle.nodup_iff.mp distinct
  simpa using (List.nodup_cons.mp first).1

/-- What becomes of an algorithm when registration takes it up. -/
inductive Outcome (Library : Type) where
  /-- This record was published for it. -/
  | registered (record : Record Library)
  /-- No record was, for this cause. -/
  | failed (cause : DigestError)
  /-- It was not wanted. -/
  | skipped

namespace Outcome

variable {Library : Type}

/-- The record that was published, if any. -/
def record? : Outcome Library → Option (Record Library)
  | registered record => some record
  | failed _ | skipped => none

/-- The cause of a failure. -/
def cause? : Outcome Library → Option DigestError
  | failed cause => some cause
  | registered _ | skipped => none

/-- Whether the algorithm was passed over. -/
def isSkipped : Outcome Library → Bool
  | skipped => true
  | registered _ | failed _ => false

/-- The records published by outcomes, in order. -/
def records (entries : List (Algorithm × Outcome Library)) : List (Record Library) :=
  entries.filterMap fun entry => entry.2.record?

/-- The failures among outcomes, in order. -/
def failures (entries : List (Algorithm × Outcome Library)) : List (Tag × DigestError) :=
  entries.filterMap fun entry => entry.2.cause?.map fun cause => (some entry.1, cause)

/-- The algorithms skipped by outcomes, in order. -/
def omissions (entries : List (Algorithm × Outcome Library)) : List Algorithm :=
  (entries.filter fun entry => entry.2.isSkipped).map Prod.fst

/-- Each record published bears the identifier of the algorithm that it was published for. -/
def Own (entries : List (Algorithm × Outcome Library)) : Prop :=
  ∀ entry ∈ entries, ∀ record ∈ entry.2.record?, record.method.nid = entry.1.nid

/-- An algorithm's identifier is among those of the records exactly if a record was published for it. -/
theorem mem_records_iff {entries : List (Algorithm × Outcome Library)} (own : Own entries)
    {algorithm : Algorithm} :
    algorithm.nid ∈ (records entries).map (·.method.nid) ↔
      ∃ record, (algorithm, registered record) ∈ entries := by
  constructor
  · intro member
    obtain ⟨record, published, named⟩ := List.mem_map.mp member
    obtain ⟨⟨other, outcome⟩, present, recorded⟩ := List.mem_filterMap.mp published
    -- The record is its own algorithm's, and no other has the same identifier.
    have same : other = algorithm :=
      Algorithm.nid_injective ((own _ present record recorded).symm.trans named)
    cases outcome with
    | registered made => exact ⟨made, same ▸ present⟩
    | failed cause => cases recorded
    | skipped => cases recorded
  · rintro ⟨record, present⟩
    have published : record ∈ records entries :=
      List.mem_filterMap.mpr ⟨(algorithm, registered record), present, rfl⟩
    exact List.mem_map.mpr ⟨record, published, own _ present record rfl⟩

/-- An algorithm is among the failures exactly if it failed. -/
theorem mem_failures_iff {entries : List (Algorithm × Outcome Library)} {algorithm : Algorithm}
    {cause : DigestError} :
    (some algorithm, cause) ∈ failures entries ↔ (algorithm, failed cause) ∈ entries := by
  -- A failure entered under the algorithm can only have come from its own entry.
  constructor
  · intro member
    obtain ⟨⟨other, outcome⟩, present, recorded⟩ := List.mem_filterMap.mp member
    cases outcome with
    | registered record => cases recorded
    | failed other =>
      cases recorded
      exact present
    | skipped => cases recorded
  · intro present
    exact List.mem_filterMap.mpr ⟨(algorithm, failed cause), present, rfl⟩

/-- An algorithm is among those skipped exactly if it was. -/
theorem mem_omissions_iff {entries : List (Algorithm × Outcome Library)} {algorithm : Algorithm} :
    algorithm ∈ omissions entries ↔ (algorithm, skipped) ∈ entries := by
  -- Only entries that were skipped pass the filter.
  constructor
  · intro member
    obtain ⟨⟨other, outcome⟩, kept, rfl⟩ := List.mem_map.mp member
    obtain ⟨present, passed⟩ := List.mem_filter.mp kept
    cases outcome with
    | registered record => cases passed
    | failed cause => cases passed
    | skipped => exact present
  · intro present
    exact List.mem_map.mpr ⟨_, List.mem_filter.mpr ⟨present, rfl⟩, rfl⟩

/-- Failures stand in the order of their algorithms. -/
theorem failures_sublist (entries : List (Algorithm × Outcome Library)) :
    ((failures entries).map Prod.fst).Sublist ((entries.map Prod.fst).map some) := by
  -- Each entry adds one failure or none to those behind it.
  induction entries with
  | nil => exact List.Sublist.refl _
  | cons entry rest ih =>
    obtain ⟨algorithm, record | cause | _⟩ := entry
    · exact ih.cons _
    · exact ih.cons_cons _
    · exact ih.cons _

/-- Records stand in the order of the algorithms that they were published for. -/
theorem records_sublist {entries : List (Algorithm × Outcome Library)} (own : Own entries) :
    ((records entries).map (·.method.nid)).Sublist ((entries.map Prod.fst).map Algorithm.nid) := by
  -- Each entry adds its algorithm's identifier or none to those behind it.
  induction entries with
  | nil => exact List.Sublist.refl _
  | cons entry rest ih =>
    obtain ⟨now, later⟩ := List.forall_mem_cons.mp own
    obtain ⟨algorithm, record | cause | _⟩ := entry
    · have named : record.method.nid = algorithm.nid := now record rfl
      have both := (ih later).cons_cons algorithm.nid
      rw [← named] at both
      simpa [records, Outcome.record?, named] using both
    · exact (ih later).cons _
    · exact (ih later).cons _

/-- Each outcome is on one of the three lists. -/
theorem length_lists (entries : List (Algorithm × Outcome Library)) :
    (records entries).length + (failures entries).length + (omissions entries).length =
      entries.length := by
  -- An entry makes one of the lists longer by one.
  induction entries with
  | nil => rfl
  | cons entry rest ih =>
    obtain ⟨algorithm, record | cause | _⟩ := entry
    · change (records rest).length + 1 + (failures rest).length + (omissions rest).length =
        rest.length + 1
      omega
    · change (records rest).length + ((failures rest).length + 1) + (omissions rest).length =
        rest.length + 1
      omega
    · change (records rest).length + (failures rest).length + ((omissions rest).length + 1) =
        rest.length + 1
      omega

end Outcome

namespace RegistrationReport

variable {Library : Type}

/-- The report of a registration to which one more outcome is added. -/
def enter (report : RegistrationReport) (entry : Algorithm × Outcome Library) :
    RegistrationReport :=
  match entry with
  | (_, .registered record) =>
    -- The identifier reported is the record's own.
    { report with registered := report.registered ++ [record.method.nid] }
  | (algorithm, .failed cause) =>
    { report with failed := report.failed ++ [(some algorithm, cause)] }
  | (algorithm, .skipped) => { report with skipped := report.skipped ++ [algorithm] }

/-- Outcomes are added to the list of their kind in order. -/
theorem enterAll_eq (entries : List (Algorithm × Outcome Library)) (report : RegistrationReport) :
    entries.foldl enter report =
      { registered := report.registered ++ (Outcome.records entries).map (·.method.nid)
        failed := report.failed ++ Outcome.failures entries
        skipped := report.skipped ++ Outcome.omissions entries } := by
  -- The three lists grow at their ends.
  induction entries generalizing report with
  | nil => simp [Outcome.records, Outcome.failures, Outcome.omissions]
  | cons entry rest ih =>
    obtain ⟨algorithm, record | cause | _⟩ := entry <;>
      simp [ih, enter, Outcome.records, Outcome.failures, Outcome.omissions, Outcome.record?,
        Outcome.cause?, Outcome.isSkipped]

/-- A report says of an algorithm that it came to an outcome, and to no other. -/
structure Shows (report : RegistrationReport) (algorithm : Algorithm) (outcome : Outcome Library) :
    Prop where
  /-- Its identifier is listed if a record was published. -/
  registered : algorithm.nid ∈ report.registered ↔ ∃ record, outcome = .registered record
  /-- It is listed with the cause of its failure. -/
  failed : ∀ cause, (some algorithm, cause) ∈ report.failed ↔ outcome = .failed cause
  /-- It is listed if it was passed over. -/
  skipped : algorithm ∈ report.skipped ↔ outcome = .skipped

/-- The identifiers of all the algorithms that a report accounts for. -/
def nids (report : RegistrationReport) : List Nid :=
  report.registered ++ report.failed.map (Tag.nid ∘ Prod.fst) ++
    report.skipped.map Algorithm.nid

/-- An outcome accounts for its algorithm, whichever list it is added to. -/
theorem nids_enter {algorithm : Algorithm} {outcome : Outcome Library}
    (own : ∀ record ∈ outcome.record?, record.method.nid = algorithm.nid)
    (report : RegistrationReport) :
    (report.enter (algorithm, outcome)).nids.Perm (algorithm.nid :: report.nids) := by
  -- The identifier is put at the end of one of three lists that stand one behind the other.
  cases outcome with
  | registered record =>
    have named : record.method.nid = algorithm.nid := own record rfl
    simp only [enter, nids, named, List.append_assoc]
    exact List.perm_middle
  | failed cause =>
    have moved : ((report.registered ++ report.failed.map (Tag.nid ∘ Prod.fst)) ++
        algorithm.nid :: report.skipped.map Algorithm.nid).Perm _ := List.perm_middle
    simp only [enter, nids, List.map_append, List.append_assoc] at moved ⊢
    exact moved
  | skipped =>
    simp only [enter, nids, List.map_append]
    rw [← List.append_assoc]
    exact List.perm_append_singleton _ _

/-- Each algorithm is accounted for once. -/
theorem nids_enterAll {entries : List (Algorithm × Outcome Library)} (own : Outcome.Own entries)
    (report : RegistrationReport) :
    (entries.foldl enter report).nids.Perm
      (report.nids ++ (entries.map Prod.fst).map Algorithm.nid) := by
  -- The induction is on the entries, each of which accounts for one more algorithm.
  induction entries generalizing report with
  | nil => simp
  | cons entry rest ih =>
    obtain ⟨now, later⟩ := List.forall_mem_cons.mp own
    refine (ih later (report.enter entry)).trans ?_
    exact ((nids_enter now report).append_right _).trans List.perm_middle.symm

end RegistrationReport

section Registration

variable {Library Memory : Type} {host : Host Library Memory}

/-- The registration of a recipe for an algorithm, over a host that keeps identifiers, by what construction came to. -/
theorem Recipe.register_eq (keeps : host.KeepsNid) {recipe : Recipe Library} {algorithm : Algorithm}
    (own : recipe.nid = algorithm.nid) (pkeyNids : List Nid) (registry : Registry Library)
    (site : Site Memory) :
    recipe.register host pkeyNids registry site =
      match recipe.build host pkeyNids site with
      | (.error cause, after) => (.error cause, registry, after)
      | (.ok record, after) =>
        match registry.slot algorithm with
        | none => (.ok record, registry.offer record, after)
        | some _ =>
          (.error (.alreadyRegistered algorithm.nid), registry, after.release host record) := by
  -- A failed construction leaves nothing to publish.
  unfold register
  rcases built : recipe.build host pkeyNids site with ⟨cause | record, after⟩
  · rfl
  · -- The slot that publication looks for is the algorithm's.
    have named : record.method.nid = algorithm.nid :=
      (nid_of_build keeps (by rw [built])).trans own
    have known : Algorithm.ofNid? record.method.nid = some algorithm := by rw [named]; simp
    dsimp only
    cases held : registry.slot algorithm with
    | none => exact Registry.publish_of_free host known held after
    | some earlier => rw [Registry.publish_of_taken host known held, named]

namespace Build

variable [DedicatedStates Library]

/-- What becomes of an algorithm at its turn. -/
def outcome (host : Host Library Memory) (build : Build Library) (config : EngineConfig)
    (progress : Progress Library Memory) (algorithm : Algorithm) : Outcome Library :=
  if config.wants (some algorithm) then
    match ((build.recipe algorithm).register host config.requiredKeys progress.registry
      progress.site).1 with
    | .ok record => .registered record
    | .error cause => .failed cause
  else .skipped

/-- What becomes of algorithms one after another. -/
def outcomes (host : Host Library Memory) (build : Build Library) (config : EngineConfig) :
    List Algorithm → Progress Library Memory → List (Algorithm × Outcome Library)
  | [], _ => []
  -- Each turn starts where the one before it ended.
  | algorithm :: rest, progress =>
    (algorithm, build.outcome host config progress algorithm) ::
      build.outcomes host config rest (build.advance host config progress algorithm)

variable {build : Build Library} {config : EngineConfig}

/-- A turn adds its outcome to the report. -/
theorem report_advance (host : Host Library Memory) (build : Build Library) (config : EngineConfig)
    (progress : Progress Library Memory) (algorithm : Algorithm) :
    (build.advance host config progress algorithm).report =
      progress.report.enter (algorithm, build.outcome host config progress algorithm) := by
  unfold advance outcome
  by_cases wanted : config.wants (some algorithm) = true
  · simp only [wanted, if_true, registerLogged]
    -- The answer decides both what is reported and what the outcome is.
    cases ((build.recipe algorithm).register host config.requiredKeys progress.registry
      progress.site).1 with
    | ok record => rfl
    | error cause => rfl
  · -- What is not wanted is listed as skipped.
    simp only [wanted, Bool.false_eq_true, if_false]
    rfl

/-- The report of all turns is made up of their outcomes in order. -/
theorem report_advanceAll (host : Host Library Memory) (build : Build Library)
    (config : EngineConfig) (algorithms : List Algorithm) (progress : Progress Library Memory) :
    (algorithms.foldl (build.advance host config) progress).report =
      (build.outcomes host config algorithms progress).foldl RegistrationReport.enter
        progress.report := by
  -- The induction is on the turns, with the report so far generalised.
  induction algorithms generalizing progress with
  | nil => rfl
  | cons algorithm rest ih => rw [List.foldl_cons, ih, report_advance, outcomes, List.foldl_cons]

/-- The outcomes of two tables in a row are those of the first and then those of the second. -/
theorem outcomes_append (host : Host Library Memory) (build : Build Library) (config : EngineConfig)
    (first second : List Algorithm) (progress : Progress Library Memory) :
    build.outcomes host config (first ++ second) progress =
      build.outcomes host config first progress ++
        build.outcomes host config second (first.foldl (build.advance host config) progress) := by
  -- The second table starts where the turns of the first have ended.
  induction first generalizing progress with
  | nil => rfl
  | cons algorithm rest ih =>
    rw [List.cons_append, outcomes, ih, outcomes, List.foldl_cons, List.cons_append]

/-- There is one outcome for each algorithm. -/
theorem algorithms_outcomes (host : Host Library Memory) (build : Build Library)
    (config : EngineConfig) (algorithms : List Algorithm) (progress : Progress Library Memory) :
    (build.outcomes host config algorithms progress).map Prod.fst = algorithms := by
  induction algorithms generalizing progress with
  | nil => rfl
  | cons algorithm rest ih => rw [outcomes, List.map_cons, ih]

/-- In a table without repetitions an algorithm has the outcome of its own turn, and no other. -/
theorem mem_outcomes_iff {before after : List Algorithm} {algorithm : Algorithm}
    (distinct : (before ++ algorithm :: after).Nodup) (progress : Progress Library Memory)
    (outcome : Outcome Library) :
    (algorithm, outcome) ∈ build.outcomes host config (before ++ algorithm :: after) progress ↔
      outcome = build.outcome host config
        (before.foldl (build.advance host config) progress) algorithm := by
  -- Elsewhere in the table the algorithm does not occur.
  have elsewhere : ∀ (table : List Algorithm) (start : Progress Library Memory),
      algorithm ∉ table → (algorithm, outcome) ∉ build.outcomes host config table start := by
    intro table start absent member
    apply absent
    rw [← algorithms_outcomes host build config table start]
    exact List.mem_map_of_mem (f := Prod.fst) member
  obtain ⟨notBefore, notAfter⟩ := absent_of_distinct distinct
  rw [outcomes_append, List.mem_append, outcomes, List.mem_cons]
  constructor
  · rintro (earlier | now | later)
    · exact absurd earlier (elsewhere before progress notBefore)
    · exact (Prod.mk.inj now).2
    · exact absurd later (elsewhere after _ notAfter)
  · rintro rfl
    exact .inr (.inl rfl)

/-- An algorithm is skipped exactly if it is not wanted. -/
theorem outcome_skipped_iff {progress : Progress Library Memory} {algorithm : Algorithm} :
    build.outcome host config progress algorithm = .skipped ↔
      config.wants (some algorithm) = false := by
  unfold outcome
  by_cases wanted : config.wants (some algorithm) = true
  · simp only [wanted, if_true, Bool.true_eq_false, iff_false]
    -- Whatever registration answers, it was tried.
    cases ((build.recipe algorithm).register host config.requiredKeys progress.registry
      progress.site).1 with
    | ok record => exact fun impossible => nomatch impossible
    | error cause => exact fun impossible => nomatch impossible
  · simp [wanted]

/-- The turn of an algorithm that is wanted is the registration of its recipe. -/
theorem advance_of_wanted {config : EngineConfig} {algorithm : Algorithm}
    (wanted : config.wants (some algorithm) = true) (host : Host Library Memory)
    (build : Build Library) (progress : Progress Library Memory) :
    let done := (build.recipe algorithm).register host config.requiredKeys progress.registry
      progress.site
    (build.advance host config progress algorithm).registry = done.2.1 ∧
      (∃ record, (build.advance host config progress algorithm).site = done.2.2.note record) ∧
      (build.outcome host config progress algorithm).record? = done.1.toOption := by
  unfold advance outcome
  simp only [wanted, if_true, registerLogged]
  -- The answer decides what is reported and logged, and nothing else.
  rcases (build.recipe algorithm).register host config.requiredKeys progress.registry
    progress.site with ⟨cause | record, registry, site⟩
  · exact ⟨rfl, ⟨_, rfl⟩, rfl⟩
  · exact ⟨rfl, ⟨_, rfl⟩, rfl⟩

/-- The turn of an algorithm that is not wanted leaves the registry and the site alone. -/
theorem advance_of_unwanted {algorithm : Algorithm}
    (unwanted : config.wants (some algorithm) = false) (host : Host Library Memory)
    (build : Build Library) (progress : Progress Library Memory) :
    (build.advance host config progress algorithm).registry = progress.registry ∧
      (build.advance host config progress algorithm).site = progress.site := by
  simp [advance, unwanted]

section KeepsNid

variable (keeps : host.KeepsNid) {progress : Progress Library Memory} {algorithm : Algorithm}
include keeps

/-- An algorithm is registered exactly if it is wanted, its slot is free and construction succeeds. -/
theorem outcome_registered_iff {record : Record Library} :
    build.outcome host config progress algorithm = .registered record ↔
      config.wants (some algorithm) = true ∧ progress.registry.slot algorithm = none ∧
        ((build.recipe algorithm).build host config.requiredKeys progress.site).1 = .ok record := by
  -- Registration is construction, and then a look at the slot.
  unfold outcome
  by_cases wanted : config.wants (some algorithm) = true
  · rw [if_pos wanted, Recipe.register_eq keeps (build.nid_recipe algorithm)]
    simp only [wanted, true_and]
    rcases (build.recipe algorithm).build host config.requiredKeys progress.site with
      ⟨cause | made, after⟩
    · simp
    · cases progress.registry.slot algorithm with
      | none => simp
      | some earlier => simp
  · simp [wanted]

/-- An algorithm fails exactly if it is wanted and construction fails, or succeeds for a slot that is taken. -/
theorem outcome_failed_iff {cause : DigestError} :
    build.outcome host config progress algorithm = .failed cause ↔
      config.wants (some algorithm) = true ∧
        (((build.recipe algorithm).build host config.requiredKeys progress.site).1 =
            .error cause ∨
          (∃ record, ((build.recipe algorithm).build host config.requiredKeys progress.site).1 =
              .ok record) ∧
            (progress.registry.slot algorithm).isSome = true ∧
            cause = .alreadyRegistered algorithm.nid) := by
  -- Registration is construction, and then a look at the slot.
  unfold outcome
  by_cases wanted : config.wants (some algorithm) = true
  · rw [if_pos wanted, Recipe.register_eq keeps (build.nid_recipe algorithm)]
    simp only [wanted, true_and]
    rcases (build.recipe algorithm).build host config.requiredKeys progress.site with
      ⟨failure | made, after⟩
    · simp
    · cases progress.registry.slot algorithm with
      | none => simp
      | some earlier => simp [eq_comm]
  · simp [wanted]

/-- A turn fills the algorithm's own slot with the record that it registers, and leaves any other slot alone. -/
theorem slot_advance (other : Algorithm) :
    (build.advance host config progress algorithm).registry.slot other =
      if other = algorithm then
        (progress.registry.slot algorithm).or
          (build.outcome host config progress algorithm).record?
      else progress.registry.slot other := by
  -- The slot is offered what the turn has made, if it made anything.
  by_cases wanted : config.wants (some algorithm) = true
  · unfold advance outcome
    simp only [wanted, if_true, registerLogged]
    rw [Recipe.register_eq keeps (build.nid_recipe algorithm)]
    rcases built : (build.recipe algorithm).build host config.requiredKeys progress.site with
      ⟨failure | made, after⟩
    · -- Nothing was made that could be published.
      by_cases own : other = algorithm <;> simp [own, Outcome.record?]
    · -- The record that was made is offered under the algorithm's identifier.
      have named : made.method.nid = algorithm.nid :=
        (Recipe.nid_of_build keeps (by rw [built])).trans (build.nid_recipe algorithm)
      cases held : progress.registry.slot algorithm with
      | none =>
        by_cases own : other = algorithm
        · simp [own, Outcome.record?, Registry.slot_offer, named, held]
        · have apart : made.method.nid ≠ other.nid := fun same =>
            own (Algorithm.nid_injective (named.symm.trans same)).symm
          simp [own, Registry.slot_offer, apart]
      | some earlier => by_cases own : other = algorithm <;> simp [own, Outcome.record?, held]
  · rw [(advance_of_unwanted (by simpa using wanted) host build progress).1,
      outcome_skipped_iff.mpr (by simpa using wanted)]
    by_cases own : other = algorithm <;> simp [own, Outcome.record?]

/-- The turns of other algorithms leave a slot alone. -/
theorem slot_advanceAll_of_absent {algorithms : List Algorithm} (absent : algorithm ∉ algorithms) :
    (algorithms.foldl (build.advance host config) progress).registry.slot algorithm =
      progress.registry.slot algorithm := by
  -- The induction is on the turns, each of which is that of another algorithm.
  induction algorithms generalizing progress with
  | nil => rfl
  | cons other rest ih =>
    obtain ⟨apart, missing⟩ := not_or.mp (mt List.mem_cons.mpr absent)
    rw [List.foldl_cons, ih missing, slot_advance keeps, if_neg apart]

/-- In a table without repetitions, what fills a slot is the outcome of its algorithm's own turn. -/
theorem slot_advanceAll {before after : List Algorithm}
    (distinct : (before ++ algorithm :: after).Nodup) :
    ((before ++ algorithm :: after).foldl (build.advance host config) progress).registry.slot
        algorithm =
      (progress.registry.slot algorithm).or
        (build.outcome host config (before.foldl (build.advance host config) progress)
          algorithm).record? := by
  -- The turns before and behind are those of other algorithms.
  obtain ⟨notBefore, notAfter⟩ := absent_of_distinct distinct
  rw [List.foldl_append, List.foldl_cons, slot_advanceAll_of_absent keeps notAfter,
    slot_advance keeps, if_pos rfl, slot_advanceAll_of_absent keeps notBefore]

/-- A record that is registered bears the algorithm's identifier. -/
theorem nid_of_registered {record : Record Library}
    (registered : build.outcome host config progress algorithm = .registered record) :
    record.method.nid = algorithm.nid := by
  -- What is registered was constructed by the algorithm's recipe.
  obtain ⟨_, _, built⟩ := (outcome_registered_iff keeps).mp registered
  rw [Recipe.nid_of_build keeps built, build.nid_recipe]

/-- The records of a table bear the identifiers of their algorithms. -/
theorem own_outcomes (algorithms : List Algorithm) :
    Outcome.Own (build.outcomes host config algorithms progress) := by
  -- Only a registered outcome has a record to ask about.
  induction algorithms generalizing progress with
  | nil => exact fun _ member => nomatch member
  | cons algorithm rest ih =>
    refine List.forall_mem_cons.mpr ⟨?_, ih⟩
    intro record published
    cases outcome : build.outcome host config progress algorithm with
    | registered made =>
      rw [outcome] at published
      obtain rfl : made = record := Option.some.inj published
      exact nid_of_registered keeps outcome
    | failed cause =>
      rw [outcome] at published
      cases published
    | skipped =>
      rw [outcome] at published
      cases published

end KeepsNid

omit [DedicatedStates Library] in
/-- No algorithm is compiled in twice. -/
theorem algorithms_nodup (build : Build Library) : build.algorithms.Nodup := by
  -- The table of a build is cut out of that of all algorithms.
  have distinct : Algorithm.all.Nodup := by decide
  exact distinct.sublist List.filter_sublist

omit [DedicatedStates Library] in
/-- No two algorithms that are compiled in share an identifier. -/
theorem nids_nodup (build : Build Library) : (build.algorithms.map Algorithm.nid).Nodup :=
  List.Pairwise.map Algorithm.nid (fun _ _ apart same => apart (Algorithm.nid_injective same))
    build.algorithms_nodup

/-- How far registration has come when these algorithms have had their turns. -/
def progressAfter (host : Host Library Memory) (build : Build Library) (config : EngineConfig)
    (registry : Registry Library) (site : Site Memory) (algorithms : List Algorithm) :
    Progress Library Memory :=
  algorithms.foldl (build.advance host config)
    { registry, site := site.note .registrationEntered }

/-- An algorithm of the build's own table has the outcome of its turn, and no other. -/
theorem mem_table_outcomes_iff {before after : List Algorithm} {algorithm : Algorithm}
    (table : build.algorithms = before ++ algorithm :: after) (registry : Registry Library)
    (site : Site Memory) {outcome : Outcome Library} :
    (algorithm, outcome) ∈ build.outcomes host config build.algorithms
        { registry, site := site.note .registrationEntered } ↔
      outcome = build.outcome host config
        (build.progressAfter host config registry site before) algorithm := by
  -- The table names the algorithm once.
  have distinct : (before ++ algorithm :: after).Nodup := table ▸ build.algorithms_nodup
  rw [table]
  exact mem_outcomes_iff distinct _ outcome

/-- A valid configuration has every algorithm of the table take its turn. -/
theorem initDigests_of_valid (valid : config.validate = .ok ()) (host : Host Library Memory)
    (build : Build Library) (registry : Registry Library) (site : Site Memory) :
    let reached := build.progressAfter host config registry site build.algorithms
    let done := build.initDigests host config registry site
    done.1 = reached.report ∧ done.2.1 = reached.registry ∧
      ∃ record, done.2.2 = reached.site.note record := by
  -- Behind the turns only the end of the loop is logged.
  simp only [initDigests, valid]
  exact ⟨rfl, rfl, _, rfl⟩

/-- The report on a valid configuration is made up of the outcomes of the table's turns, each list in table order. -/
theorem initDigests_report (valid : config.validate = .ok ()) (host : Host Library Memory)
    (build : Build Library) (registry : Registry Library) (site : Site Memory) :
    let entries := build.outcomes host config build.algorithms
      { registry, site := site.note .registrationEntered }
    (build.initDigests host config registry site).1 =
      { registered := (Outcome.records entries).map (·.method.nid)
        failed := Outcome.failures entries
        skipped := Outcome.omissions entries } := by
  -- The report starts out empty, and each turn enters its outcome.
  intro entries
  obtain ⟨report, _, _⟩ := initDigests_of_valid valid host build registry site
  rw [report, progressAfter, report_advanceAll, RegistrationReport.enterAll_eq]
  simp only [List.nil_append, entries]

/-- Over a host that keeps identifiers, an algorithm of the table is reported by its outcome, which alone may fill its
slot. -/
theorem initDigests_entry (keeps : host.KeepsNid) (valid : config.validate = .ok ())
    {before after : List Algorithm} {algorithm : Algorithm}
    (table : build.algorithms = before ++ algorithm :: after) (registry : Registry Library)
    (site : Site Memory) :
    let turn := build.progressAfter host config registry site before
    let outcome := build.outcome host config turn algorithm
    let done := build.initDigests host config registry site
    done.1.Shows algorithm outcome ∧
      turn.registry.slot algorithm = registry.slot algorithm ∧
      done.2.1.slot algorithm = (registry.slot algorithm).or outcome.record? := by
  -- The report is made up of the outcomes, and the table names the algorithm once.
  intro turn outcome done
  have distinct : (before ++ algorithm :: after).Nodup := table ▸ build.algorithms_nodup
  obtain ⟨_, reached, _⟩ := initDigests_of_valid valid host build registry site
  have entries : done.1 = _ := initDigests_report valid host build registry site
  refine ⟨⟨?_, ?_, ?_⟩, ?_, ?_⟩
  · rw [entries, Outcome.mem_records_iff (own_outcomes keeps _)]
    exact exists_congr fun record =>
      (mem_table_outcomes_iff table registry site).trans eq_comm
  · intro cause
    rw [entries, Outcome.mem_failures_iff]
    exact (mem_table_outcomes_iff table registry site).trans eq_comm
  · rw [entries, Outcome.mem_omissions_iff]
    exact (mem_table_outcomes_iff table registry site).trans eq_comm
  · exact slot_advanceAll_of_absent keeps (absent_of_distinct distinct).1
  · have filled : done.2.1 = _ := reached
    rw [filled, progressAfter, table, slot_advanceAll keeps distinct]
    rfl

end Build

end Registration

end DigestProvider
