import DigestProvider.Proofs.Registry.Outcomes

/-!
Two registrations compared on one algorithm. Main statement: if the hosts answer alike for it and it is wanted and
published alike at the start, it comes to the same end in both, whatever becomes of other algorithms.
-/

namespace DigestProvider

section Alike

variable {Library First Second : Type}

/-- Two hosts give the same answers for an identifier, whatever they remember. -/
structure Host.AlikeOn (nid : Nid) (first : Host Library First) (second : Host Library Second) :
    Prop where
  /-- Both give out the same record, or both refuse. -/
  allocate : ∀ pkeyType memory other,
    (first.allocate nid pkeyType memory).1 = (second.allocate nid pkeyType other).1
  /-- A setter answers both the same, and leaves the same in the record. -/
  apply : ∀ setting (method : Method Library), method.nid = nid → ∀ memory other,
    (first.apply setting method memory).1 = (second.apply setting method other).1 ∧
      (first.apply setting method memory).2.1 = (second.apply setting method other).2.1

namespace Host.AlikeOn

variable {nid : Nid} {first : Host Library First} {second : Host Library Second}

/-- The stock host remembers nothing. -/
theorem stock : Host.AlikeOn nid (Host.stock : Host Library First)
    (Host.stock : Host Library Second) where
  allocate _ _ _ := rfl
  apply := by
    -- Only the value decides whether it is admitted.
    intro setting method _ memory other
    by_cases admitted : setting.isAdmitted = true
    · simp [Host.stock, admitted]
    · simp [Host.stock, admitted]

/-- Faults that concern other identifiers make no difference. -/
theorem faulty (alike : Host.AlikeOn nid first second) {faults : HostFaults}
    (elsewhere : faults.concern nid = false) (unbound : faults.bind = none) :
    Host.AlikeOn nid first (second.faulty faults) where
  allocate pkeyType memory other := by
    simpa [Host.faulty, elsewhere, unbound] using alike.allocate pkeyType memory other
  apply := by
    intro setting method named memory other
    simpa [Host.faulty, named, elsewhere] using alike.apply setting method named memory other

/-- A run of settings comes to the same end, since the record keeps the identifier. -/
theorem applyAll (alike : Host.AlikeOn nid first second) (keeps : first.KeepsNid)
    (settings : List (Setting Library)) {method : Method Library} (named : method.nid = nid)
    (memory : First) (other : Second) :
    (first.applyAll settings method memory).1 = (second.applyAll settings method other).1 ∧
      (first.applyAll settings method memory).2.1 = (second.applyAll settings method other).2.1 := by
  -- As long as both accept, both go on with the same record.
  induction settings generalizing method memory other with
  | nil => exact ⟨rfl, rfl⟩
  | cons setting rest ih =>
    obtain ⟨statuses, records⟩ := alike.apply setting method named memory other
    have kept := keeps.apply setting method memory
    rw [Host.applyAll, Host.applyAll]
    rcases one : first.apply setting method memory with ⟨status, next, after⟩
    rcases two : second.apply setting method other with ⟨_, _, later⟩
    rw [one, two] at statuses records
    rw [one] at kept
    obtain rfl : status = _ := statuses
    obtain rfl : next = _ := records
    cases status with
    | failure => exact ⟨rfl, rfl⟩
    | success => exact ih (kept.trans named) after later

/-- Construction for the identifier gives records with the same contents, or fails for the same cause. -/
theorem build {recipe : Recipe Library} (alike : Host.AlikeOn recipe.nid first second)
    (keeps : first.KeepsNid) (pkeyNids : List Nid) (site : Site First) (other : Site Second) :
    (recipe.build first pkeyNids site).1.map Record.method =
      (recipe.build second pkeyNids other).1.map Record.method := by
  -- What either host answers decides which way out of construction is taken.
  have given := alike.allocate none site.memory other.memory
  rcases one : first.allocate recipe.nid none site.memory with ⟨_ | method, memory⟩
  · -- Neither host gives out a record.
    rw [one] at given
    have two : second.allocate recipe.nid none other.memory =
        (none, (second.allocate recipe.nid none other.memory).2) := Prod.ext given.symm rfl
    rw [Recipe.build_of_refused one, Recipe.build_of_refused two]
  · rw [one] at given
    have two : second.allocate recipe.nid none other.memory =
        (some method, (second.allocate recipe.nid none other.memory).2) := Prod.ext given.symm rfl
    have named : method.nid = recipe.nid := keeps.allocate _ _ _ _ _ one
    obtain ⟨steps, records⟩ := alike.applyAll keeps (recipe.settings pkeyNids) named memory
      (second.allocate recipe.nid none other.memory).2
    -- Both runs of settings stop at the same place with the same record.
    rcases done : first.applyAll (recipe.settings pkeyNids) method memory with
      ⟨_ | step, next, after⟩
    · rw [done] at steps records
      rw [Recipe.build_of_accepted one done,
        Recipe.build_of_accepted two (Prod.ext steps.symm (Prod.ext records.symm rfl))]
      rfl
    · rw [done] at steps records
      rw [Recipe.build_of_abandoned one done,
        Recipe.build_of_abandoned two (Prod.ext steps.symm (Prod.ext records.symm rfl))]

end Host.AlikeOn

end Alike

/-- Two outcomes agree: in the contents of the record published, in the cause of the failure, or in that the algorithm
was skipped. -/
inductive Outcome.Agree {Library : Type} : Outcome Library → Outcome Library → Prop where
  | registered {record other : Record Library} (same : record.method = other.method) :
    Agree (.registered record) (.registered other)
  | failed {cause : DigestError} : Agree (.failed cause) (.failed cause)
  | skipped : Agree .skipped .skipped

namespace Outcome.Agree

variable {Library : Type} {outcome other : Outcome Library}

/-- Records of the same contents were published, or none. -/
theorem records (agree : Agree outcome other) :
    outcome.record?.map Record.method = other.record?.map Record.method := by
  -- The records may differ in their serial numbers.
  cases agree with
  | registered same => exact congrArg some same
  | failed => rfl
  | skipped => rfl

/-- Reports of outcomes that agree say the same of an algorithm. -/
theorem reports (agree : Agree outcome other) {algorithm : Algorithm}
    {report rival : RegistrationReport} (shown : report.Shows algorithm outcome)
    (alsoShown : rival.Shows algorithm other) :
    (algorithm.nid ∈ report.registered ↔ algorithm.nid ∈ rival.registered) ∧
      (algorithm ∈ report.skipped ↔ algorithm ∈ rival.skipped) ∧
      ∀ cause, (some algorithm, cause) ∈ report.failed ↔ (some algorithm, cause) ∈ rival.failed := by
  rw [shown.registered, alsoShown.registered, shown.skipped, alsoShown.skipped]
  simp only [shown.failed, alsoShown.failed]
  -- In each case both sides of an equivalence hold, or neither does.
  cases agree with
  | registered same => simp
  | failed => simp
  | skipped => simp

end Outcome.Agree

namespace Build

variable {Library First Second : Type} [DedicatedStates Library] {first : Host Library First}
  {second : Host Library Second} {config other : EngineConfig} {algorithm : Algorithm}

/-- An algorithm's turns agree if it is wanted, published and built alike. -/
theorem outcome_agree (alike : Host.AlikeOn algorithm.nid first second) (keeps : first.KeepsNid)
    (also : second.KeepsNid) (wanted : config.wants (some algorithm) = other.wants (some algorithm))
    (keys : config.requiredKeys = other.requiredKeys) (build : Build Library)
    {turn : Progress Library First} {rival : Progress Library Second}
    (held : (turn.registry.slot algorithm).isSome = (rival.registry.slot algorithm).isSome) :
    Outcome.Agree (build.outcome first config turn algorithm)
      (build.outcome second other rival algorithm) := by
  -- A turn depends on the configuration's choice, on construction and on whether the slot is taken.
  have own := build.nid_recipe algorithm
  unfold outcome
  rw [← wanted, ← keys]
  by_cases asked : config.wants (some algorithm) = true
  · rw [if_pos asked, if_pos asked, Recipe.register_eq keeps own, Recipe.register_eq also own]
    have built := Host.AlikeOn.build (own.symm ▸ alike) keeps config.requiredKeys turn.site
      rival.site
    generalize (build.recipe algorithm).build first config.requiredKeys turn.site = one at built ⊢
    generalize (build.recipe algorithm).build second config.requiredKeys rival.site = two at built ⊢
    obtain ⟨cause | record, _⟩ := one <;> obtain ⟨_ | made, _⟩ := two
    · obtain rfl := Except.error.inj built
      exact .failed
    · cases built
    · cases built
    · -- Construction succeeded in both, and the slots decide.
      have same : record.method = made.method := Except.ok.inj built
      cases mine : turn.registry.slot algorithm with
      | none =>
        have free : rival.registry.slot algorithm = none := by simpa [mine] using held
        simp only [free]
        exact .registered same
      | some earlier =>
        obtain ⟨_, taken⟩ : ∃ rest, rival.registry.slot algorithm = some rest :=
          Option.isSome_iff_exists.mp (by rw [← held, mine]; rfl)
        simp only [taken]
        exact .failed
  · rw [if_neg asked, if_neg asked]
    exact .skipped

/-- Two valid registrations that start with the same in an algorithm's slot, want it alike, for the same key types, and
run on hosts that answer alike for it, report the same of it and leave the same in its slot. -/
theorem initDigests_independent (alike : Host.AlikeOn algorithm.nid first second)
    (keeps : first.KeepsNid) (also : second.KeepsNid) (build : Build Library)
    (included : build.includes algorithm = true) (valid : config.validate = .ok ())
    (sound : other.validate = .ok ())
    (wanted : config.wants (some algorithm) = other.wants (some algorithm))
    (keys : config.pkeyNids = other.pkeyNids) (registry rival : Registry Library)
    (held : (registry.slot algorithm).map Record.method = (rival.slot algorithm).map Record.method)
    (site : Site First) (place : Site Second) :
    let one := build.initDigests first config registry site
    let two := build.initDigests second other rival place
    (algorithm.nid ∈ one.1.registered ↔ algorithm.nid ∈ two.1.registered) ∧
      (algorithm ∈ one.1.skipped ↔ algorithm ∈ two.1.skipped) ∧
      (∀ cause, (some algorithm, cause) ∈ one.1.failed ↔ (some algorithm, cause) ∈ two.1.failed) ∧
      (one.2.1.slot algorithm).map Record.method = (two.2.1.slot algorithm).map Record.method := by
  intro one two
  have listed : algorithm ∈ build.algorithms := List.mem_filter.mpr ⟨Algorithm.mem_all _, included⟩
  obtain ⟨before, later, table⟩ := List.append_of_mem listed
  obtain ⟨shown, start, final⟩ := initDigests_entry keeps valid table registry site
  obtain ⟨alsoShown, alsoStart, alsoFinal⟩ := initDigests_entry also sound table rival place
  -- Its slot is as it was at the start when its turn comes, in both.
  have occupied : ((build.progressAfter first config registry site before).registry.slot
      algorithm).isSome =
      ((build.progressAfter second other rival place before).registry.slot algorithm).isSome := by
    rw [start, alsoStart]
    simpa using congrArg Option.isSome held
  have keyNids : config.requiredKeys = other.requiredKeys := congrArg (List.map Nid.mk) keys
  have agree := outcome_agree alike keeps also wanted keyNids build occupied
  obtain ⟨registered, skipped, failed⟩ := agree.reports shown alsoShown
  refine ⟨registered, skipped, failed, ?_⟩
  rw [final, alsoFinal, Option.map_or, Option.map_or, held, agree.records]

/-- A fault, an earlier publication and a selection that concern other algorithms make no difference to SHA-256. -/
theorem initDigests_independent_of_others :
    let steady : Host Unit Unit := Host.stock
    let flawed : Host Unit Unit :=
      Host.stock.faulty { failStep := some .final, onlyNid := some Algorithm.sha384.nid }
    let build : Build Unit := { includes := fun _ => true, library := () }
    let narrow : EngineConfig := { digests := some ["SHA-384", "sha512", "sha256"] }
    let used : Registry Unit :=
      Registry.empty.offer ⟨7, Method.empty Algorithm.sha512.nid none⟩
    let one := build.initDigests steady {} Registry.empty { memory := () }
    let two := build.initDigests flawed narrow used { memory := (), issued := 8 }
    Host.AlikeOn Algorithm.sha256.nid steady flawed ∧ steady.KeepsNid ∧ flawed.KeepsNid ∧
      one.1.registered.length = 7 ∧ two.1.registered.length = 1 ∧
      Algorithm.sha256.nid ∈ two.1.registered ∧
      (one.2.1.slot .sha256).map Record.method = (two.2.1.slot .sha256).map Record.method := by
  intro steady flawed build narrow used one two
  have alike : Host.AlikeOn Algorithm.sha256.nid steady flawed :=
    Host.AlikeOn.stock.faulty (by decide) rfl
  have keeps : steady.KeepsNid := Host.stock_keepsNid
  have also : flawed.KeepsNid := Host.stock_keepsNid.faulty _
  have valid : ({} : EngineConfig).validate = .ok () := rfl
  have sound : narrow.validate = .ok () := by rfl
  have untouched : (Registry.empty.slot .sha256).map Record.method =
      (used.slot .sha256).map Record.method := by
    -- The record that is published already is of another algorithm.
    rw [Registry.slot_offer, if_neg (by decide), Option.or_none]
  obtain ⟨registered, _, _, stored⟩ := initDigests_independent alike keeps also build rfl valid sound
    (by decide) rfl Registry.empty used untouched { memory := () } { memory := (), issued := 8 }
  exact ⟨alike, keeps, also, by decide +kernel, by decide +kernel,
    registered.mp (by decide +kernel), stored⟩

end Build

end DigestProvider
