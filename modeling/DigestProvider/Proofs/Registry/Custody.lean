import DigestProvider.Proofs.Registry.Outcomes
import Mathlib.Data.List.Perm.Basic

/-!
Records in custody: each one that a host gives out is taken back, published or still held, and only one of these.
Main statement: the books agree after any calls on any registries, whatever the host refuses or skips.
-/

namespace DigestProvider

section Gains

variable {Place Library : Type}

/-- A look-up has gained entries: their places were free, and no other place has changed. -/
structure Gains (entries : List (Place × Record Library))
    (before after : Place → Option (Record Library)) : Prop where
  free : ∀ entry ∈ entries, before entry.1 = none
  found : ∀ entry ∈ entries, after entry.1 = some entry.2
  others : ∀ place, place ∉ entries.map Prod.fst → after place = before place
  distinct : (entries.map Prod.fst).Nodup

namespace Gains

variable {entries more : List (Place × Record Library)}
  {before between after : Place → Option (Record Library)}

/-- Nothing is gained where nothing happens. -/
theorem refl (look : Place → Option (Record Library)) : Gains [] look look :=
  -- There are no entries to ask about.
  ⟨by simp, by simp, fun _ _ => rfl, List.nodup_nil⟩

/-- What was gained first stays, and what is gained later was free from the start. -/
theorem trans (first : Gains entries before between) (second : Gains more between after) :
    Gains (entries ++ more) before after := by
  -- No place is gained twice, since it is free only before the first time.
  have apart : ∀ entry ∈ entries, ∀ later ∈ more, entry.1 ≠ later.1 := by
    intro entry early later late same
    have held := first.found entry early
    rw [same, second.free later late] at held
    cases held
  have notLater : ∀ entry ∈ entries, entry.1 ∉ more.map Prod.fst := by
    intro entry early member
    obtain ⟨later, late, same⟩ := List.mem_map.mp member
    exact apart entry early later late same.symm
  refine ⟨?_, ?_, ?_, ?_⟩
  · -- What is gained later was no place of the first, so it was free before that too.
    intro entry member
    rcases List.mem_append.mp member with early | late
    · exact first.free entry early
    · have untouched : entry.1 ∉ entries.map Prod.fst := by
        intro present
        obtain ⟨earlier, early, same⟩ := List.mem_map.mp present
        exact apart earlier early entry late same
      rw [← first.others entry.1 untouched]
      exact second.free entry late
  · intro entry member
    rcases List.mem_append.mp member with early | late
    · rw [second.others entry.1 (notLater entry early)]
      exact first.found entry early
    · exact second.found entry late
  · intro place absent
    rw [List.map_append, List.mem_append, not_or] at absent
    rw [second.others place absent.2, first.others place absent.1]
  · rw [List.map_append, List.nodup_append]
    refine ⟨first.distinct, second.distinct, ?_⟩
    intro place early other late same
    obtain ⟨entry, member, rfl⟩ := List.mem_map.mp early
    exact notLater entry member (same ▸ late)

/-- The places gained are those that were free and no longer are. -/
theorem mem_places_iff (gains : Gains entries before after) (place : Place) :
    place ∈ entries.map Prod.fst ↔ before place = none ∧ (after place).isSome = true := by
  constructor
  · intro member
    obtain ⟨entry, present, rfl⟩ := List.mem_map.mp member
    exact ⟨gains.free entry present, by rw [gains.found entry present]; rfl⟩
  · rintro ⟨free, taken⟩
    -- A place that has changed is among those gained.
    by_contra absent
    rw [gains.others place absent, free] at taken
    cases taken

end Gains

end Gains

/-- A record under the identifier it bears. -/
def Record.filed {Library : Type} (record : Record Library) : Nid × Record Library :=
  (record.method.nid, record)

section Calls

variable {Library Memory : Type}

/-- Publication gains the record that it answers. -/
theorem Registry.publish_gains (host : Host Library Memory) (record : Record Library)
    (registry : Registry Library) (site : Site Memory) :
    Gains ((registry.publish host record site).1.toOption.toList.map Record.filed)
      registry.get? (registry.publish host record site).2.1.get? := by
  -- Only a publication that succeeds changes the registry.
  cases answer : (registry.publish host record site).1 with
  | error cause =>
    rw [(publish_error answer).1]
    exact Gains.refl _
  | ok returned =>
    obtain ⟨rfl, found, others⟩ := publish_ok answer
    -- A publication that succeeds has found its slot free.
    have succeeds : (registry.publish host returned site).1.toBool = true := by rw [answer]; rfl
    have free := ((publish_succeeds_iff host returned registry site).mp succeeds).2
    exact {
      free := by simpa [Except.toOption, Record.filed] using free
      found := by simpa [Except.toOption, Record.filed] using found
      others := by
        intro nid apart
        exact others nid (by simpa [Except.toOption, Record.filed] using apart)
      distinct := by simp [Except.toOption] }

/-- Publication keeps the books: a record that is turned away goes back to the host. -/
theorem Site.Accounts.publish {first : Nat} {elsewhere : List Nat} {record : Record Library}
    {site : Site (Memory × HostLedger Library)}
    (accounts : site.Accounts first (record.serial :: elsewhere)) (host : Host Library Memory)
    (registry : Registry Library) :
    (registry.publish host.watched record site).2.2.Accounts first
      ((registry.publish host.watched record site).1.toOption.toList.map Record.serial ++
        elsewhere) := by
  -- Without a free slot the record is released.
  cases known : Algorithm.ofNid? record.method.nid with
  | none =>
    rw [Registry.publish_of_unknown _ known]
    exact accounts.release host
  | some algorithm =>
    cases held : registry.slot algorithm with
    | none =>
      rw [Registry.publish_of_free _ known held]
      exact accounts
    | some earlier =>
      rw [Registry.publish_of_taken _ known held]
      exact accounts.release host

/-- Registration of a recipe gains the record that it answers. -/
theorem Recipe.register_gains (host : Host Library Memory) (recipe : Recipe Library)
    (pkeyNids : List Nid) (registry : Registry Library) (site : Site Memory) :
    Gains ((recipe.register host pkeyNids registry site).1.toOption.toList.map Record.filed)
      registry.get? (recipe.register host pkeyNids registry site).2.1.get? := by
  -- What is completed is published, and a failed construction leaves the registry alone.
  unfold register
  rcases recipe.build host pkeyNids site with ⟨cause | record, after⟩
  · exact Gains.refl _
  · exact registry.publish_gains host record after

/-- Registration of a recipe keeps the books. -/
theorem Site.Accounts.register {first : Nat} {elsewhere : List Nat}
    {site : Site (Memory × HostLedger Library)} (accounts : site.Accounts first elsewhere)
    (host : Host Library Memory) (recipe : Recipe Library) (pkeyNids : List Nid)
    (registry : Registry Library) :
    (recipe.register host.watched pkeyNids registry site).2.2.Accounts first
      ((recipe.register host.watched pkeyNids registry site).1.toOption.toList.map
        Record.serial ++ elsewhere) := by
  -- Construction adds the record to those elsewhere, and publication leaves it there or gives it back.
  have built := accounts.build host recipe pkeyNids
  unfold Recipe.register
  generalize recipe.build host.watched pkeyNids site = done at built ⊢
  rcases done with ⟨cause | record, after⟩
  · exact built
  · exact built.publish host registry

namespace Build

variable [DedicatedStates Library]

/-- A turn gains the record that it publishes. -/
theorem advance_gains (host : Host Library Memory) (build : Build Library) (config : EngineConfig)
    (progress : Progress Library Memory) (algorithm : Algorithm) :
    Gains ((build.outcome host config progress algorithm).record?.toList.map Record.filed)
      progress.registry.get? (build.advance host config progress algorithm).registry.get? := by
  -- A turn is a registration, or nothing at all.
  by_cases wanted : config.wants (some algorithm) = true
  · obtain ⟨registry, _, record⟩ := advance_of_wanted wanted host build progress
    rw [registry, record]
    exact Recipe.register_gains host (build.recipe algorithm) config.requiredKeys _ _
  · have unwanted : config.wants (some algorithm) = false := by simpa using wanted
    rw [(advance_of_unwanted unwanted host build progress).1, outcome_skipped_iff.mpr unwanted]
    exact Gains.refl _

/-- Turns one after another gain the records that they publish. -/
theorem advanceAll_gains (host : Host Library Memory) (build : Build Library)
    (config : EngineConfig) (algorithms : List Algorithm) (progress : Progress Library Memory) :
    Gains ((Outcome.records (build.outcomes host config algorithms progress)).map Record.filed)
      progress.registry.get?
      (algorithms.foldl (build.advance host config) progress).registry.get? := by
  -- The induction is on the table; what the first turn gains is not free for the others.
  induction algorithms generalizing progress with
  | nil => exact Gains.refl _
  | cons algorithm rest ih =>
    have both := (build.advance_gains host config progress algorithm).trans
      (ih (build.advance host config progress algorithm))
    rw [List.foldl_cons, outcomes, Outcome.records, List.filterMap_cons]
    cases published : (build.outcome host config progress algorithm).record? with
    | none =>
      rw [published] at both
      exact both
    | some record =>
      rw [published] at both
      exact both

/-- A turn keeps the books. -/
theorem advance_accounts {first : Nat} {elsewhere : List Nat}
    {progress : Progress Library (Memory × HostLedger Library)}
    (accounts : progress.site.Accounts first elsewhere) (host : Host Library Memory)
    (build : Build Library) (config : EngineConfig) (algorithm : Algorithm) :
    (build.advance host.watched config progress algorithm).site.Accounts first
      ((build.outcome host.watched config progress algorithm).record?.toList.map Record.serial ++
        elsewhere) := by
  -- A turn is a registration, or nothing at all.
  by_cases wanted : config.wants (some algorithm) = true
  · obtain ⟨_, ⟨note, site⟩, record⟩ := advance_of_wanted wanted host.watched build progress
    rw [site, record]
    exact (accounts.register host (build.recipe algorithm) config.requiredKeys _).note note
  · have unwanted : config.wants (some algorithm) = false := by simpa using wanted
    rw [(advance_of_unwanted unwanted host.watched build progress).2, outcome_skipped_iff.mpr unwanted]
    exact accounts

/-- Turns one after another keep the books. -/
theorem advanceAll_accounts {first : Nat} {elsewhere : List Nat}
    {progress : Progress Library (Memory × HostLedger Library)}
    (accounts : progress.site.Accounts first elsewhere) (host : Host Library Memory)
    (build : Build Library) (config : EngineConfig) (algorithms : List Algorithm) :
    (algorithms.foldl (build.advance host.watched config) progress).site.Accounts first
      ((Outcome.records (build.outcomes host.watched config algorithms progress)).map
        Record.serial ++ elsewhere) := by
  induction algorithms generalizing progress elsewhere with
  | nil => exact accounts
  | cons algorithm rest ih =>
    -- The first turn's record is elsewhere by the time of the others.
    have both := ih (advance_accounts accounts host build config algorithm)
    rw [List.foldl_cons, outcomes, Outcome.records, List.filterMap_cons]
    cases published : (build.outcome host.watched config progress algorithm).record? with
    | none =>
      rw [published] at both
      exact both
    | some record =>
      rw [published] at both
      exact both.reorder List.perm_middle.symm

/-- The records published while the configured algorithms are registered. -/
def publications (host : Host Library Memory) (build : Build Library) (config : EngineConfig)
    (registry : Registry Library) (site : Site Memory) : List (Record Library) :=
  match config.validate with
  | .error _ => []
  | .ok _ =>
    Outcome.records (build.outcomes host config build.algorithms
      { registry, site := site.note .registrationEntered })

end Build

end Calls

/-- A call by which records are made or published, on registries told apart by name. -/
inductive Errand (Name Library : Type) where
  /-- A record is made, and is held if it is completed. -/
  | build (recipe : Recipe Library) (pkeyNids : List Nid)
  /-- One of the records held is published. -/
  | publish (name : Name) (position : Nat)
  /-- A recipe is registered. -/
  | register (name : Name) (recipe : Recipe Library) (pkeyNids : List Nid)
  /-- A build registers one of its algorithms. -/
  | initMethod (name : Name) (build : Build Library) (algorithm : Algorithm)
  /-- A build registers the algorithms that a configuration asks for. -/
  | initDigests (name : Name) (build : Build Library) (config : EngineConfig)

/-- Whether a call leaves no record with its caller. -/
def Errand.registers {Name Library : Type} : Errand Name Library → Bool
  | build .. | publish .. => false
  | register .. | initMethod .. | initDigests .. => true

/-- Who has which records: the registries, the host and the caller. -/
structure Custody (Name Library Memory : Type) where
  /-- What is published. -/
  registries : Name → Registry Library
  /-- Where records are made, with the ledger of the host. -/
  site : Site (Memory × HostLedger Library)
  /-- The records that the caller made and has not published. -/
  held : List (Record Library) := []
  /-- The records of the publications that succeeded, the oldest first. -/
  published : List (Name × Record Library) := []

namespace Custody

variable {Name Library Memory : Type} [DedicatedStates Library]

/-- What the registries hold, by name and identifier. -/
def look (registries : Name → Registry Library) (place : Name × Nid) : Option (Record Library) :=
  (registries place.1).get? place.2

/-- A publication by the place where it is found. -/
def placed (entry : Name × Record Library) : (Name × Nid) × Record Library :=
  ((entry.1, entry.2.method.nid), entry.2)

variable [DecidableEq Name]

/-- Notes what a call on one registry has come to. -/
def settle (custody : Custody Name Library Memory) (name : Name)
    (published : List (Record Library)) (registry : Registry Library)
    (site : Site (Memory × HostLedger Library)) : Custody Name Library Memory where
  registries other := if other = name then registry else custody.registries other
  site := site
  held := custody.held
  published := custody.published ++ published.map (name, ·)

/-- Runs one call through a watched host. -/
def run (host : Host Library Memory) (custody : Custody Name Library Memory) :
    Errand Name Library → Custody Name Library Memory
  | .build recipe pkeyNids =>
    let (answer, site) := recipe.build host.watched pkeyNids custody.site
    { custody with site, held := answer.toOption.toList ++ custody.held }
  | .publish name position =>
    match custody.held[position]? with
    | none => custody
    | some record =>
      -- The caller's hold on the record ends, whatever becomes of it.
      let (answer, registry, site) :=
        (custody.registries name).publish host.watched record custody.site
      { custody with held := custody.held.eraseIdx position }.settle name
        answer.toOption.toList registry site
  | .register name recipe pkeyNids =>
    let (answer, registry, site) :=
      recipe.register host.watched pkeyNids (custody.registries name) custody.site
    custody.settle name answer.toOption.toList registry site
  | .initMethod name build algorithm =>
    let (answer, registry, site) :=
      build.initMethod host.watched algorithm (custody.registries name) custody.site
    custody.settle name answer.toOption.toList registry site
  | .initDigests name build config =>
    let (_, registry, site) :=
      build.initDigests host.watched config (custody.registries name) custody.site
    custody.settle name
      (build.publications host.watched config (custody.registries name) custody.site) registry site

/-- Runs calls one after another through a watched host. -/
def runAll (host : Host Library Memory) (custody : Custody Name Library Memory)
    (errands : List (Errand Name Library)) : Custody Name Library Memory :=
  -- The induction is on the calls, each of which leaves everything sound for the next.
  errands.foldl (run host) custody

omit [DedicatedStates Library] in
/-- What one registry gains, the registries gain under its name. -/
theorem gains_settle {registries : Name → Registry Library} {name : Name}
    {published : List (Record Library)} {registry : Registry Library}
    (gained : Gains (published.map Record.filed) (registries name).get? registry.get?) :
    Gains ((published.map (name, ·)).map placed) (look registries)
      (look fun other => if other = name then registry else registries other) := by
  -- The places of the one registry are its identifiers behind its name.
  have places : ((published.map (name, ·)).map placed).map Prod.fst =
      ((published.map Record.filed).map Prod.fst).map (name, ·) := by
    simp [placed, Record.filed]
  refine ⟨?_, ?_, ?_, ?_⟩
  · intro entry member
    obtain ⟨record, present, rfl⟩ : ∃ record ∈ published, placed (name, record) = entry := by
      simpa using member
    exact gained.free record.filed (List.mem_map_of_mem present)
  · intro entry member
    obtain ⟨record, present, rfl⟩ : ∃ record ∈ published, placed (name, record) = entry := by
      simpa using member
    have found := gained.found record.filed (List.mem_map_of_mem present)
    simpa [look, placed, Record.filed] using found
  · rintro ⟨other, nid⟩ absent
    by_cases same : other = name
    · subst same
      have unfiled : nid ∉ (published.map Record.filed).map Prod.fst := by
        intro member
        apply absent
        rw [places]
        exact List.mem_map_of_mem member
      have unchanged := gained.others nid unfiled
      simpa [look] using unchanged
    · simp [look, same]
  · rw [places]
    exact List.Pairwise.map (name, ·) (fun _ _ apart same => apart (Prod.mk.inj same).2)
      gained.distinct

/-- Each record is where the ledger and the caller have it, and the registries have gained just those published. -/
structure Sound (start : Name → Registry Library) (first : Nat)
    (custody : Custody Name Library Memory) : Prop where
  accounts : custody.site.Accounts first
    (custody.published.map (·.2.serial) ++ custody.held.map Record.serial)
  gains : Gains (custody.published.map placed) (look start) (look custody.registries)

namespace Sound

variable {start : Name → Registry Library} {first : Nat} {custody : Custody Name Library Memory}

omit [DedicatedStates Library] in
/-- A call on one registry that keeps the books and gains what it publishes leaves everything sound. -/
theorem settle {name : Name} {published : List (Record Library)} {registry : Registry Library}
    {site : Site (Memory × HostLedger Library)}
    (gains : Gains (custody.published.map placed) (look start) (look custody.registries))
    (gained : Gains (published.map Record.filed) (custody.registries name).get? registry.get?)
    (accounts : site.Accounts first (published.map Record.serial ++
      (custody.published.map (·.2.serial) ++ custody.held.map Record.serial))) :
    (custody.settle name published registry site).Sound start first := by
  constructor
  · -- What is newly published stands behind what was published before.
    refine accounts.reorder ?_
    have serials : (custody.published ++ published.map (name, ·)).map (·.2.serial) =
        custody.published.map (·.2.serial) ++ published.map Record.serial := by
      simp [Function.comp_def]
    simp only [Custody.settle, serials, List.append_assoc]
    exact List.perm_append_comm_assoc _ _ _
  · simp only [Custody.settle, List.map_append]
    exact gains.trans (gains_settle gained)

/-- Each call leaves everything sound. -/
theorem run (sound : custody.Sound start first) (host : Host Library Memory)
    (errand : Errand Name Library) : (custody.run host errand).Sound start first := by
  obtain ⟨accounts, gains⟩ := sound
  cases errand with
  | build recipe pkeyNids =>
    have built := accounts.build host recipe pkeyNids
    refine ⟨built.reorder ?_, gains⟩
    simp only [Custody.run, List.map_append]
    exact List.perm_append_comm_assoc _ _ _
  | publish name position =>
    simp only [Custody.run]
    cases held : custody.held[position]? with
    | none => exact ⟨accounts, gains⟩
    | some record =>
      -- The record that is published is one of those held.
      obtain ⟨within, rfl⟩ := List.getElem?_eq_some_iff.mp held
      have moved : (custody.held[position] :: custody.held.eraseIdx position).Perm custody.held :=
        List.getElem_cons_eraseIdx_perm within
      refine settle gains (Registry.publish_gains _ _ _ _) (Site.Accounts.publish ?_ host _)
      refine accounts.reorder (List.perm_middle.symm.trans ?_)
      exact (moved.map Record.serial).append_left _
  | register name recipe pkeyNids =>
    exact settle gains (Recipe.register_gains _ recipe pkeyNids _ _)
      (accounts.register host recipe pkeyNids _)
  | initMethod name build algorithm =>
    simp only [Custody.run, Build.initMethod]
    by_cases included : build.includes algorithm = true
    · simp only [included, if_true]
      exact settle gains (Recipe.register_gains _ (build.recipe algorithm) [] _ _)
        ((accounts.register host (build.recipe algorithm) [] _).note _)
    · -- Nothing is tried, and nothing is published.
      simp only [included, Bool.false_eq_true, if_false]
      exact settle gains (Gains.refl _) accounts
  | initDigests name build config =>
    simp only [Custody.run, Build.initDigests, Build.publications]
    cases config.validate with
    | error cause => exact settle gains (Gains.refl _) ((accounts.note _).note _)
    | ok _ =>
      exact settle gains (Build.advanceAll_gains _ build config _ _)
        ((Build.advanceAll_accounts (accounts.note _) host build config _).note _)

/-- Any calls leave everything sound. -/
theorem runAll (sound : custody.Sound start first) (host : Host Library Memory)
    (errands : List (Errand Name Library)) : (custody.runAll host errands).Sound start first := by
  induction errands generalizing custody with
  | nil => exact sound
  | cons errand rest ih => exact ih (sound.run host errand)

omit [DedicatedStates Library] [DecidableEq Name] in
/-- The books of a host that is watched from now on agree before any call. -/
theorem initial (registries : Name → Registry Library) (memory : Memory) (issued : Nat)
    (log : List LogRecord) :
    ({ registries, site := { memory := (memory, {}), issued, log } } :
      Custody Name Library Memory).Sound registries issued :=
  ⟨⟨rfl, rfl, List.Perm.refl _⟩, Gains.refl _⟩

end Sound

/-- A call that only registers leaves the caller with what it held. -/
theorem held_run {errand : Errand Name Library} (registers : errand.registers = true)
    (host : Host Library Memory) (custody : Custody Name Library Memory) :
    (custody.run host errand).held = custody.held := by
  -- Only the two calls that are not registrations touch what is held.
  cases errand with
  | build recipe pkeyNids => cases registers
  | publish name position => cases registers
  | register name recipe pkeyNids => rfl
  | initMethod name build algorithm => rfl
  | initDigests name build config => rfl

/-- Calls that only register leave the caller with what it held. -/
theorem held_runAll {errands : List (Errand Name Library)}
    (registers : ∀ errand ∈ errands, errand.registers = true) (host : Host Library Memory)
    (custody : Custody Name Library Memory) :
    (custody.runAll host errands).held = custody.held := by
  -- The induction is on the calls.
  induction errands generalizing custody with
  | nil => rfl
  | cons errand rest ih =>
    obtain ⟨now, later⟩ := List.forall_mem_cons.mp registers
    exact (ih later (custody.run host errand)).trans (held_run now host custody)

/-- Whatever the host does, and whatever the calls and the registries are, each record given out is in just one place:
taken back once, published once or still held. The slots filled are as many as the publications. -/
theorem records_accounted (host : Host Library Memory) (registries : Name → Registry Library)
    (memory : Memory) (issued : Nat) (log : List LogRecord)
    (errands : List (Errand Name Library)) :
    let start : Custody Name Library Memory :=
      { registries, site := { memory := (memory, {}), issued, log } }
    let reached := start.runAll host errands
    let ledger := reached.site.memory.2
    ledger.allocated = ledger.freed + reached.published.length + reached.held.length ∧
    (ledger.released ++
      (reached.published.map (·.2.serial) ++ reached.held.map Record.serial)).Perm
        (List.range' issued ledger.allocated) ∧
    -- What is published stays where it is found, and never goes back to the host.
    (∀ name record, (name, record) ∈ reached.published →
      (reached.registries name).get? record.method.nid = some record ∧
        ∀ returned, HostCall.release returned ∈ ledger.calls →
          returned.serial ≠ record.serial) ∧
    ∃ filled : List (Name × Nid), filled.Nodup ∧
      (∀ name nid, (name, nid) ∈ filled ↔
        (registries name).get? nid = none ∧
          ((reached.registries name).get? nid).isSome = true) ∧
      filled.length = reached.published.length ∧
      ((∀ errand ∈ errands, errand.registers = true) →
        reached.held = [] ∧ ledger.allocated = ledger.freed + filled.length) := by
  intro start reached ledger
  have sound : reached.Sound registries issued :=
    (Sound.initial registries memory issued log).runAll host errands
  obtain ⟨⟨_, freed, places⟩, gains⟩ := sound
  -- A permutation of the numbers issued has as many entries as there were allocations.
  have balance : ledger.allocated =
      ledger.freed + reached.published.length + reached.held.length := by
    have lengths : ledger.released.length +
        (reached.published.length + reached.held.length) = ledger.allocated := by
      simpa using places.length_eq
    have counted : ledger.freed = ledger.released.length := freed
    omega
  refine ⟨balance, places, ?_, ?_⟩
  · intro name record member
    refine ⟨gains.found (placed (name, record)) (List.mem_map_of_mem member), ?_⟩
    intro returned called same
    -- A serial number in two places would occur twice among those issued.
    have distinct := places.nodup_iff.mpr List.nodup_range'
    obtain ⟨_, _, apart⟩ := List.nodup_append.mp distinct
    have back : returned.serial ∈ ledger.released :=
      List.mem_filterMap.mpr ⟨.release returned, called, rfl⟩
    have kept : record.serial ∈
        reached.published.map (·.2.serial) ++ reached.held.map Record.serial :=
      List.mem_append_left _ (List.mem_map.mpr ⟨(name, record), member, rfl⟩)
    exact apart _ back _ kept same
  · refine ⟨(reached.published.map placed).map Prod.fst, gains.distinct, ?_, by simp, ?_⟩
    · intro name nid
      exact gains.mem_places_iff (name, nid)
    · intro registers
      have none : reached.held = [] := held_runAll registers host start
      refine ⟨none, ?_⟩
      simp only [none, List.length_nil, Nat.add_zero] at balance
      simpa using balance

/-- A refused setter and a taken slot both send a record back, and three of five records stay published. -/
theorem records_accounted_refused_and_taken :
    let host : Host Unit Unit :=
      Host.stock.faulty { failStep := some .final, onlyNid := some Algorithm.sha384.nid }
    let build : Build Unit :=
      { includes := fun algorithm => algorithm = .sha256 ∨ algorithm = .sha384 ∨ algorithm = .sha512
        library := () }
    let errands : List (Errand Bool Unit) :=
      [.initDigests true build {}, .initMethod true build .sha256, .initMethod false build .sha256]
    let start : Custody Bool Unit Unit :=
      { registries := fun _ => Registry.empty, site := { memory := ((), {}), issued := 0, log := [] } }
    let reached := start.runAll host errands
    (∀ errand ∈ errands, errand.registers = true) ∧
      reached.site.memory.2.allocated = 5 ∧ reached.site.memory.2.freed = 2 ∧
      ∃ filled : List (Bool × Nid), filled.Nodup ∧ filled.length = 3 := by
  intro host build errands start reached
  have registers : ∀ errand ∈ errands, errand.registers = true := by simp [errands, Errand.registers]
  obtain ⟨_, _, _, filled, distinct, _, _, balance⟩ :=
    records_accounted host (fun _ : Bool => Registry.empty) () 0 [] errands
  -- Three constructions by the loop and two single ones give out five records.
  have allocated : reached.site.memory.2.allocated = 5 := by decide
  have freed : reached.site.memory.2.freed = 2 := by decide
  obtain ⟨_, counted⟩ := balance registers
  refine ⟨registers, allocated, freed, filled, distinct, ?_⟩
  have counts : reached.site.memory.2.allocated =
      reached.site.memory.2.freed + filled.length := counted
  omega

end Custody

end DigestProvider
