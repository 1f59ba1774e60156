import DigestProvider.Proofs.Method.Construction

/-!
Construction as a watched host's ledger shows it: which calls the host receives, and what becomes of the record that
it gives out.
-/

namespace DigestProvider

/-- The identifier that a host call concerns. -/
def HostCall.nid {Library : Type} : HostCall Library → Nid
  | allocate nid _ => nid
  | apply _ method => method.nid
  | release record => record.method.nid

section Identity

variable {Library Memory : Type}

/-- Records bear the identifier that was asked for, and no setter changes it. -/
structure Host.KeepsNid (host : Host Library Memory) : Prop where
  /-- A record is given out under the identifier asked for. -/
  allocate : ∀ nid pkeyType memory method after,
    host.allocate nid pkeyType memory = (some method, after) → method.nid = nid
  /-- Whether it accepts or refuses, a setter leaves the identifier alone. -/
  apply : ∀ setting method memory, (host.apply setting method memory).2.1.nid = method.nid

/-- The stock host keeps identifiers. -/
theorem Host.stock_keepsNid : (Host.stock : Host Library Memory).KeepsNid where
  allocate := by
    -- The record is made with the identifier asked for.
    intro nid pkeyType memory method after given
    simp only [Host.stock, Prod.mk.injEq, Option.some.injEq] at given
    rw [← given.1]
    rfl
  apply := by
    -- A value that is not admitted is not stored, and storing touches other fields.
    intro setting method memory
    simp only [Host.stock]
    split
    · cases setting <;> rfl
    · rfl

/-- A watched host keeps identifiers if the host does. -/
theorem Host.KeepsNid.watched {host : Host Library Memory} (keeps : host.KeepsNid) :
    host.watched.KeepsNid where
  allocate := by
    -- The answer is the host's own.
    intro nid pkeyType kept method after given
    simp only [Host.watched, Prod.mk.injEq] at given
    exact keeps.allocate nid pkeyType kept.1 method _ (Prod.ext given.1 rfl)
  apply setting method kept := keeps.apply setting method kept.1

/-- Faults leave identifiers alone. -/
theorem Host.KeepsNid.faulty {host : Host Library Memory} (keeps : host.KeepsNid)
    (faults : HostFaults) : (host.faulty faults).KeepsNid where
  allocate := by
    -- A refusal gives nothing out, and only the key type may be replaced otherwise.
    intro nid pkeyType memory method after given
    unfold Host.faulty at given
    dsimp only at given
    split at given
    · cases given
    · exact keeps.allocate nid _ memory method after given
  apply := by
    intro setting method memory
    unfold Host.faulty
    dsimp only
    -- A setter made to fail or to skip its work leaves the record as it is, and any other is the host's own.
    split
    · rfl
    · split
      · rfl
      · exact keeps.apply setting method memory

/-- A run of settings keeps the identifier, wherever it stops. -/
theorem Host.KeepsNid.applyAll {host : Host Library Memory} (keeps : host.KeepsNid)
    (settings : List (Setting Library)) (method : Method Library) (memory : Memory) :
    (host.applyAll settings method memory).2.1.nid = method.nid := by
  -- A setter that refuses ends the run, and one that accepts hands on a record under the same identifier.
  induction settings generalizing method memory with
  | nil => rfl
  | cons setting rest ih =>
    have kept := keeps.apply setting method memory
    rw [Host.applyAll]
    rcases applied : host.apply setting method memory with ⟨status, next, after⟩
    rw [applied] at kept
    cases status with
    | failure => exact kept
    | success => exact (ih next after).trans kept

end Identity

namespace Recipe

variable {Library Memory : Type} {host : Host Library Memory} {recipe : Recipe Library}
  {pkeyNids : List Nid} {site : Site Memory}

/-- Without a record there is no construction. -/
theorem build_of_refused {memory : Memory}
    (refused : host.allocate recipe.nid none site.memory = (none, memory)) :
    recipe.build host pkeyNids site =
      (.error (.methodAllocation recipe.nid),
        { memory, issued := site.issued, log := site.log ++ [.buildEntered recipe.nid] }) := by
  -- The host's refusal is the last that is heard of it.
  simp only [build, Site.allocate, Site.note, refused]

/-- A record that every setting was accepted for leaves construction. -/
theorem build_of_accepted {method next : Method Library} {memory after : Memory}
    (given : host.allocate recipe.nid none site.memory = (some method, memory))
    (accepted : host.applyAll (recipe.settings pkeyNids) method memory = (none, next, after)) :
    recipe.build host pkeyNids site =
      (.ok ⟨site.issued, next⟩,
        { memory := after, issued := site.issued + 1,
          log := site.log ++ [.buildEntered recipe.nid] ++ [.buildLeft true] }) := by
  -- Nothing was refused, so the record keeps the number that it was given out with.
  simp only [build, Site.allocate, Site.note, given, accepted]

/-- A record that a setting was refused for goes back to the host. -/
theorem build_of_abandoned {method next : Method Library} {memory after : Memory} {step : BuildStep}
    (given : host.allocate recipe.nid none site.memory = (some method, memory))
    (stopped : host.applyAll (recipe.settings pkeyNids) method memory = (some step, next, after)) :
    recipe.build host pkeyNids site =
      (.error (.methodStep recipe.nid step),
        { memory := host.release ⟨site.issued, next⟩ after, issued := site.issued + 1,
          log := site.log ++ [.buildEntered recipe.nid] ++ [.partialReleased recipe.nid step] ++
            [.buildLeft false] }) := by
  -- The release is logged between the two records of construction.
  simp only [build, Site.allocate, Site.note, Site.release, given, stopped]

/-- Construction fails because the host refused the record or one of the setters. -/
theorem build_error {cause : DigestError}
    (failed : (recipe.build host pkeyNids site).1 = .error cause) :
    cause = .methodAllocation recipe.nid ∨ ∃ step, cause = .methodStep recipe.nid step := by
  -- The three ways out of construction are taken in turn.
  rcases given : host.allocate recipe.nid none site.memory with ⟨_ | method, memory⟩
  · rw [build_of_refused given] at failed
    exact .inl (Except.error.inj failed).symm
  · rcases applied : host.applyAll (recipe.settings pkeyNids) method memory with
      ⟨_ | step, next, after⟩
    · rw [build_of_accepted given applied] at failed
      cases failed
    · rw [build_of_abandoned given applied] at failed
      exact .inr ⟨step, (Except.error.inj failed).symm⟩

/-- Over a host that keeps identifiers a record leaves construction under the recipe's. -/
theorem nid_of_build (keeps : host.KeepsNid) {record : Record Library}
    (built : (recipe.build host pkeyNids site).1 = .ok record) : record.method.nid = recipe.nid := by
  -- The record was given out under the identifier, and the run of settings kept it.
  obtain ⟨before, given, method, after, allocated, applied⟩ := build_eq_ok built
  have kept := keeps.applyAll (recipe.settings pkeyNids) method given
  rw [applied] at kept
  exact kept.trans (keeps.allocate _ _ _ _ _ allocated)

end Recipe

/-- The serial number of the record that a host call takes back. -/
def HostCall.released? {Library : Type} : HostCall Library → Option Nat
  | release record => some record.serial
  | allocate .. | apply .. => none

/-- The serial numbers of the records taken back, the oldest first. -/
def HostLedger.released {Library : Type} (ledger : HostLedger Library) : List Nat :=
  ledger.calls.filterMap HostCall.released?

section Watched

variable {Library Memory : Type} (host : Host Library Memory)

/-- Calls between the allocation of a record and the end of its construction. -/
structure Host.Fills (nid : Nid) (calls : List (HostCall Library)) : Prop where
  /-- No record is taken back meanwhile. -/
  quiet : calls.filterMap HostCall.released? = []
  /-- If the host keeps identifiers, the calls concern none but the record's. -/
  same : host.KeepsNid → ∀ call ∈ calls, call.nid = nid

/-- Such calls behind an allocation leave the records taken back as they were. -/
theorem Host.Fills.released {host : Host Library Memory} {nid : Nid}
    {calls : List (HostCall Library)} (fills : host.Fills nid calls) (ledger : HostLedger Library) :
    (ledger.calls ++ [HostCall.allocate nid none] ++ calls).filterMap HostCall.released? =
      ledger.released := by
  -- The allocation takes nothing back either.
  rw [List.filterMap_append, List.filterMap_append, fills.quiet, List.append_nil]
  exact List.append_nil ledger.released

/-- A run of settings on a watched host enters its calls into the ledger, and changes nothing else there. -/
theorem Host.applyAll_watched (settings : List (Setting Library)) (method : Method Library)
    (kept : Memory × HostLedger Library) :
    ∃ calls : List (HostCall Library), host.Fills method.nid calls ∧
      (host.watched.applyAll settings method kept).2.2.2 =
        { kept.2 with calls := kept.2.calls ++ calls } := by
  -- Each setter enters its own call, and hands on a record under the same identifier.
  induction settings generalizing method kept with
  | nil => exact ⟨[], ⟨rfl, by simp⟩, by simp [Host.applyAll]⟩
  | cons setting rest ih =>
    rcases applied : host.apply setting method kept.1 with ⟨status, next, memory⟩
    have first : host.watched.apply setting method kept =
        (status, next, memory, kept.2.note (.apply setting method)) := by
      simp only [Host.watched, applied]
    rw [Host.applyAll, first]
    cases status with
    | failure => exact ⟨[.apply setting method], ⟨rfl, by simp [HostCall.nid]⟩, rfl⟩
    | success =>
      obtain ⟨calls, ⟨quiet, same⟩, entered⟩ :=
        ih next (memory, kept.2.note (.apply setting method))
      refine ⟨.apply setting method :: calls, ⟨quiet, ?_⟩, ?_⟩
      · intro keeps call member
        have unchanged : next.nid = method.nid := by
          have := keeps.apply setting method kept.1
          rwa [applied] at this
        rcases List.mem_cons.mp member with now | later
        · rw [now]
          rfl
        · exact (same keeps call later).trans unchanged
      · rw [entered]
        simp [HostLedger.note]

/-- What construction on a watched host may come to, and the ledger that it leaves. -/
inductive Recipe.Ends (recipe : Recipe Library) (site : Site (Memory × HostLedger Library)) :
    Except DigestError (Record Library) × Site (Memory × HostLedger Library) → Prop where
  /-- No record was given out. -/
  | refused {memory : Memory} {log : List LogRecord} :
    Recipe.Ends recipe site
      (.error (.methodAllocation recipe.nid),
        { memory := (memory, site.memory.2.note (.allocate recipe.nid none))
          issued := site.issued
          log })
  /-- The record was completed. -/
  | completed {calls : List (HostCall Library)} {method : Method Library} {memory : Memory}
      {log : List LogRecord} (fills : host.Fills recipe.nid calls)
      (same : host.KeepsNid → method.nid = recipe.nid) :
    Recipe.Ends recipe site
      (.ok ⟨site.issued, method⟩,
        { memory := (memory,
            { allocated := site.memory.2.allocated + 1
              freed := site.memory.2.freed
              calls := site.memory.2.calls ++ [.allocate recipe.nid none] ++ calls })
          issued := site.issued + 1
          log })
  /-- A setter was refused, and the record went back. -/
  | abandoned {calls : List (HostCall Library)} {method : Method Library} {memory : Memory}
      {log : List LogRecord} {step : BuildStep} (fills : host.Fills recipe.nid calls)
      (same : host.KeepsNid → method.nid = recipe.nid) :
    Recipe.Ends recipe site
      (.error (.methodStep recipe.nid step),
        { memory := (memory,
            { allocated := site.memory.2.allocated + 1
              freed := site.memory.2.freed + 1
              calls := site.memory.2.calls ++ [.allocate recipe.nid none] ++ calls ++
                [.release ⟨site.issued, method⟩] })
          issued := site.issued + 1
          log })

/-- Construction on a watched host comes to one of these ends. -/
theorem Recipe.ends_build (recipe : Recipe Library) (pkeyNids : List Nid)
    (site : Site (Memory × HostLedger Library)) :
    recipe.Ends host site (recipe.build host.watched pkeyNids site) := by
  -- The watched host enters the allocation, whatever the host's own answer is.
  rcases answer : host.allocate recipe.nid none site.memory.1 with ⟨_ | method, memory⟩
  · have refused : host.watched.allocate recipe.nid none site.memory =
        (none, memory, site.memory.2.note (.allocate recipe.nid none)) := by
      simp only [Host.watched, answer]
      rfl
    rw [build_of_refused refused]
    exact .refused
  · let kept : HostLedger Library :=
      { allocated := site.memory.2.allocated + 1
        freed := site.memory.2.freed
        calls := site.memory.2.calls ++ [.allocate recipe.nid none] }
    have given : host.watched.allocate recipe.nid none site.memory =
        (some method, memory, kept) := by
      simp only [Host.watched, answer]
      rfl
    obtain ⟨calls, fills, entered⟩ :=
      host.applyAll_watched (recipe.settings pkeyNids) method (memory, kept)
    have asked (keeps : host.KeepsNid) : method.nid = recipe.nid :=
      keeps.allocate _ _ _ _ _ answer
    have filled (keeps : host.KeepsNid) :=
      (keeps.watched.applyAll (recipe.settings pkeyNids) method (memory, kept)).trans (asked keeps)
    -- The calls are all for the record that was given out, under the identifier asked for.
    have concerns : host.Fills recipe.nid calls :=
      ⟨fills.quiet, fun keeps call member => (fills.same keeps call member).trans (asked keeps)⟩
    -- Whether a setter was refused decides between the two ends with a record.
    rcases applied : host.watched.applyAll (recipe.settings pkeyNids) method (memory, kept) with
      ⟨_ | step, next, after, ledger⟩
    · rw [applied] at entered filled
      obtain rfl : ledger = { kept with calls := kept.calls ++ calls } := entered
      rw [build_of_accepted given applied]
      exact .completed concerns filled
    · rw [applied] at entered filled
      obtain rfl : ledger = { kept with calls := kept.calls ++ calls } := entered
      rw [build_of_abandoned given applied]
      exact .abandoned concerns filled

/-- Calls have been entered into a ledger that all concern one identifier. -/
def HostLedger.Concerns {Library : Type} (nid : Nid) (before after : HostLedger Library) : Prop :=
  ∃ calls, after.calls = before.calls ++ calls ∧ ∀ call ∈ calls, call.nid = nid

/-- The calls of a construction concern the recipe's identifier alone. -/
theorem Recipe.build_concerns {host : Host Library Memory} (keeps : host.KeepsNid)
    (recipe : Recipe Library) (pkeyNids : List Nid) (site : Site (Memory × HostLedger Library)) :
    HostLedger.Concerns recipe.nid site.memory.2
      (recipe.build host.watched pkeyNids site).2.memory.2 := by
  -- The allocation concerns it, and so do the calls that fill the record and the one that takes it back.
  have ends := recipe.ends_build host pkeyNids site
  generalize recipe.build host.watched pkeyNids site = done at ends ⊢
  cases ends with
  | refused => exact ⟨[.allocate recipe.nid none], rfl, by simp [HostCall.nid]⟩
  | @completed calls method memory log fills same =>
    refine ⟨[.allocate recipe.nid none] ++ calls, List.append_assoc .., ?_⟩
    intro call member
    rcases List.mem_append.mp member with first | later
    · rw [List.mem_singleton.mp first]
      rfl
    · exact fills.same keeps call later
  | @abandoned calls method memory log step fills same =>
    refine ⟨[.allocate recipe.nid none] ++ calls ++ [.release ⟨site.issued, method⟩], by simp, ?_⟩
    intro call member
    simp only [List.mem_append, List.mem_singleton] at member
    rcases member with (first | later) | last
    · rw [first]
      rfl
    · exact fills.same keeps call later
    · rw [last]
      exact same keeps

end Watched

/-- The books of a watched host agree: each serial number issued from the first one on is that of a record taken back
or of one kept elsewhere, but not of both. -/
structure Site.Accounts {Library Memory : Type} (first : Nat) (elsewhere : List Nat)
    (site : Site (Memory × HostLedger Library)) : Prop where
  /-- Just the records given out were issued. -/
  issued : site.issued = first + site.memory.2.allocated
  /-- Each record taken back is counted. -/
  freed : site.memory.2.freed = site.memory.2.released.length
  /-- No number is missing, and none occurs twice. -/
  places : (site.memory.2.released ++ elsewhere).Perm
    (List.range' first site.memory.2.allocated)

namespace Site.Accounts

variable {Library Memory : Type} {first : Nat} {elsewhere : List Nat}
  {site : Site (Memory × HostLedger Library)}

/-- The log has no part in the books. -/
theorem note (accounts : site.Accounts first elsewhere) (record : LogRecord) :
    (site.note record).Accounts first elsewhere :=
  -- The books look at the host's memory and at the numbers issued.
  ⟨accounts.issued, accounts.freed, accounts.places⟩

/-- The order in which records are kept elsewhere does not matter. -/
theorem reorder {others : List Nat} (accounts : site.Accounts first elsewhere)
    (same : others.Perm elsewhere) : site.Accounts first others :=
  -- Only which numbers are elsewhere enters the books.
  ⟨accounts.issued, accounts.freed, (same.append_left _).trans accounts.places⟩

/-- A record that the host takes back is no longer elsewhere. -/
theorem release {record : Record Library}
    (accounts : site.Accounts first (record.serial :: elsewhere)) (host : Host Library Memory) :
    (site.release host.watched record).Accounts first elsewhere := by
  obtain ⟨issued, freed, places⟩ := accounts
  -- The record's number moves from the head of one list to the end of the other.
  have released : (site.release host.watched record).memory.2.released =
      site.memory.2.released ++ [record.serial] := by
    simp [Site.release, Host.watched, HostLedger.note, HostLedger.released, HostCall.released?]
  refine ⟨issued, ?_, ?_⟩
  · rw [released, List.length_append, ← freed]
    rfl
  · rw [released, List.append_assoc]
    exact places

/-- A record that is completed goes elsewhere, and nothing becomes of any other. -/
theorem build (accounts : site.Accounts first elsewhere) (host : Host Library Memory)
    (recipe : Recipe Library) (pkeyNids : List Nid) :
    (recipe.build host.watched pkeyNids site).2.Accounts first
      ((recipe.build host.watched pkeyNids site).1.toOption.toList.map Record.serial ++
        elsewhere) := by
  obtain ⟨issued, freed, places⟩ := accounts
  -- Where a record was given out, the range of numbers has one more at its end.
  have next : List.range' first (site.memory.2.allocated + 1) =
      List.range' first site.memory.2.allocated ++ [site.issued] := by
    rw [List.range'_concat, Nat.one_mul, issued]
  have ends := recipe.ends_build host pkeyNids site
  generalize recipe.build host.watched pkeyNids site = done at ends ⊢
  -- A number that is issued joins one list or the other.
  cases ends with
  | refused =>
    have quiet : (site.memory.2.note (.allocate recipe.nid none)).released =
        site.memory.2.released := by
      simp [HostLedger.note, HostLedger.released, HostCall.released?]
    exact ⟨issued, freed.trans (by rw [quiet]), by rw [quiet]; exact places⟩
  | completed fills same =>
    have taken := fills.released site.memory.2
    refine ⟨by simp only [issued]; omega, freed.trans (congrArg List.length taken.symm), ?_⟩
    · rw [HostLedger.released, taken, next]
      exact (List.perm_middle.trans (places.cons _)).trans (List.perm_append_singleton _ _).symm
  | abandoned fills same =>
    have taken := fills.released site.memory.2
    refine ⟨by simp only [issued]; omega, ?_, ?_⟩
    · rw [HostLedger.released, List.filterMap_append, taken, List.length_append, ← freed]
      rfl
    · rw [HostLedger.released, List.filterMap_append, taken, next, List.append_assoc]
      exact (List.perm_middle.trans (places.cons _)).trans (List.perm_append_singleton _ _).symm

end Site.Accounts

end DigestProvider
