import DigestProvider.Proofs.Method.Ledger

/-!
Construction as a script of host calls. Main statement: a host receives the allocation, the settings in order up to
the first that it refuses, and the release of the record if it refused one, and the answer tells which of this came to
pass.
-/

namespace DigestProvider

section Answers

variable {Library Memory : Type}

/-- The host accepts settings one after another, each call with the record that the one before has left. -/
inductive Host.Accepts (host : Host Library Memory) :
    List (Setting Library) → Method Library → Memory → List (HostCall Library) →
      Method Library → Memory → Prop where
  /-- Without settings nothing is called. -/
  | nil {method : Method Library} {memory : Memory} :
    Host.Accepts host [] method memory [] method memory
  /-- The first setting is accepted, and the others are on what that leaves. -/
  | cons {setting : Setting Library} {rest : List (Setting Library)}
      {method next last : Method Library} {memory between after : Memory}
      {calls : List (HostCall Library)}
      (accepted : host.apply setting method memory = (.success, next, between))
      (others : Host.Accepts host rest next between calls last after) :
    Host.Accepts host (setting :: rest) method memory (.apply setting method :: calls) last after

/-- The host accepts settings up to one that it refuses; that call is the last, whatever was to follow. -/
def Host.Refuses (host : Host Library Memory) (settings : List (Setting Library))
    (method : Method Library) (memory : Memory) (refused : Setting Library)
    (calls : List (HostCall Library)) (last : Method Library) (after : Memory) : Prop :=
  ∃ accepted rest made record between,
    settings = accepted ++ refused :: rest ∧
    host.Accepts accepted method memory made record between ∧
    host.apply refused record between = (.failure, last, after) ∧
    -- Even the call that is refused was made.
    calls = made ++ [.apply refused record]

variable {host : Host Library Memory} {settings : List (Setting Library)}
  {method last : Method Library} {memory after : Memory} {calls : List (HostCall Library)}

/-- A host accepts all settings or refuses one of them. -/
theorem Host.accepts_or_refuses (host : Host Library Memory) (settings : List (Setting Library))
    (method : Method Library) (memory : Memory) :
    (∃ calls last after, host.Accepts settings method memory calls last after) ∨
      ∃ refused calls last after, host.Refuses settings method memory refused calls last after := by
  -- The answer to the first setting decides, or else the answers to the others do.
  induction settings generalizing method memory with
  | nil => exact .inl ⟨[], method, memory, .nil⟩
  | cons setting rest ih =>
    rcases answer : host.apply setting method memory with ⟨status, next, between⟩
    cases status with
    | failure =>
      exact .inr ⟨setting, _, next, between, [], rest, [], method, memory, rfl, .nil, answer, rfl⟩
    | success =>
      rcases ih next between with ⟨calls, last, after, accepts⟩ | ⟨refused, calls, last, after, stops⟩
      · exact .inl ⟨_, last, after, .cons answer accepts⟩
      · obtain ⟨accepted, others, made, record, memory', split, accepts, refusal, rfl⟩ := stops
        refine .inr ⟨refused, _, last, after, setting :: accepted, others, _, record, memory', ?_,
          .cons answer accepts, refusal, rfl⟩
        rw [split, List.cons_append]

/-- A watched host enters the calls for settings that it accepts, and is then asked for the others. -/
theorem Host.Accepts.applyAll_watched
    (accepts : host.Accepts settings method memory calls last after) (others : List (Setting Library))
    (ledger : HostLedger Library) :
    host.watched.applyAll (settings ++ others) method (memory, ledger) =
      host.watched.applyAll others last (after, { ledger with calls := ledger.calls ++ calls }) := by
  -- The induction is on the calls, each of which is entered before the next is made.
  induction accepts generalizing ledger with
  | nil => simp
  | @cons setting rest method next last memory between after calls accepted _ ih =>
    have first : host.watched.apply setting method (memory, ledger) =
        (.success, next, between, ledger.note (.apply setting method)) := by
      simp only [Host.watched, accepted]
    rw [List.cons_append, Host.applyAll, first]
    dsimp only
    rw [ih]
    simp [HostLedger.note]

/-- A watched host that refuses a setting has been asked for no other behind it. -/
theorem Host.Refuses.applyAll_watched {refused : Setting Library}
    (refuses : host.Refuses settings method memory refused calls last after)
    (ledger : HostLedger Library) :
    host.watched.applyAll settings method (memory, ledger) =
      (some refused.step, last, after, { ledger with calls := ledger.calls ++ calls }) := by
  obtain ⟨accepted, rest, made, record, between, rfl, accepts, refusal, rfl⟩ := refuses
  -- The call that is refused is entered like any other.
  rw [accepts.applyAll_watched, Host.applyAll]
  simp only [Host.watched, refusal, HostLedger.note, List.append_assoc]

end Answers

namespace Recipe

variable {Library Memory : Type} (host : Host Library Memory) (recipe : Recipe Library)
  (pkeyNids : List Nid) (site : Site (Memory × HostLedger Library))

/-- A host that gives out no record is called no more. -/
theorem build_watched_of_refused
    (answer : (host.allocate recipe.nid none site.memory.1).1 = none) :
    (recipe.build host.watched pkeyNids site).1 = .error (.methodAllocation recipe.nid) ∧
      (recipe.build host.watched pkeyNids site).2.memory.2.calls =
        site.memory.2.calls ++ [.allocate recipe.nid none] := by
  -- The allocation is entered although it gives nothing out, and construction ends there.
  have refused : host.watched.allocate recipe.nid none site.memory =
      (none, (host.allocate recipe.nid none site.memory.1).2,
        site.memory.2.note (.allocate recipe.nid none)) := by
    simp only [Host.watched, answer]
    rfl
  rw [build_of_refused refused]
  exact ⟨rfl, rfl⟩

variable {method : Method Library} {given : Memory}

/-- A watched host enters the allocation of a record that it gives out. -/
theorem allocate_watched
    (answer : host.allocate recipe.nid none site.memory.1 = (some method, given)) :
    host.watched.allocate recipe.nid none site.memory =
      (some method, given,
        { allocated := site.memory.2.allocated + 1
          freed := site.memory.2.freed
          calls := site.memory.2.calls ++ [.allocate recipe.nid none] }) := by
  -- A record that is given out is counted as allocated, besides the call.
  simp only [Host.watched, answer]
  rfl

/-- A host that accepts every setting is called for nothing else, and the record leaves as it left it. -/
theorem build_watched_of_accepts
    (answer : host.allocate recipe.nid none site.memory.1 = (some method, given))
    {calls : List (HostCall Library)} {last : Method Library} {after : Memory}
    (accepts : host.Accepts (recipe.settings pkeyNids) method given calls last after) :
    (recipe.build host.watched pkeyNids site).1 = .ok ⟨site.issued, last⟩ ∧
      (recipe.build host.watched pkeyNids site).2.memory.2.calls =
        site.memory.2.calls ++ .allocate recipe.nid none :: calls := by
  -- Behind the allocation the ledger has one entry for each setting, and the last record is what is answered.
  have allocated := allocate_watched host recipe site answer
  have ran := accepts.applyAll_watched [] { site.memory.2 with
    allocated := site.memory.2.allocated + 1
    calls := site.memory.2.calls ++ [.allocate recipe.nid none] }
  rw [List.append_nil, Host.applyAll] at ran
  rw [build_of_accepted allocated ran]
  exact ⟨rfl, by simp⟩

/-- A host that refuses a setting is asked for no other, and gets the record back as it left it. -/
theorem build_watched_of_refuses
    (answer : host.allocate recipe.nid none site.memory.1 = (some method, given))
    {refused : Setting Library} {calls : List (HostCall Library)} {last : Method Library}
    {after : Memory}
    (refuses : host.Refuses (recipe.settings pkeyNids) method given refused calls last after) :
    (recipe.build host.watched pkeyNids site).1 = .error (.methodStep recipe.nid refused.step) ∧
      (recipe.build host.watched pkeyNids site).2.memory.2.calls =
        site.memory.2.calls ++
          (.allocate recipe.nid none :: calls ++ [.release ⟨site.issued, last⟩]) := by
  -- The release comes behind the call that was refused, and takes back the record as that call left it.
  have allocated := allocate_watched host recipe site answer
  have ran := refuses.applyAll_watched { site.memory.2 with
    allocated := site.memory.2.allocated + 1
    calls := site.memory.2.calls ++ [.allocate recipe.nid none] }
  rw [build_of_abandoned allocated ran]
  refine ⟨rfl, ?_⟩
  simp [Host.watched, HostLedger.note]

/-- Construction answers a record exactly if the host gives one out and accepts every setting. -/
theorem build_watched_ok_iff
    (answer : host.allocate recipe.nid none site.memory.1 = (some method, given))
    (record : Record Library) :
    (recipe.build host.watched pkeyNids site).1 = .ok record ↔
      ∃ calls last after, host.Accepts (recipe.settings pkeyNids) method given calls last after ∧
        record = ⟨site.issued, last⟩ := by
  constructor
  · intro built
    -- A refusal would have led to an error.
    rcases host.accepts_or_refuses (recipe.settings pkeyNids) method given with
      ⟨calls, last, after, accepts⟩ | ⟨refused, calls, last, after, refuses⟩
    · rw [(build_watched_of_accepts host recipe pkeyNids site answer accepts).1] at built
      exact ⟨calls, last, after, accepts, (Except.ok.inj built).symm⟩
    · rw [(build_watched_of_refuses host recipe pkeyNids site answer refuses).1] at built
      cases built
  · rintro ⟨calls, last, after, accepts, rfl⟩
    exact (build_watched_of_accepts host recipe pkeyNids site answer accepts).1

/-- Construction names a setter exactly if it is that of the first setting refused. -/
theorem build_watched_step_iff
    (answer : host.allocate recipe.nid none site.memory.1 = (some method, given))
    (step : BuildStep) :
    (recipe.build host.watched pkeyNids site).1 = .error (.methodStep recipe.nid step) ↔
      ∃ refused calls last after,
        host.Refuses (recipe.settings pkeyNids) method given refused calls last after ∧
          refused.step = step := by
  constructor
  · intro failed
    -- A host that accepts everything would have led to a record.
    rcases host.accepts_or_refuses (recipe.settings pkeyNids) method given with
      ⟨calls, last, after, accepts⟩ | ⟨refused, calls, last, after, refuses⟩
    · rw [(build_watched_of_accepts host recipe pkeyNids site answer accepts).1] at failed
      cases failed
    · rw [(build_watched_of_refuses host recipe pkeyNids site answer refuses).1] at failed
      cases failed
      exact ⟨refused, calls, last, after, refuses, rfl⟩
  · rintro ⟨refused, calls, last, after, refuses, rfl⟩
    exact (build_watched_of_refuses host recipe pkeyNids site answer refuses).1

/-- Construction blames the allocation exactly if the host gives out no record. -/
theorem build_watched_allocation_iff :
    (recipe.build host.watched pkeyNids site).1 = .error (.methodAllocation recipe.nid) ↔
      (host.allocate recipe.nid none site.memory.1).1 = none := by
  -- The other two ends of construction answer a record or blame a setter.
  constructor
  · intro failed
    cases answer : (host.allocate recipe.nid none site.memory.1).1 with
    | none => rfl
    | some method =>
      -- With a record in hand construction comes to another end.
      have given : host.allocate recipe.nid none site.memory.1 =
          (some method, (host.allocate recipe.nid none site.memory.1).2) := Prod.ext answer rfl
      rcases host.accepts_or_refuses (recipe.settings pkeyNids) method _ with
        ⟨calls, last, after, accepts⟩ | ⟨refused, calls, last, after, refuses⟩
      · rw [(build_watched_of_accepts host recipe pkeyNids site given accepts).1] at failed
        cases failed
      · rw [(build_watched_of_refuses host recipe pkeyNids site given refuses).1] at failed
        cases failed
  · intro answer
    exact (build_watched_of_refused host recipe pkeyNids site answer).1

end Recipe

section Stock

variable {Library Memory : Type}

/-- The stock host stores settings that are admitted, whatever it is asked for behind them. -/
theorem Host.stock_applyAll_append {settings : List (Setting Library)}
    (admitted : ∀ setting ∈ settings, setting.isAdmitted = true) (others : List (Setting Library))
    (method : Method Library) (memory : Memory) :
    Host.stock.applyAll (settings ++ others) method memory =
      Host.stock.applyAll others (settings.foldl (fun method setting => setting.store method) method)
        memory := by
  -- Each setting is stored before the next is looked at.
  induction settings generalizing method with
  | nil => rfl
  | cons setting rest ih =>
    obtain ⟨now, later⟩ := List.forall_mem_cons.mp admitted
    rw [List.cons_append, Host.applyAll, List.foldl_cons, ← ih later]
    simp only [Host.stock, now, if_true]

/-- The stock host stops at a setting that is not admitted. -/
theorem Host.stock_applyAll_of_rejected {settings : List (Setting Library)}
    (admitted : ∀ setting ∈ settings, setting.isAdmitted = true) {setting : Setting Library}
    (rejected : setting.isAdmitted = false) (others : List (Setting Library))
    (method : Method Library) (memory : Memory) :
    (Host.stock.applyAll (settings ++ setting :: others) method memory).1 = some setting.step := by
  -- The settings in front of it have been stored.
  rw [Host.stock_applyAll_append admitted, Host.applyAll]
  simp only [Host.stock, rejected, Bool.false_eq_true, if_false]

namespace Recipe

variable (recipe : Recipe Library) (pkeyNids : List Nid)

/-- A digest length is admitted from one byte to the longest. -/
theorem size_admitted_iff :
    (Setting.resultSize recipe.resultSize : Setting Library).isAdmitted = true ↔
      1 ≤ recipe.resultSize ∧ recipe.resultSize ≤ 64 := by
  -- The longest digest that a host has room for takes sixty-four bytes.
  simp only [Setting.isAdmitted, Bool.and_eq_true, decide_eq_true_eq]
  exact Iff.rfl

/-- The settings of hooks are admitted whatever the hooks are. -/
theorem hooks_admitted : ∀ setting ∈ ([.init recipe.init, .update recipe.update,
    .final recipe.final, .cleanup recipe.cleanup] : List (Setting Library)),
    setting.isAdmitted = true := by
  simp [Setting.isAdmitted]

/-- All settings are admitted if the digest length and the private state are. -/
theorem settings_admitted
    (size : (Setting.resultSize recipe.resultSize : Setting Library).isAdmitted = true)
    (occupies : recipe.stateKind.occupiesMemory = true) :
    ∀ setting ∈ recipe.settings pkeyNids, setting.isAdmitted = true := by
  -- Hooks and key types are always admitted, so the two that may be refused are all that is asked for.
  intro setting member
  -- The key types come last, and only if there are any.
  simp only [settings, List.mem_append, List.mem_cons, List.not_mem_nil, or_false] at member
  rcases member with (rfl | rfl | rfl | rfl | rfl | rfl) | keys
  · rfl
  · rfl
  · rfl
  · rfl
  · exact size
  · exact occupies
  · split at keys
    · cases keys
    · rw [List.mem_singleton.mp keys]
      rfl

/-- The stock host refuses a recipe for its digest length or else for its private state, and for nothing else. -/
theorem build_stock (site : Site Memory) :
    (recipe.build Host.stock pkeyNids site).1 =
      if (Setting.resultSize recipe.resultSize : Setting Library).isAdmitted then
        if recipe.stateKind.occupiesMemory then
          .ok ⟨site.issued, recipe.fill pkeyNids (Method.empty recipe.nid none)⟩
        else .error (.methodStep recipe.nid .stateKind)
      else .error (.methodStep recipe.nid .resultSize) := by
  -- The digest length comes before the private state, so it is the first to be blamed.
  let blank : Method Library := Method.empty recipe.nid none
  let keys : List (Setting Library) := if pkeyNids.isEmpty then [] else [.pkeyTypes pkeyNids]
  have given : Host.stock.allocate recipe.nid none site.memory = (some blank, site.memory) := rfl
  have stopped {step : BuildStep}
      (ran : (Host.stock.applyAll (recipe.settings pkeyNids) blank site.memory).1 = some step) :
      (recipe.build Host.stock pkeyNids site).1 = .error (.methodStep recipe.nid step) := by
    rw [build_of_abandoned given (Prod.ext ran rfl)]
  by_cases size : (Setting.resultSize recipe.resultSize : Setting Library).isAdmitted = true
  · rw [if_pos size]
    by_cases occupies : recipe.stateKind.occupiesMemory = true
    · rw [if_pos occupies]
      have ran := Host.stock_applyAll_append (recipe.settings_admitted pkeyNids size occupies) []
        blank site.memory
      rw [List.append_nil, Host.applyAll] at ran
      rw [build_of_accepted given ran]
      rfl
    · rw [if_neg occupies]
      -- The digest length has been stored behind the four hooks.
      have front : ∀ setting ∈ ([.init recipe.init, .update recipe.update, .final recipe.final,
          .cleanup recipe.cleanup] ++ [.resultSize recipe.resultSize] : List (Setting Library)),
          setting.isAdmitted = true := by
        intro setting member
        rcases List.mem_append.mp member with hook | last
        · exact recipe.hooks_admitted setting hook
        · rw [List.mem_singleton.mp last]
          exact size
      have rejected : (Setting.stateKind recipe.stateKind).isAdmitted = false :=
        Bool.eq_false_iff.mpr occupies
      exact stopped (Host.stock_applyAll_of_rejected front rejected keys blank site.memory)
  · rw [if_neg size]
    exact stopped (Host.stock_applyAll_of_rejected recipe.hooks_admitted
      (Bool.eq_false_iff.mpr size) (.stateKind recipe.stateKind :: keys) blank site.memory)

/-- A digest length that is not admitted is what the stock host refuses. -/
theorem build_stock_of_size (wrong : ¬(1 ≤ recipe.resultSize ∧ recipe.resultSize ≤ 64))
    (site : Site Memory) :
    (recipe.build Host.stock pkeyNids site).1 = .error (.methodStep recipe.nid .resultSize) := by
  -- The private state is not looked at any more.
  rw [build_stock, if_neg (mt recipe.size_admitted_iff.mp wrong)]

/-- Private state that takes no memory is what the stock host refuses behind an admitted digest length. -/
theorem build_stock_of_state (size : 1 ≤ recipe.resultSize ∧ recipe.resultSize ≤ 64)
    (lacks : recipe.stateKind.occupiesMemory = false) (site : Site Memory) :
    (recipe.build Host.stock pkeyNids site).1 = .error (.methodStep recipe.nid .stateKind) := by
  -- The first check passes, and the second is made.
  rw [build_stock, if_pos (recipe.size_admitted_iff.mpr size), if_neg (by simp [lacks])]

/-- The stock host completes a recipe that it has nothing to refuse in. -/
theorem build_stock_of_admitted (size : 1 ≤ recipe.resultSize ∧ recipe.resultSize ≤ 64)
    (occupies : recipe.stateKind.occupiesMemory = true) (site : Site Memory) :
    (recipe.build Host.stock pkeyNids site).1 =
      .ok ⟨site.issued, recipe.fill pkeyNids (Method.empty recipe.nid none)⟩ := by
  -- Both checks pass.
  rw [build_stock, if_pos (recipe.size_admitted_iff.mpr size), if_pos occupies]

/-- A record that the stock host completes is the recipe's, which had nothing in it to refuse. -/
theorem build_stock_eq_ok {site : Site Memory} {record : Record Library}
    (built : (recipe.build Host.stock pkeyNids site).1 = .ok record) :
    ((1 ≤ recipe.resultSize ∧ recipe.resultSize ≤ 64) ∧
        recipe.stateKind.occupiesMemory = true) ∧
      record = ⟨site.issued, recipe.fill pkeyNids (Method.empty recipe.nid none)⟩ := by
  -- Either refusal would have led to an error.
  by_cases size : 1 ≤ recipe.resultSize ∧ recipe.resultSize ≤ 64
  · cases occupies : recipe.stateKind.occupiesMemory with
    | true =>
      rw [recipe.build_stock_of_admitted pkeyNids size occupies] at built
      exact ⟨⟨size, rfl⟩, (Except.ok.inj built).symm⟩
    | false =>
      rw [recipe.build_stock_of_state pkeyNids size occupies] at built
      cases built
  · rw [recipe.build_stock_of_size pkeyNids size] at built
    cases built

/-- A filled empty record holds what the recipe prescribes and what it was filled with, and nothing else. -/
theorem fill_empty (bound : Option Nid) :
    recipe.fill pkeyNids (Method.empty recipe.nid bound) =
      { nid := recipe.nid
        pkeyType := bound
        init := some recipe.init
        update := some recipe.update
        final := some recipe.final
        cleanup := some recipe.cleanup
        resultSize := recipe.resultSize
        stateKind := some recipe.stateKind
        requiredPkeyTypes := pkeyNids
        flags := if pkeyNids = [] then 0 else signatureFlag } := by
  -- Nothing is left of the empty record but its identifier and its binding.
  rw [← flags_fill_empty recipe pkeyNids recipe.nid bound]
  cases pkeyNids <;> rfl

/-- Construction is a script of host calls that stops at the first refusal: the host is asked for a record, then for
each setting in order with the recipe's value, and gets the record back exactly if it refused one. On the stock host
only the digest length and the private state can be refused, in this order, and the record holds just the recipe. -/
theorem build_follows_script (recipe : Recipe Library) (pkeyNids : List Nid) :
    let script : List (Setting Library) :=
      [.init recipe.init, .update recipe.update, .final recipe.final, .cleanup recipe.cleanup,
        .resultSize recipe.resultSize, .stateKind recipe.stateKind] ++
        (if pkeyNids = [] then [] else [.pkeyTypes pkeyNids])
    (∀ (Memory : Type) (host : Host Library Memory) (site : Site (Memory × HostLedger Library)),
      let start := host.allocate recipe.nid none site.memory.1
      let done := recipe.build host.watched pkeyNids site
      let received := fun calls => done.2.memory.2.calls = site.memory.2.calls ++ calls
      (done.1 = .error (.methodAllocation recipe.nid) ↔ start.1 = none) ∧
      (start.1 = none → received [.allocate recipe.nid none]) ∧
      ∀ method, start.1 = some method →
        -- What the host answers to the script decides both the answer and the calls.
        (∀ step, done.1 = .error (.methodStep recipe.nid step) ↔
          ∃ refused calls last after,
            host.Refuses script method start.2 refused calls last after ∧ refused.step = step) ∧
        (∀ refused calls last after, host.Refuses script method start.2 refused calls last after →
          received (.allocate recipe.nid none :: calls ++ [.release ⟨site.issued, last⟩])) ∧
        (∀ record, done.1 = .ok record ↔
          ∃ calls last after,
            host.Accepts script method start.2 calls last after ∧ record = ⟨site.issued, last⟩) ∧
        (∀ calls last after, host.Accepts script method start.2 calls last after →
          received (.allocate recipe.nid none :: calls)) ∧
        ((∃ calls last after, host.Accepts script method start.2 calls last after) ∨
          ∃ refused calls last after,
            host.Refuses script method start.2 refused calls last after)) ∧
    ∀ (Memory : Type) (site : Site Memory),
      let answer := (recipe.build Host.stock pkeyNids site).1
      ((∃ record, answer = .ok record) ↔
        (1 ≤ recipe.resultSize ∧ recipe.resultSize ≤ 64) ∧ recipe.stateKind.occupiesMemory = true) ∧
      (¬(1 ≤ recipe.resultSize ∧ recipe.resultSize ≤ 64) →
        answer = .error (.methodStep recipe.nid .resultSize)) ∧
      (1 ≤ recipe.resultSize ∧ recipe.resultSize ≤ 64 → recipe.stateKind.occupiesMemory = false →
        answer = .error (.methodStep recipe.nid .stateKind)) ∧
      ∀ record, answer = .ok record →
        record.method.isComplete = true ∧
        record.method =
          { nid := recipe.nid
            pkeyType := none
            init := some recipe.init
            update := some recipe.update
            final := some recipe.final
            cleanup := some recipe.cleanup
            resultSize := recipe.resultSize
            stateKind := some recipe.stateKind
            requiredPkeyTypes := pkeyNids
            flags := if pkeyNids = [] then 0 else signatureFlag } := by
  intro script
  -- The script is the list of settings that the recipe makes.
  have same : script = recipe.settings pkeyNids := by
    simp only [script, settings, List.isEmpty_iff]
  rw [same]
  constructor
  · -- Over any host, each conjunct is one of the lemmas on the watched host.
    intro Memory host site start done received
    refine ⟨build_watched_allocation_iff host recipe pkeyNids site,
      fun refused => (build_watched_of_refused host recipe pkeyNids site refused).2, ?_⟩
    intro method given
    have answer : host.allocate recipe.nid none site.memory.1 = (some method, start.2) :=
      Prod.ext given rfl
    exact ⟨build_watched_step_iff host recipe pkeyNids site answer,
      fun refused calls last after refuses =>
        (build_watched_of_refuses host recipe pkeyNids site answer refuses).2,
      build_watched_ok_iff host recipe pkeyNids site answer,
      fun calls last after accepts =>
        (build_watched_of_accepts host recipe pkeyNids site answer accepts).2,
      host.accepts_or_refuses _ _ _⟩
  · -- On the stock host the two checks decide, the one for the digest length first.
    intro Memory site answer
    refine ⟨⟨?_, ?_⟩, fun wrong => recipe.build_stock_of_size pkeyNids wrong site,
      fun size lacks => recipe.build_stock_of_state pkeyNids size lacks site, ?_⟩
    · rintro ⟨record, built⟩
      exact (recipe.build_stock_eq_ok pkeyNids built).1
    · rintro ⟨size, occupies⟩
      exact ⟨_, recipe.build_stock_of_admitted pkeyNids size occupies site⟩
    · intro record built
      obtain ⟨⟨size, _⟩, rfl⟩ := recipe.build_stock_eq_ok pkeyNids built
      exact ⟨(recipe.prescribes_fill pkeyNids _).isComplete size.1,
        recipe.fill_empty pkeyNids none⟩

end Recipe

end Stock

end DigestProvider
