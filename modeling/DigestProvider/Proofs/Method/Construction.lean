import DigestProvider.Method.Recipe

/-! What a record holds when construction is done, by what its host does with the values it is given. -/

namespace DigestProvider

section Hosts

variable {Library Memory : Type}

/-- Setters that report success have stored their value and changed nothing else. -/
def Host.Stores (host : Host Library Memory) : Prop :=
  -- Refusals, and what the host remembers of the call, are left open.
  ∀ setting method memory next after,
    host.apply setting method memory = (.success, next, after) → next = setting.store method

/-- Setters that report success have stored their value, or have done nothing at all. -/
def Host.StoresOrSkips (host : Host Library Memory) : Prop :=
  -- A host that skips may do so at one call and store at the next.
  ∀ setting method memory next after,
    host.apply setting method memory = (.success, next, after) →
      next = setting.store method ∨ next = method

/-- A host that always stores does not skip. -/
theorem Host.Stores.storesOrSkips {host : Host Library Memory} (stores : host.Stores) :
    host.StoresOrSkips := by
  -- What is stored is stored in either sense.
  intro setting method memory next after applied
  exact .inl (stores setting method memory next after applied)

/-- Records are given out empty, under the identifier that was asked for. -/
def Host.GivesEmpty (host : Host Library Memory) : Prop :=
  -- Refusals and the key type of the record are left open.
  ∀ nid pkeyType memory method after,
    host.allocate nid pkeyType memory = (some method, after) →
      ∃ bound, method = Method.empty nid bound

/-- The stock host stores whatever it accepts. -/
theorem Host.stock_stores : (Host.stock : Host Library Memory).Stores := by
  -- Its one test either refuses or stores.
  intro setting method memory next after applied
  simp only [Host.stock] at applied
  split at applied
  · simp only [Prod.mk.injEq, true_and] at applied
    exact applied.1.symm
  · simp at applied

/-- The stock host gives out empty records. -/
theorem Host.stock_givesEmpty : (Host.stock : Host Library Memory).GivesEmpty := by
  -- The record carries the very identifier and key type that were asked for.
  intro nid pkeyType memory method after given
  simp only [Host.stock, Prod.mk.injEq, Option.some.injEq] at given
  exact ⟨pkeyType, given.1.symm⟩

/-- Settings that a storing host accepts one after another are all in the record. -/
theorem Host.Stores.applyAll {host : Host Library Memory} (stores : host.Stores)
    {settings : List (Setting Library)} {method next : Method Library} {memory after : Memory}
    (applied : host.applyAll settings method memory = (none, next, after)) :
    next = settings.foldl (fun method setting => setting.store method) method := by
  -- Each accepted setting is one step of the fold.
  induction settings generalizing method memory with
  | nil =>
    simp only [Host.applyAll, Prod.mk.injEq, true_and] at applied
    exact applied.1.symm
  | cons setting rest ih =>
    simp only [Host.applyAll] at applied
    split at applied
    · simp at applied
    · rename_i stored remembered accepted
      have kept : stored = setting.store method := stores _ _ _ _ _ accepted
      rw [List.foldl_cons, ← kept]
      exact ih applied

/-- What every accepted setting preserves holds of a record that all settings were accepted for. -/
theorem Host.applyAll_preserves {host : Host Library Memory} {Holds : Method Library → Prop}
    {settings : List (Setting Library)}
    (step : ∀ setting ∈ settings, ∀ method memory next after, Holds method →
      host.apply setting method memory = (.success, next, after) → Holds next)
    {method next : Method Library} {memory after : Memory} (start : Holds method)
    (applied : host.applyAll settings method memory = (none, next, after)) : Holds next := by
  -- The run ends at once for no settings, and else goes on behind the first.
  induction settings generalizing method memory with
  | nil =>
    simp only [Host.applyAll, Prod.mk.injEq, true_and] at applied
    exact applied.1 ▸ start
  | cons setting rest ih =>
    simp only [Host.applyAll] at applied
    split at applied
    · simp at applied
    · rename_i stored remembered accepted
      refine ih (fun other member => step other (List.mem_cons_of_mem setting member)) ?_ applied
      exact step setting List.mem_cons_self _ _ _ _ start accepted

end Hosts

namespace Recipe

variable {Library Memory : Type}

/-- A method works as a recipe prescribes, whatever its identifier, key types and flags are. -/
structure Prescribes (recipe : Recipe Library) (method : Method Library) : Prop where
  /-- The init hook is the recipe's. -/
  init : method.init = some recipe.init
  /-- The update hook is the recipe's. -/
  update : method.update = some recipe.update
  /-- The final hook is the recipe's. -/
  final : method.final = some recipe.final
  /-- The cleanup hook is the recipe's. -/
  cleanup : method.cleanup = some recipe.cleanup
  /-- The digest length is the recipe's. -/
  resultSize : method.resultSize = recipe.resultSize
  /-- The private state is the recipe's. -/
  stateKind : method.stateKind = some recipe.stateKind

/-- The recipe with another digest length in place of its own. -/
def declaring (recipe : Recipe Library) (size : Nat) : Recipe Library :=
  -- The hooks know nothing of it.
  { recipe with resultSize := size }

/-- The record that a recipe makes of another one when every setting is stored. -/
def fill (recipe : Recipe Library) (pkeyNids : List Nid) (method : Method Library) :
    Method Library :=
  -- The order is that of construction.
  (recipe.settings pkeyNids).foldl (fun method setting => setting.store method) method

/-- A filled record works as the recipe prescribes, whatever it held before. -/
theorem prescribes_fill (recipe : Recipe Library) (pkeyNids : List Nid) (method : Method Library) :
    recipe.Prescribes (recipe.fill pkeyNids method) := by
  -- Each field is written by its own setting, and the key types touch none of them.
  cases pkeyNids with
  | nil => exact ⟨rfl, rfl, rfl, rfl, rfl, rfl⟩
  | cons nid rest => exact ⟨rfl, rfl, rfl, rfl, rfl, rfl⟩

/-- Filling keeps the identifier. -/
@[simp] theorem nid_fill (recipe : Recipe Library) (pkeyNids : List Nid)
    (method : Method Library) : (recipe.fill pkeyNids method).nid = method.nid := by
  -- No setting touches it.
  cases pkeyNids <;> rfl

/-- A filled empty record lists the key types it was filled with. -/
theorem requiredPkeyTypes_fill_empty (recipe : Recipe Library) (pkeyNids : List Nid) (nid : Nid)
    (bound : Option Nid) :
    (recipe.fill pkeyNids (Method.empty nid bound)).requiredPkeyTypes = pkeyNids := by
  -- Without key types the setting is left out, and the list stays empty.
  cases pkeyNids <;> rfl

/-- A filled empty record is flagged for signatures exactly if it was filled with key types. -/
theorem flags_fill_empty (recipe : Recipe Library) (pkeyNids : List Nid) (nid : Nid)
    (bound : Option Nid) :
    (recipe.fill pkeyNids (Method.empty nid bound)).flags =
      if pkeyNids = [] then 0 else signatureFlag := by
  -- No other setting touches the flags.
  cases pkeyNids with
  | nil => rfl
  | cons key rest =>
    rw [if_neg (List.cons_ne_nil key rest)]
    -- An empty record has no flags, so the signature flag is the only one.
    show (0 : UInt32) ||| signatureFlag = signatureFlag
    decide

/-- A method that works as prescribed is complete if the prescribed digest is not empty. -/
theorem Prescribes.isComplete {recipe : Recipe Library} {method : Method Library}
    (prescribed : recipe.Prescribes method) (nonempty : 0 < recipe.resultSize) :
    method.isComplete = true := by
  -- Each test of completeness is answered by one of the prescribed fields.
  simp [Method.isComplete, prescribed.init, prescribed.update, prescribed.final,
    prescribed.cleanup, prescribed.resultSize, prescribed.stateKind, nonempty]

/-- What is set in a method is set as a recipe prescribes. -/
structure Bounds (recipe : Recipe Library) (method : Method Library) : Prop where
  /-- An init hook is the recipe's. -/
  init : ∀ hook ∈ method.init, hook = recipe.init
  /-- An update hook is the recipe's. -/
  update : ∀ hook ∈ method.update, hook = recipe.update
  /-- A final hook is the recipe's. -/
  final : ∀ hook ∈ method.final, hook = recipe.final
  /-- A cleanup hook is the recipe's. -/
  cleanup : ∀ hook ∈ method.cleanup, hook = recipe.cleanup
  /-- A digest length other than zero is the recipe's. -/
  resultSize : method.resultSize ≠ 0 → method.resultSize = recipe.resultSize
  /-- A private state is the recipe's. -/
  stateKind : ∀ kind ∈ method.stateKind, kind = recipe.stateKind

/-- Nothing is set in an empty record. -/
theorem bounds_empty (recipe : Recipe Library) (nid : Nid) (bound : Option Nid) :
    recipe.Bounds (Method.empty nid bound) := by
  -- Each condition asks for a field that is set.
  constructor <;> simp [Method.empty]

/-- Storing one of the recipe's settings sets a field as prescribed. -/
theorem Bounds.store {recipe : Recipe Library} {method : Method Library}
    (bounds : recipe.Bounds method) {pkeyNids : List Nid} {setting : Setting Library}
    (member : setting ∈ recipe.settings pkeyNids) : recipe.Bounds (setting.store method) := by
  -- The seven settings write one field each; the key types are no concern of the recipe.
  obtain ⟨init, update, final, cleanup, resultSize, stateKind⟩ := bounds
  simp only [settings, List.cons_append, List.nil_append, List.mem_cons] at member
  rcases member with rfl | rfl | rfl | rfl | rfl | rfl | keys
  · exact ⟨by simp [Setting.store], update, final, cleanup, resultSize, stateKind⟩
  · exact ⟨init, by simp [Setting.store], final, cleanup, resultSize, stateKind⟩
  · exact ⟨init, update, by simp [Setting.store], cleanup, resultSize, stateKind⟩
  · exact ⟨init, update, final, by simp [Setting.store], resultSize, stateKind⟩
  · exact ⟨init, update, final, cleanup, fun _ => rfl, stateKind⟩
  · exact ⟨init, update, final, cleanup, resultSize, by simp [Setting.store]⟩
  · split at keys
    · simp at keys
    · obtain rfl := List.mem_singleton.mp keys
      exact ⟨init, update, final, cleanup, resultSize, stateKind⟩

/-- A complete method with nothing but the recipe's values works as prescribed. -/
theorem Bounds.prescribes {recipe : Recipe Library} {method : Method Library}
    (bounds : recipe.Bounds method) (complete : method.isComplete = true) :
    recipe.Prescribes method := by
  -- Completeness says of each field that it is set.
  simp only [Method.isComplete, Bool.and_eq_true, decide_eq_true_eq, Option.isSome_iff_exists]
    at complete
  obtain ⟨⟨⟨⟨⟨⟨init, hasInit⟩, update, hasUpdate⟩, final, hasFinal⟩, cleanup, hasCleanup⟩, size⟩,
    kind, hasKind⟩ := complete
  exact {
    init := by rw [hasInit, bounds.init init hasInit]
    update := by rw [hasUpdate, bounds.update update hasUpdate]
    final := by rw [hasFinal, bounds.final final hasFinal]
    cleanup := by rw [hasCleanup, bounds.cleanup cleanup hasCleanup]
    resultSize := bounds.resultSize (by omega)
    stateKind := by rw [hasKind, bounds.stateKind kind hasKind] }

/-- A record that left construction was given out by the host, which then accepted every setting. -/
theorem build_eq_ok {host : Host Library Memory} {recipe : Recipe Library} {pkeyNids : List Nid}
    {site : Site Memory} {record : Record Library}
    (built : (recipe.build host pkeyNids site).1 = .ok record) :
    ∃ before given method after,
      host.allocate recipe.nid none before = (some method, given) ∧
      host.applyAll (recipe.settings pkeyNids) method given = (none, record.method, after) := by
  -- Of the three ways out of construction only one answers a record.
  cases allocated : host.allocate recipe.nid none site.memory with
  | mk answer memory =>
    cases answer with
    | none => simp [build, Site.allocate, Site.note, allocated] at built
    | some method =>
      cases applied : host.applyAll (recipe.settings pkeyNids) method memory with
      | mk refused rest =>
        obtain ⟨next, after⟩ := rest
        cases refused with
        | none =>
          simp only [build, Site.allocate, Site.note, allocated, applied,
            Except.ok.injEq] at built
          exact ⟨site.memory, memory, method, after, allocated, by rw [← built, applied]⟩
        | some step => simp [build, Site.allocate, Site.note, allocated, applied] at built

/-- Over a storing host a record leaves construction filled. -/
theorem build_filled {host : Host Library Memory} (stores : host.Stores) {recipe : Recipe Library}
    {pkeyNids : List Nid} {site : Site Memory} {record : Record Library}
    (built : (recipe.build host pkeyNids site).1 = .ok record) :
    ∃ before given method,
      host.allocate recipe.nid none before = (some method, given) ∧
      record.method = recipe.fill pkeyNids method := by
  -- Construction runs all of the recipe's settings.
  obtain ⟨before, given, method, after, allocated, applied⟩ := build_eq_ok built
  exact ⟨before, given, method, allocated, stores.applyAll applied⟩

/-- Over a storing host a record leaves construction as the recipe prescribes. -/
theorem prescribes_of_build {host : Host Library Memory} (stores : host.Stores)
    {recipe : Recipe Library} {pkeyNids : List Nid} {site : Site Memory} {record : Record Library}
    (built : (recipe.build host pkeyNids site).1 = .ok record) :
    recipe.Prescribes record.method := by
  -- Whatever the record was given out with has been written over.
  obtain ⟨before, given, method, allocated, filled⟩ := build_filled stores built
  exact filled ▸ prescribes_fill recipe pkeyNids method

/-- A record that construction makes of the recipe on a host that stores what it accepts. -/
def Makes (recipe : Recipe Library) (record : Record Library) : Prop :=
  -- The host, its memory, the key types and the site are all left open.
  ∃ (Memory : Type) (host : Host Library Memory) (pkeyNids : List Nid) (site : Site Memory),
    host.Stores ∧ (recipe.build host pkeyNids site).1 = .ok record

/-- A record that was made of a recipe works as the recipe prescribes. -/
theorem Makes.prescribes {recipe : Recipe Library} {record : Record Library}
    (made : recipe.Makes record) : recipe.Prescribes record.method := by
  -- The host that it was made on is a storing one.
  obtain ⟨_, _, _, _, stores, built⟩ := made
  exact prescribes_of_build stores built

/-- Over a host that may skip settings, a complete record is as the recipe prescribes all the same. -/
theorem prescribes_of_complete {host : Host Library Memory} (loyal : host.StoresOrSkips)
    (empty : host.GivesEmpty) {recipe : Recipe Library} {pkeyNids : List Nid} {site : Site Memory}
    {record : Record Library} (built : (recipe.build host pkeyNids site).1 = .ok record)
    (complete : record.method.isComplete = true) : recipe.Prescribes record.method := by
  -- Nothing but the recipe's values ever gets into the record.
  obtain ⟨before, given, method, after, allocated, applied⟩ := build_eq_ok built
  obtain ⟨bound, rfl⟩ := empty _ _ _ _ _ allocated
  have bounds : recipe.Bounds record.method := by
    refine Host.applyAll_preserves ?_ (bounds_empty recipe recipe.nid bound) applied
    intro setting member method memory next after bounds accepted
    rcases loyal _ _ _ _ _ accepted with stored | skipped
    · exact stored ▸ bounds.store member
    · exact skipped ▸ bounds
  exact bounds.prescribes complete

end Recipe

end DigestProvider
