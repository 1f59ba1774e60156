import DigestProvider.Engine

/-!
Every call that may publish comes down to records offered to the registry one after another. Main statement: a slot
keeps what it holds, and else takes the first record offered under its identifier.
-/

namespace DigestProvider

namespace Registry

variable {Library : Type}

/-- A record that is offered takes its algorithm's slot, provided there is one and it is free. -/
def offer (registry : Registry Library) (record : Record Library) : Registry Library :=
  -- Nobody is told what became of the record.
  match position? record.method.nid with
  | none => registry
  | some position =>
    match registry.slots.get position with
    | none => registry.fill position record
    | some _ => registry

/-- Publication changes the registry as the offer of the record does, whoever the host is. -/
@[simp] theorem registry_publish {Memory : Type} (host : Host Library Memory)
    (record : Record Library) (registry : Registry Library) (site : Site Memory) :
    (registry.publish host record site).2.1 = registry.offer record := by
  -- The host is concerned only with records that are turned away.
  unfold publish offer
  cases position? record.method.nid with
  | none => rfl
  | some position =>
    dsimp only
    cases registry.slots.get position with
    | none => rfl
    | some earlier => rfl

/-- An identifier of no algorithm has no slot. -/
theorem position?_of_unknown {nid : Nid} (unknown : Algorithm.ofNid? nid = none) :
    position? nid = none := by
  -- The search stops at the algorithm.
  rw [position?, unknown, Option.bind_none]

/-- An algorithm's identifier has a slot, which holds what is published for the algorithm. -/
theorem exists_position_of_known {nid : Nid} {algorithm : Algorithm}
    (known : Algorithm.ofNid? nid = some algorithm) :
    ∃ position, position? nid = some position ∧
      ∀ registry : Registry Library, registry.slot algorithm = registry.slots.get position := by
  -- Every algorithm has a position, and the look-up by its identifier goes there.
  obtain ⟨position, stands⟩ := algorithm.exists_position
  have located : position? nid = some position := by rw [position?, known, Option.bind_some, stands]
  refine ⟨position, located, fun registry => ?_⟩
  rw [slot, Algorithm.nid_of_ofNid? known, get?, located, Option.bind_some]

/-- Two identifiers that share a slot are one. -/
theorem nid_eq_of_position? {nid other : Nid} {position : Fin Algorithm.all.length}
    (located : position? nid = some position) (also : position? other = some position) :
    nid = other := by
  -- The algorithm of either is the one that stands at the position.
  obtain ⟨algorithm, known, stands⟩ := Option.bind_eq_some_iff.mp located
  obtain ⟨second, alsoKnown, alsoStands⟩ := Option.bind_eq_some_iff.mp also
  have same : algorithm = second :=
    (Algorithm.position?_eq_some_iff.mp stands).symm.trans
      (Algorithm.position?_eq_some_iff.mp alsoStands)
  rw [← Algorithm.nid_of_ofNid? known, ← Algorithm.nid_of_ofNid? alsoKnown, same]

/-- Nothing is found under an identifier of no algorithm. -/
theorem get?_of_unknown {nid : Nid} (unknown : Algorithm.ofNid? nid = none)
    (registry : Registry Library) : registry.get? nid = none := by
  -- There is no slot to look into.
  rw [get?, position?_of_unknown unknown, Option.bind_none]

/-- What is found under an algorithm's identifier is what its slot holds. -/
theorem get?_of_known {nid : Nid} {algorithm : Algorithm}
    (known : Algorithm.ofNid? nid = some algorithm) (registry : Registry Library) :
    registry.get? nid = registry.slot algorithm := by
  -- The algorithm carries this very identifier.
  rw [slot, Algorithm.nid_of_ofNid? known]

/-- What is found under an algorithm's own identifier is what its slot holds. -/
@[simp] theorem get?_nid (algorithm : Algorithm) (registry : Registry Library) :
    registry.get? algorithm.nid = registry.slot algorithm :=
  rfl

/-- Nothing is found in an empty registry. -/
@[simp] theorem get?_empty (nid : Nid) : (empty : Registry Library).get? nid = none := by
  -- There may be a slot, and it is free.
  unfold get? empty
  cases position? nid with
  | none => rfl
  | some position => exact Vector.getElem_replicate position.isLt

/-- A slot that is filled holds the record, and the others keep what they hold. -/
theorem get?_fill {nid : Nid} {other : Fin Algorithm.all.length}
    (located : position? nid = some other) (registry : Registry Library)
    (position : Fin Algorithm.all.length) (record : Record Library) :
    (registry.fill position record).get? nid =
      if position = other then some record else registry.get? nid := by
  -- The vector of slots is changed at one position.
  have slots : (registry.fill position record).slots.get other =
      if position.val = other.val then some record else registry.slots.get other :=
    Vector.getElem_set position.isLt other.isLt
  rw [get?, get?, located, Option.bind_some, Option.bind_some, slots]
  simp only [Fin.val_inj]

/-- An offer leaves what is found alone, and else is found under its own identifier. -/
theorem get?_offer {nid : Nid} {algorithm : Algorithm}
    (known : Algorithm.ofNid? nid = some algorithm) (registry : Registry Library)
    (record : Record Library) :
    (registry.offer record).get? nid =
      (registry.get? nid).or (if record.method.nid = nid then some record else none) := by
  -- The cases are whether the record asks for this slot, and what its own slot holds.
  obtain ⟨position, located, holds⟩ := exists_position_of_known known
  unfold offer
  by_cases own : record.method.nid = nid
  · -- The offer is for this very slot, which is free or taken.
    have found : registry.get? nid = registry.slots.get position :=
      (get?_of_known known registry).trans (holds registry)
    rw [own, located, if_pos rfl, found]
    dsimp only
    cases held : registry.slots.get position with
    | none => rw [get?_fill located, if_pos rfl, Option.none_or]
    | some earlier => rw [found, held, Option.some_or]
  · -- The offer is for another slot or for none at all.
    rw [if_neg own, Option.or_none]
    cases offered : position? record.method.nid with
    | none => rfl
    | some other =>
      have apart : other ≠ position := fun same =>
        own (nid_eq_of_position? (same ▸ offered) located)
      dsimp only
      cases registry.slots.get other with
      | none => rw [get?_fill located, if_neg apart]
      | some earlier => rfl

/-- An offer leaves what a slot holds, and else fills the slot of its own algorithm. -/
theorem slot_offer (registry : Registry Library) (record : Record Library)
    (algorithm : Algorithm) :
    (registry.offer record).slot algorithm =
      (registry.slot algorithm).or
        (if record.method.nid = algorithm.nid then some record else none) :=
  get?_offer (Algorithm.ofNid?_nid algorithm) registry record

/-- Offers one after another leave what is found alone, and else the first under the identifier is found. -/
theorem get?_offers {nid : Nid} {algorithm : Algorithm}
    (known : Algorithm.ofNid? nid = some algorithm) (records : List (Record Library))
    (registry : Registry Library) :
    (records.foldl offer registry).get? nid =
      (registry.get? nid).or (records.find? fun record => record.method.nid = nid) := by
  -- The first offer is found at once or passed over for good.
  induction records generalizing registry with
  | nil => simp
  | cons record rest ih =>
    rw [List.foldl_cons, ih, get?_offer known]
    by_cases own : record.method.nid = nid
    · rw [if_pos own, List.find?_cons_of_pos (by simpa using own), Option.or_assoc,
        Option.some_or]
    · rw [if_neg own, List.find?_cons_of_neg (by simpa using own), Option.or_none]

/-- Offers one after another leave a record that is found where it is. -/
theorem get?_offers_of_some {registry : Registry Library} {nid : Nid} {record : Record Library}
    (found : registry.get? nid = some record) (records : List (Record Library)) :
    (records.foldl offer registry).get? nid = some record := by
  -- An identifier under which something is found is an algorithm's.
  cases known : Algorithm.ofNid? nid with
  | none => simp [get?_of_unknown known] at found
  | some algorithm => rw [get?_offers known, found, Option.some_or]

end Registry

/-- What a recipe's construction offers for publication: the record, if the host lets it be completed. -/
def Recipe.offers {Library Memory : Type} (host : Host Library Memory) (recipe : Recipe Library)
    (pkeyNids : List Nid) (site : Site Memory) : List (Record Library) :=
  -- A record that the host refused to complete is offered to nobody.
  match (recipe.build host pkeyNids site).1 with
  | .ok record => [record]
  | .error _ => []

/-- The registration of a recipe changes the registry by what construction offers. -/
theorem Recipe.registry_register {Library Memory : Type} (host : Host Library Memory)
    (recipe : Recipe Library) (pkeyNids : List Nid) (registry : Registry Library)
    (site : Site Memory) :
    (recipe.register host pkeyNids registry site).2.1 =
      (recipe.offers host pkeyNids site).foldl Registry.offer registry := by
  -- Construction either offers nothing or offers its one record.
  unfold register offers
  rcases recipe.build host pkeyNids site with ⟨answer, after⟩
  cases answer with
  | error cause => rfl
  | ok record => exact Registry.registry_publish host record registry after

namespace Build

variable {Library Memory : Type} [DedicatedStates Library]

/-- What is offered while registration takes up algorithms one after another. -/
def offersAlong (host : Host Library Memory) (build : Build Library) (config : EngineConfig) :
    List Algorithm → Progress Library Memory → List (Record Library)
  | [], _ => []
  -- The rest is taken up where the first algorithm left the site.
  | algorithm :: rest, progress =>
    (if config.wants (some algorithm) then
      (build.recipe algorithm).offers host config.requiredKeys progress.site
    else []) ++ build.offersAlong host config rest (build.advance host config progress algorithm)

/-- One step of registration changes the registry by what the algorithm's recipe offers. -/
theorem registry_advance (host : Host Library Memory) (build : Build Library)
    (config : EngineConfig) (progress : Progress Library Memory) (algorithm : Algorithm) :
    (build.advance host config progress algorithm).registry =
      (if config.wants (some algorithm) then
        (build.recipe algorithm).offers host config.requiredKeys progress.site
      else []).foldl Registry.offer progress.registry := by
  -- An algorithm that is not wanted offers nothing.
  unfold advance
  by_cases wanted : config.wants (some algorithm) = true
  · -- The answer decides what is reported, not what is in the registry.
    simp only [wanted, if_true, registerLogged]
    rw [← Recipe.registry_register]
    cases ((build.recipe algorithm).register host config.requiredKeys progress.registry
      progress.site).1 <;> rfl
  · simp only [wanted, Bool.false_eq_true, if_false, List.foldl_nil]

/-- Registration of many algorithms changes the registry by what is offered along the way. -/
theorem registry_advanceAll (host : Host Library Memory) (build : Build Library)
    (config : EngineConfig) (algorithms : List Algorithm) (progress : Progress Library Memory) :
    (algorithms.foldl (build.advance host config) progress).registry =
      (build.offersAlong host config algorithms progress).foldl Registry.offer
        progress.registry := by
  -- The offers of the first algorithm come before those of the rest.
  induction algorithms generalizing progress with
  | nil => rfl
  | cons algorithm rest ih =>
    rw [List.foldl_cons, ih, registry_advance, offersAlong, List.foldl_append]

end Build

/-- A call that may publish records. -/
inductive Registration (Library : Type) where
  /-- A record made elsewhere is published. -/
  | publish (record : Record Library)
  /-- A recipe is registered for these key types. -/
  | register (recipe : Recipe Library) (pkeyNids : List Nid)
  /-- A build registers one of its algorithms. -/
  | initMethod (build : Build Library) (algorithm : Algorithm)
  /-- A build registers every algorithm that the configuration asks for. -/
  | initDigests (build : Build Library) (config : EngineConfig)

/-- A registry, and the site where records for it are made. -/
structure Registrar (Library Memory : Type) where
  /-- What is published. -/
  registry : Registry Library
  /-- Where records are made. -/
  site : Site Memory

namespace Registrar

variable {Library Memory : Type} [DedicatedStates Library]

/-- Runs one call on a host. -/
def perform (registrar : Registrar Library Memory)
    (request : Host Library Memory × Registration Library) : Registrar Library Memory :=
  -- The answer of the call is dropped.
  match request.2 with
  | .publish record =>
    let (_, registry, site) := registrar.registry.publish request.1 record registrar.site
    { registry, site }
  | .register recipe pkeyNids =>
    let (_, registry, site) :=
      recipe.register request.1 pkeyNids registrar.registry registrar.site
    { registry, site }
  | .initMethod build algorithm =>
    let (_, registry, site) :=
      build.initMethod request.1 algorithm registrar.registry registrar.site
    { registry, site }
  | .initDigests build config =>
    let (_, registry, site) :=
      build.initDigests request.1 config registrar.registry registrar.site
    { registry, site }

/-- Runs calls one after another, each on a host of its own. -/
def performAll (registrar : Registrar Library Memory)
    (requests : List (Host Library Memory × Registration Library)) : Registrar Library Memory :=
  requests.foldl perform registrar

/-- What a call offers for publication. -/
def offers (registrar : Registrar Library Memory)
    (request : Host Library Memory × Registration Library) : List (Record Library) :=
  match request.2 with
  | .publish record => [record]
  | .register recipe pkeyNids => recipe.offers request.1 pkeyNids registrar.site
  | .initMethod build algorithm =>
    if build.includes algorithm then
      (build.recipe algorithm).offers request.1 [] registrar.site
    else []
  | .initDigests build config =>
    match config.validate with
    | .error _ => []
    | .ok _ =>
      build.offersAlong request.1 config build.algorithms
        { registry := registrar.registry, site := registrar.site.note .registrationEntered }

/-- What calls one after another offer for publication. -/
def offersAll (registrar : Registrar Library Memory) :
    List (Host Library Memory × Registration Library) → List (Record Library)
  | [] => []
  | request :: rest => registrar.offers request ++ (registrar.perform request).offersAll rest

/-- A call changes the registry by what it offers. -/
theorem registry_perform (registrar : Registrar Library Memory)
    (request : Host Library Memory × Registration Library) :
    (registrar.perform request).registry =
      (registrar.offers request).foldl Registry.offer registrar.registry := by
  -- Each kind of call comes down to publications, none or several.
  rcases request with ⟨host, call⟩
  cases call with
  | publish record =>
    exact Registry.registry_publish host record registrar.registry registrar.site
  | register recipe pkeyNids =>
    exact recipe.registry_register host pkeyNids registrar.registry registrar.site
  | initMethod build algorithm =>
    simp only [perform, offers, Build.initMethod]
    split
    · exact Recipe.registry_register host (build.recipe algorithm) [] registrar.registry
        registrar.site
    · rfl
  | initDigests build config =>
    simp only [perform, offers, Build.initDigests]
    cases config.validate with
    | error cause => rfl
    | ok _ => exact build.registry_advanceAll host config build.algorithms _

/-- Calls one after another change the registry by what they offer in that order. -/
theorem registry_performAll (registrar : Registrar Library Memory)
    (requests : List (Host Library Memory × Registration Library)) :
    (registrar.performAll requests).registry =
      (registrar.offersAll requests).foldl Registry.offer registrar.registry := by
  -- The offers of the first call come before those of the rest.
  induction requests generalizing registrar with
  | nil => rfl
  | cons request rest ih =>
    rw [offersAll, List.foldl_append, ← registry_perform]
    exact ih (registrar.perform request)

/-- A record that is found is still found after any further calls. -/
theorem get?_performAll_of_some {registrar : Registrar Library Memory} {nid : Nid}
    {record : Record Library} (found : registrar.registry.get? nid = some record)
    (requests : List (Host Library Memory × Registration Library)) :
    (registrar.performAll requests).registry.get? nid = some record := by
  -- Calls come to the registry as offers.
  rw [registry_performAll]
  exact Registry.get?_offers_of_some found _

/-- A record that a call has published is one of those that it offered, and has the identifier it is found under. -/
theorem mem_offers_of_get? {registrar : Registrar Library Memory} {nid : Nid}
    {request : Host Library Memory × Registration Library} {record : Record Library}
    (free : registrar.registry.get? nid = none)
    (found : (registrar.perform request).registry.get? nid = some record) :
    record ∈ registrar.offers request ∧ record.method.nid = nid := by
  -- The slot was free, so what it holds is the first of the offers.
  cases known : Algorithm.ofNid? nid with
  | none => simp [Registry.get?_of_unknown known] at found
  | some algorithm =>
    rw [registry_perform, Registry.get?_offers known, free, Option.none_or] at found
    exact ⟨List.mem_of_find?_eq_some found, by simpa using List.find?_some found⟩

/-- What is found after calls on an empty registry was published by one of them, and by no earlier one. -/
theorem exists_publisher {registrar : Registrar Library Memory} {nid : Nid}
    {requests : List (Host Library Memory × Registration Library)} {record : Record Library}
    (free : registrar.registry.get? nid = none)
    (found : (registrar.performAll requests).registry.get? nid = some record) :
    ∃ earlier request later, requests = earlier ++ request :: later ∧
      (registrar.performAll earlier).registry.get? nid = none ∧
      ((registrar.performAll earlier).perform request).registry.get? nid = some record := by
  -- The first call either publishes the record or leaves that to the rest.
  induction requests generalizing registrar with
  | nil => exact absurd (free.symm.trans found) (by simp)
  | cons request rest ih =>
    cases next : (registrar.perform request).registry.get? nid with
    | some published =>
      have kept := get?_performAll_of_some next rest
      obtain rfl : published = record := Option.some.inj (kept.symm.trans found)
      exact ⟨[], request, rest, rfl, free, next⟩
    | none =>
      obtain ⟨earlier, publisher, later, split, before, after⟩ := ih next found
      exact ⟨request :: earlier, publisher, later, by rw [split, List.cons_append], before, after⟩

end Registrar

end DigestProvider
