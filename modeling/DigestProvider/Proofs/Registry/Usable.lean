import DigestProvider.Proofs.Context.Computes
import DigestProvider.Proofs.Registry.WriteOnce

/-!
What a build publishes works: over hosts that store what they accept, every published method is its algorithm's, and
the registry's digests are right.
-/

namespace DigestProvider

namespace Registration

variable {Library : Type} [DedicatedStates Library]

/-- The calls by which a build registers what is compiled into it. -/
inductive OfBuild (build : Build Library) : Registration Library → Prop where
  /-- An algorithm of the build is registered for any key types. -/
  | register {algorithm : Algorithm} (included : build.includes algorithm = true)
    (pkeyNids : List Nid) : OfBuild build (.register (build.recipe algorithm) pkeyNids)
  /-- One algorithm is registered, whether it is compiled in or not. -/
  | initMethod (algorithm : Algorithm) : OfBuild build (.initMethod build algorithm)
  /-- The configured algorithms are registered, whether the configuration is valid or not. -/
  | initDigests (config : EngineConfig) : OfBuild build (.initDigests build config)

/-- The key types that a call registers for. -/
def pkeyNids : Registration Library → List Nid
  | publish _ | initMethod .. => []
  | register _ pkeyNids => pkeyNids
  | initDigests _ config => config.requiredKeys

end Registration

/-- What a recipe offers is what its construction made. -/
theorem Recipe.mem_offers {Library Memory : Type} {host : Host Library Memory}
    {recipe : Recipe Library} {pkeyNids : List Nid} {site : Site Memory} {record : Record Library}
    (offered : record ∈ recipe.offers host pkeyNids site) :
    (recipe.build host pkeyNids site).1 = .ok record := by
  -- Nothing else is ever offered.
  unfold offers at offered
  cases built : (recipe.build host pkeyNids site).1 with
  | error cause => simp [built] at offered
  | ok made =>
    rw [built] at offered
    rw [List.mem_singleton.mp offered]

namespace Build

variable {Library Memory : Type} [DedicatedStates Library]

/-- The recipe of an algorithm files under the algorithm's identifier. -/
theorem nid_recipe (build : Build Library) (algorithm : Algorithm) :
    (build.recipe algorithm).nid = algorithm.nid := by
  -- Only SHA-256 has a recipe of another kind, and that is filed under the same identifier.
  unfold recipe
  split <;> rfl

/-- The recipe of an algorithm declares the algorithm's digest length. -/
theorem resultSize_recipe (build : Build Library) (algorithm : Algorithm) :
    (build.recipe algorithm).resultSize = algorithm.digestSize := by
  -- Only SHA-256 has a recipe of another kind, and that declares the same length.
  unfold recipe
  split <;> rfl

/-- What is offered while a build registers its algorithms was made from one of their recipes. -/
theorem mem_offersAlong {host : Host Library Memory} {build : Build Library}
    {config : EngineConfig} {algorithms : List Algorithm} {progress : Progress Library Memory}
    {record : Record Library}
    (offered : record ∈ build.offersAlong host config algorithms progress) :
    ∃ algorithm ∈ algorithms, ∃ site,
      ((build.recipe algorithm).build host config.requiredKeys site).1 = .ok record := by
  -- The record is offered by the first algorithm or by one of the rest.
  induction algorithms generalizing progress with
  | nil => simp [offersAlong] at offered
  | cons algorithm rest ih =>
    rw [offersAlong, List.mem_append] at offered
    rcases offered with now | later
    · split at now
      · exact ⟨algorithm, List.mem_cons_self, progress.site, Recipe.mem_offers now⟩
      · simp at now
    · obtain ⟨other, member, site, built⟩ := ih later
      exact ⟨other, List.mem_cons_of_mem algorithm member, site, built⟩

/-- Over the stock library a method that works as a build's recipe prescribes computes its algorithm. -/
theorem digest_of_prescribes [DecidableEq Library] {build : Build Library} {algorithm : Algorithm}
    {method : Method Library} (prescribed : (build.recipe algorithm).Prescribes method)
    (callsFree : Bool) (data : Bytes)
    (frame : Frame Library StockState StockLibrary.DirectState Memory) :
    ((Backend.stock Library Memory callsFree).digest method data frame).1 =
      .ok (algorithm.digest data) := by
  -- SHA-256 may be registered on either path, any other algorithm on the tagged one alone.
  unfold recipe at prescribed
  split at prescribed
  · exact (Backend.direct_computes prescribed).digest data frame
  · exact (Backend.tagged_computes prescribed).digest data frame

end Build

namespace Registrar

variable {Library Memory : Type} [DedicatedStates Library]

/-- What a build's call offers was made from the recipe of one of its algorithms, for the call's key types. -/
theorem mem_offers_ofBuild {registrar : Registrar Library Memory} {build : Build Library}
    {request : Host Library Memory × Registration Library} (own : request.2.OfBuild build)
    {record : Record Library} (offered : record ∈ registrar.offers request) :
    ∃ algorithm, build.includes algorithm = true ∧ ∃ site,
      ((build.recipe algorithm).build request.1 request.2.pkeyNids site).1 = .ok record := by
  -- Each kind of call goes through construction, once or several times.
  rcases request with ⟨host, call⟩
  cases own with
  | @register algorithm included pkeyNids =>
    exact ⟨algorithm, included, registrar.site, Recipe.mem_offers offered⟩
  | initMethod algorithm =>
    simp only [offers] at offered
    split at offered
    · rename_i included
      exact ⟨algorithm, included, registrar.site, Recipe.mem_offers offered⟩
    · simp at offered
  | initDigests config =>
    simp only [offers] at offered
    split at offered
    · simp at offered
    · obtain ⟨algorithm, member, site, built⟩ := Build.mem_offersAlong offered
      exact ⟨algorithm, (List.mem_filter.mp member).2, site, built⟩

/-- What a build's call publishes over a storing host is its algorithm's record, filled for the call's key types. -/
theorem published_eq_fill {registrar : Registrar Library Memory} {build : Build Library}
    {request : Host Library Memory × Registration Library} (stores : request.1.Stores)
    (givesEmpty : request.1.GivesEmpty) (own : request.2.OfBuild build) {nid : Nid}
    {record : Record Library} (free : registrar.registry.get? nid = none)
    (found : (registrar.perform request).registry.get? nid = some record) :
    ∃ (algorithm : Algorithm) (bound : Option Nid), algorithm.nid = nid ∧
      build.includes algorithm = true ∧ record.method =
        (build.recipe algorithm).fill request.2.pkeyNids (Method.empty nid bound) := by
  obtain ⟨offered, filed⟩ := mem_offers_of_get? free found
  obtain ⟨algorithm, included, site, built⟩ := mem_offers_ofBuild own offered
  obtain ⟨before, given, method, allocated, filled⟩ := Recipe.build_filled stores built
  obtain ⟨bound, rfl⟩ := givesEmpty _ _ _ _ _ allocated
  -- Filling keeps the identifier that the host was asked for.
  have named : algorithm.nid = nid := by
    rw [← filed, filled, Recipe.nid_fill, ← build.nid_recipe algorithm]
    rfl
  rw [build.nid_recipe, named] at filled
  exact ⟨algorithm, bound, named, included, filled⟩

/-- Whatever is published after calls of a build on an empty registry is an algorithm's record, filled for the key
types of the first call after which it is found. -/
theorem exists_publication {build : Build Library}
    {requests : List (Host Library Memory × Registration Library)} {site : Site Memory}
    (regular : ∀ request ∈ requests,
      request.1.Stores ∧ request.1.GivesEmpty ∧ request.2.OfBuild build)
    {nid : Nid} {record : Record Library}
    (found : ((Registrar.mk Registry.empty site).performAll requests).registry.get? nid =
      some record) :
    ∃ (algorithm : Algorithm) (bound : Option Nid), algorithm.nid = nid ∧
      build.includes algorithm = true ∧
      ∃ earlier request later, requests = earlier ++ request :: later ∧
        ((Registrar.mk Registry.empty site).performAll earlier).registry.get? nid = none ∧
        ((Registrar.mk Registry.empty site).performAll (earlier ++ [request])).registry.get? nid =
          some record ∧
        record.method =
          (build.recipe algorithm).fill request.2.pkeyNids (Method.empty nid bound) := by
  obtain ⟨earlier, request, later, split, before, after⟩ :=
    exists_publisher (Registry.get?_empty nid) found
  -- The call is one of the given ones, so its host is as regular as theirs.
  have member : request ∈ requests := by simp [split]
  obtain ⟨stores, givesEmpty, own⟩ := regular request member
  obtain ⟨algorithm, bound, named, included, filled⟩ :=
    published_eq_fill stores givesEmpty own before after
  refine ⟨algorithm, bound, named, included, earlier, request, later, split, before, ?_, filled⟩
  rw [performAll, List.foldl_append]
  exact after

/-- Whatever calls of a build a registry has gone through from its empty start, what is published is complete and
works: each record is its algorithm's, for the key types of the call that published it, and gives the right digests. -/
theorem published_works [DecidableEq Library] {Shared : Type} (build : Build Library)
    (requests : List (Host Library Memory × Registration Library)) (site : Site Memory)
    (regular : ∀ request ∈ requests,
      request.1.Stores ∧ request.1.GivesEmpty ∧ request.2.OfBuild build) :
    let start := Registrar.mk Registry.empty site
    let registry := (start.performAll requests).registry
    (∀ nid record, registry.get? nid = some record →
      ∃ algorithm : Algorithm, algorithm.nid = nid ∧ build.includes algorithm = true ∧
        record.method.nid = nid ∧ record.method.isComplete = true ∧
        (build.recipe algorithm).Prescribes record.method ∧
        record.method.resultSize = algorithm.digestSize ∧
        -- The call that published it is the first after which the record is found.
        ∃ earlier request later, requests = earlier ++ request :: later ∧
          (start.performAll earlier).registry.get? nid = none ∧
          (start.performAll (earlier ++ [request])).registry.get? nid = some record ∧
          record.method.requiredPkeyTypes = request.2.pkeyNids ∧
          record.method.flags = if request.2.pkeyNids = [] then 0 else signatureFlag) ∧
    (∀ nid data (memory : Shared) log,
      let answer := (registry.digest (Backend.stock Library Shared build.callsFree) nid data
        { memory, log }).1
      (registry.isRegistered nid = true →
        ∃ algorithm : Algorithm, algorithm.nid = nid ∧ answer = .ok (algorithm.digest data) ∧
          (algorithm.digest data).length = algorithm.digestSize) ∧
      (registry.isRegistered nid = false →
        answer = .error (.unsupportedAlgorithm ("nid " ++ nid.text)))) := by
  intro start registry
  refine ⟨?_, ?_⟩
  · intro nid record found
    obtain ⟨algorithm, bound, named, included, earlier, request, later, split, before, after,
      filled⟩ := exists_publication regular found
    have prescribed : (build.recipe algorithm).Prescribes record.method :=
      filled ▸ (build.recipe algorithm).prescribes_fill _ _
    have size : record.method.resultSize = algorithm.digestSize :=
      prescribed.resultSize.trans (build.resultSize_recipe algorithm)
    have complete : record.method.isComplete = true :=
      prescribed.isComplete (by rw [build.resultSize_recipe]; exact algorithm.digestSize_pos)
    refine ⟨algorithm, named, included, nid_of_get?_performAll found, complete, prescribed, size,
      earlier, request, later, split, before, after, ?_, ?_⟩
    · rw [filled, Recipe.requiredPkeyTypes_fill_empty]
    · rw [filled, Recipe.flags_fill_empty]
  · intro nid data memory log answer
    constructor
    · intro registered
      obtain ⟨record, found⟩ := Option.isSome_iff_exists.mp registered
      obtain ⟨algorithm, _, named, _, _, _, _, _, _, _, filled⟩ :=
        exists_publication regular found
      have prescribed : (build.recipe algorithm).Prescribes record.method :=
        filled ▸ (build.recipe algorithm).prescribes_fill _ _
      refine ⟨algorithm, named, ?_, algorithm.length_digest data⟩
      simp only [answer, Registry.digest, found]
      exact build.digest_of_prescribes prescribed build.callsFree data _
    · intro missing
      have absent : registry.get? nid = none := by
        rw [← Option.isNone_iff_eq_none, ← Option.not_isSome, Bool.not_eq_true']
        exact missing
      simp only [answer, Registry.digest, absent]
      rfl

/-- Registering everything through the stock host publishes SHA-256, complete and working. -/
theorem published_works_everything :
    let build : Build Unit := { includes := fun _ => true, sha256Path := .direct, library := () }
    let request : Host Unit Unit × Registration Unit :=
      (Host.stock, .initDigests build { pkeyNids := [6] })
    let registry :=
      ((Registrar.mk Registry.empty { memory := () }).performAll [request]).registry
    registry.isRegistered Algorithm.sha256.nid = true ∧
      (∀ record, registry.get? Algorithm.sha256.nid = some record →
        record.method.isComplete = true) ∧
      (registry.digest (Backend.stock Unit Unit true) Algorithm.sha256.nid [1, 2]
        { memory := () }).1 = .ok (Algorithm.sha256.digest [1, 2]) := by
  -- Registration is evaluated only so far as to see that it publishes.
  intro build request registry
  have works := @published_works Unit Unit _ _ Unit build [request] { memory := () } (by
    intro given member
    obtain rfl := List.mem_singleton.mp member
    exact ⟨Host.stock_stores, Host.stock_givesEmpty, .initDigests _⟩)
  have registered : registry.isRegistered Algorithm.sha256.nid = true := by decide
  refine ⟨registered, ?_, ?_⟩
  · intro record found
    obtain ⟨_, _, _, _, complete, _⟩ := works.1 _ record found
    exact complete
  · obtain ⟨algorithm, named, answer, _⟩ := (works.2 _ [1, 2] () []).1 registered
    rw [Algorithm.nid_injective named] at answer
    exact answer

end Registrar

end DigestProvider
