import DigestProvider.Proofs.Method.Script
import DigestProvider.Proofs.Registry.Report

/-!
Which algorithms a configuration names is all that registration reads of its list. Main statement: two valid
configurations that name the same algorithms, in whatever order and spelling and however often, register alike to the
last host call, and no algorithm is attempted twice.
-/

namespace DigestProvider

namespace EngineConfig

/-- Configurations that name the same algorithms want the same. -/
theorem wants_eq_of_named {config other : EngineConfig} {names others : List String}
    (listed : config.digests = some names) (also : other.digests = some others)
    (same : ∀ algorithm : Algorithm, algorithm.NamedIn names ↔ algorithm.NamedIn others)
    (algorithm : Algorithm) : config.wants (some algorithm) = other.wants (some algorithm) := by
  -- With a list, to be wanted is to be named in it.
  rw [Bool.eq_iff_iff, wants_iff_named listed, wants_iff_named also]
  exact same algorithm

end EngineConfig

/-- The identifier for which a host call asks for a record. -/
def HostCall.requested? {Library : Type} : HostCall Library → Option Nid
  | allocate nid _ => some nid
  | apply .. | release _ => none

/-- The identifiers for which a host was asked for records, the oldest first. -/
def HostLedger.requested {Library : Type} (ledger : HostLedger Library) : List Nid :=
  ledger.calls.filterMap HostCall.requested?

section Attempts

variable {Library Memory : Type} {host : Host Library Memory}

/-- No record is asked for while settings are accepted. -/
theorem Host.Accepts.requested {settings : List (Setting Library)} {method last : Method Library}
    {memory after : Memory} {calls : List (HostCall Library)}
    (accepts : host.Accepts settings method memory calls last after) :
    calls.filterMap HostCall.requested? = [] := by
  -- Each of the calls is for one setting.
  induction accepts with
  | nil => rfl
  | cons accepted others ih => simpa [HostCall.requested?] using ih

/-- Construction asks for one record, under the recipe's identifier. -/
theorem Recipe.build_requested (host : Host Library Memory) (recipe : Recipe Library)
    (pkeyNids : List Nid) (site : Site (Memory × HostLedger Library)) :
    (recipe.build host.watched pkeyNids site).2.memory.2.requested =
      site.memory.2.requested ++ [recipe.nid] := by
  -- The allocation comes first, and it is made under the recipe's identifier whatever it answers.
  unfold HostLedger.requested
  rcases answer : host.allocate recipe.nid none site.memory.1 with ⟨_ | method, given⟩
  · rw [(build_watched_of_refused host recipe pkeyNids site (by rw [answer])).2]
    simp [HostCall.requested?]
  · -- The calls behind the allocation fill the record or take it back.
    rcases host.accepts_or_refuses (recipe.settings pkeyNids) method given with
      ⟨calls, last, after, accepts⟩ | ⟨refused, calls, last, after, refuses⟩
    · rw [(build_watched_of_accepts host recipe pkeyNids site answer accepts).2]
      simp [HostCall.requested?, accepts.requested]
    · rw [(build_watched_of_refuses host recipe pkeyNids site answer refuses).2]
      obtain ⟨_, _, made, _, _, _, accepts, _, rfl⟩ := refuses
      simp [HostCall.requested?, accepts.requested]

/-- Registration asks for one record, under the recipe's identifier. -/
theorem Recipe.register_requested (host : Host Library Memory) (recipe : Recipe Library)
    (pkeyNids : List Nid) (registry : Registry Library)
    (site : Site (Memory × HostLedger Library)) :
    (recipe.register host.watched pkeyNids registry site).2.2.memory.2.requested =
      site.memory.2.requested ++ [recipe.nid] := by
  have asked := recipe.build_requested host pkeyNids site
  unfold register
  rcases built : recipe.build host.watched pkeyNids site with ⟨cause | record, after⟩
  · rw [built] at asked
    exact asked
  · rw [built] at asked
    -- A record that is not published is given back, and no other is asked for.
    have released : (after.release host.watched record).memory.2.requested =
        after.memory.2.requested := by
      simp [Site.release, Host.watched, HostLedger.note, HostLedger.requested, HostCall.requested?]
    dsimp only
    unfold Registry.publish
    split
    · exact released.trans asked
    · split
      · exact asked
      · exact released.trans asked

namespace Build

variable [DedicatedStates Library]

/-- A turn asks for one record if the algorithm is wanted, and for none otherwise. -/
theorem advance_requested (host : Host Library Memory) (build : Build Library)
    (config : EngineConfig) (progress : Progress Library (Memory × HostLedger Library))
    (algorithm : Algorithm) :
    (build.advance host.watched config progress algorithm).site.memory.2.requested =
      progress.site.memory.2.requested ++
        if config.wants (some algorithm) then [algorithm.nid] else [] := by
  -- A wanted algorithm is registered by its recipe, and one that is not costs no call.
  by_cases wanted : config.wants (some algorithm) = true
  · obtain ⟨_, ⟨record, left⟩, _⟩ := advance_of_wanted wanted host.watched build progress
    rw [left, if_pos wanted, ← build.nid_recipe algorithm]
    exact (build.recipe algorithm).register_requested host config.requiredKeys progress.registry
      progress.site
  · obtain ⟨_, untouched⟩ := advance_of_unwanted (by simpa using wanted) host.watched build progress
    rw [untouched, if_neg wanted, List.append_nil]

/-- Turns one after another ask for one record for each algorithm that is wanted, in order. -/
theorem advanceAll_requested (host : Host Library Memory) (build : Build Library)
    (config : EngineConfig) (algorithms : List Algorithm)
    (progress : Progress Library (Memory × HostLedger Library)) :
    (algorithms.foldl (build.advance host.watched config) progress).site.memory.2.requested =
      progress.site.memory.2.requested ++
        (algorithms.filter fun algorithm => config.wants (some algorithm)).map Algorithm.nid := by
  -- The induction is on the turns, whose requests add up in table order.
  induction algorithms generalizing progress with
  | nil => simp
  | cons algorithm rest ih =>
    rw [List.foldl_cons, ih, advance_requested, List.append_assoc, List.filter_cons]
    cases config.wants (some algorithm) with
    | true => rfl
    | false => rfl

/-- A turn reads no more of the configuration than whether the algorithm is wanted and for which key types. -/
theorem advance_congr {config other : EngineConfig}
    (wants : ∀ algorithm, config.wants (some algorithm) = other.wants (some algorithm))
    (keys : config.pkeyNids = other.pkeyNids) (host : Host Library Memory) (build : Build Library) :
    build.advance host config = build.advance host other := by
  -- The rest of a turn is a function of the host, the build and the progress so far.
  funext progress algorithm
  have keyNids : config.requiredKeys = other.requiredKeys := congrArg (List.map Nid.mk) keys
  unfold advance
  rw [wants, keyNids]

/-- Valid configurations that want the same for the same key types register alike. -/
theorem initDigests_congr {config other : EngineConfig} (valid : config.validate = .ok ())
    (sound : other.validate = .ok ())
    (wants : ∀ algorithm, config.wants (some algorithm) = other.wants (some algorithm))
    (keys : config.pkeyNids = other.pkeyNids) (host : Host Library Memory) (build : Build Library)
    (registry : Registry Library) (site : Site Memory) :
    build.initDigests host config registry site = build.initDigests host other registry site := by
  -- Both are the same turns from the same start.
  simp only [initDigests, valid, sound, advance_congr wants keys host build]

/-- Of a valid configuration's list it matters only which algorithms are named in it: another that names the same makes
the same host calls, gives the same report and leaves the same behind, and so does one without a list where all are
named. One record is asked for under the identifier of each algorithm that is compiled in and named, and no more. -/
theorem initDigests_by_named {config : EngineConfig} {names : List String}
    (listed : config.digests = some names) (valid : config.validate = .ok ())
    (build : Build Library) (host : Host Library Memory) (registry : Registry Library)
    (site : Site (Memory × HostLedger Library)) :
    -- What registration comes to, the host's calls and the log included.
    let done := build.initDigests host.watched config registry site
    (∀ other others, other.digests = some others → other.validate = .ok () →
      other.pkeyNids = config.pkeyNids →
      (∀ algorithm : Algorithm, algorithm.NamedIn others ↔ algorithm.NamedIn names) →
        build.initDigests host.watched other registry site = done) ∧
    ((∀ algorithm : Algorithm, algorithm.NamedIn names) →
      ∀ other, other.digests = none → other.pkeyNids = config.pkeyNids →
        build.initDigests host.watched other registry site = done) ∧
    ∃ attempted : List Algorithm,
      done.2.2.memory.2.requested =
        site.memory.2.requested ++ attempted.map Algorithm.nid ∧
      (attempted.map Algorithm.nid).Nodup ∧
      ∀ algorithm, algorithm ∈ attempted ↔
        build.includes algorithm = true ∧ algorithm.NamedIn names := by
  intro done
  refine ⟨?_, ?_, build.algorithms.filter fun algorithm => config.wants (some algorithm), ?_, ?_, ?_⟩
  · intro other others also sound keys same
    exact initDigests_congr sound valid (EngineConfig.wants_eq_of_named also listed same) keys
      host.watched build registry site
  · intro every other unlisted keys
    have sound : other.validate = .ok () := EngineConfig.validate_of_known (by simp [unlisted])
    refine initDigests_congr sound valid (fun algorithm => ?_) keys host.watched build registry site
    -- Without a list everything is wanted, and with this one too.
    rw [(EngineConfig.wants_iff_named listed algorithm).mpr (every algorithm)]
    simp [EngineConfig.wants, unlisted]
  · -- The last record of the log is no host call.
    obtain ⟨_, _, note, left⟩ := initDigests_of_valid valid host.watched build registry site
    have turns := advanceAll_requested host build config build.algorithms
      { registry, site := site.note .registrationEntered }
    have reached : done.2.2 = _ := left
    rw [reached]
    exact turns
  · -- Those attempted are part of a table in which no identifier stands twice.
    exact build.nids_nodup.sublist (List.filter_sublist.map Algorithm.nid)
  · intro algorithm
    rw [List.mem_filter, EngineConfig.wants_iff_named listed]
    simp [algorithms]

/-- Two lists that name the same two algorithms, one of them twice and in other spellings, over a host that refuses one:
the second is attempted once for each, as the first is. -/
theorem initDigests_by_named_respelled :
    let host : Host Unit Unit :=
      Host.stock.faulty { failStep := some .final, onlyNid := some Algorithm.sha384.nid }
    let build : Build Unit := { includes := fun algorithm => algorithm ≠ .sha512, library := () }
    let config : EngineConfig := { digests := some ["SHA256", "SHA384"], pkeyNids := [6] }
    let other : EngineConfig :=
      { digests := some ["sha-384", "\tSha384 ", "sha256"], debugLog := true, pkeyNids := [6] }
    let start : Site (Unit × HostLedger Unit) := { memory := ((), {}) }
    let one := build.initDigests host.watched config Registry.empty start
    let two := build.initDigests host.watched other Registry.empty start
    config.validate = .ok () ∧ other.validate = .ok () ∧ two = one ∧
      two.1.registered = [Algorithm.sha256.nid] ∧
      ∃ attempted : List Algorithm,
        one.2.2.memory.2.requested = attempted.map Algorithm.nid ∧ .sha384 ∈ attempted := by
  intro host build config other start one two
  have valid : config.validate = .ok () := by rfl
  have sound : other.validate = .ok () := by rfl
  -- Case, blanks and the dash are normalised away, and repetition adds nothing to what is named.
  have same (algorithm : Algorithm) :
      algorithm.NamedIn ["sha-384", "\tSha384 ", "sha256"] ↔
        algorithm.NamedIn ["SHA256", "SHA384"] := by
    unfold Algorithm.NamedIn
    cases algorithm <;> decide
  obtain ⟨alike, _, attempted, requested, _, made⟩ :=
    initDigests_by_named rfl valid build host Registry.empty start
  have equal : two = one := alike other _ rfl sound rfl same
  refine ⟨valid, sound, equal, ?_, attempted, requested, (made .sha384).mpr ⟨rfl, ?_⟩⟩
  · rw [equal]
    decide
  · exact ⟨"SHA384", by decide, by decide⟩

end Build

end Attempts

end DigestProvider
