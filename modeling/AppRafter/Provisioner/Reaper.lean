import AppRafter.Provisioner.Objects

set_option autoImplicit false

namespace AppRafter.Provisioner

open Application List

-- A shared backend; a pool instance carries the class parsed from its name.
inductive Target where
  | dragonfly (name : String) (cls : PoolClass) (parsed : classOfInstance name = some cls)
  | cnpg (name : String)

def Target.name : Target → String
  | .dragonfly name _ _ => name
  | .cnpg name => name

inductive VetoReason where
  | live
  | intent
  | retained
  | sharedDatabase
deriving DecidableEq

inductive Decision where
  | veto (reason : VetoReason)
  | dwell
  | reap
deriving DecidableEq

structure ProviderIndex where
  dragonfly : List String := []
  cnpgCluster : List (String × String) := []

def ProviderIndex.clusterOf (idx : ProviderIndex) (provider : String) : Option String :=
  (idx.cnpgCluster.find? fun entry => entry.1 == provider).map Prod.snd

-- A name already mapped keeps its cluster.
def ProviderIndex.add (idx : ProviderIndex) (provider : ServiceProvider) : ProviderIndex :=
  match Backend.fromSpecBackend provider.backend with
  | some .dragonfly => { idx with dragonfly := provider.name :: idx.dragonfly }
  | some .cloudnativepg =>
    match idx.clusterOf provider.name with
    | some _ => idx
    | none => { idx with cnpgCluster := idx.cnpgCluster ++ [(provider.name, provider.cnpgCluster)] }
  | _ => idx

def providerIndex (providers : List ServiceProvider) : ProviderIndex := providers.foldl ProviderIndex.add {}

variable (claim : ResourceClaim)

def ResourceClaim.provider : Option String := claim.status.bind (·.provider)

def ResourceClaim.inst : Option String := claim.status.bind (·.inst)

def claimCnpgCluster (idx : ProviderIndex) : Option String := claim.provider.bind idx.clusterOf

def isAllocatedOn (target : Target) (idx : ProviderIndex) : Bool :=
  match target with
  | .dragonfly name _ _ => claim.inst == some name
  | .cnpg name => claimCnpgCluster claim idx == some name

def isRedisClaim (idx : ProviderIndex) : Bool :=
  claim.spec.type == "redis" || claim.provider.any fun provider => idx.dragonfly.contains provider

def isIntentFor (target : Target) (idx : ProviderIndex) : Bool :=
  if claim.deletionTimestamp.isSome then false
  else
    match target with
    | .dragonfly _ cls _ =>
      if claim.inst.isSome || !isRedisClaim claim idx then false
      else
        match cls with
        | .persistent => claim.spec.persistent.getD false
        | .ephemeral => !claim.spec.persistent.getD false
    | .cnpg _ => claim.spec.type == "pg" && (claimCnpgCluster claim idx).isNone

def isRetainedFor (snapshot : RetainedClaim) : Target → Bool
  | .dragonfly name .persistent _ => snapshot.inst == some name
  | .dragonfly _ .ephemeral _ => false
  | .cnpg name => snapshot.cnpgCluster == some name

def isSharedOn (sd : SharedDatabase) (target : Target) : Bool :=
  if sd.deletionTimestamp.isSome then false
  else (sd.status.bind (·.inst)) == some target.name

def reapDecision (target : Target) (live : List ResourceClaim) (retained : List RetainedClaim)
    (shared : List SharedDatabase) (idx : ProviderIndex) (emptyFor : Option Nat) (dwell : Nat) : Decision :=
  if live.any fun claim => isAllocatedOn claim target idx then .veto .live
  else if live.any fun claim => isIntentFor claim target idx then .veto .intent
  else if retained.any fun snapshot => isRetainedFor snapshot target then .veto .retained
  else if shared.any fun sd => isSharedOn sd target then .veto .sharedDatabase
  else
    match emptyFor with
    | some elapsed => if elapsed ≥ dwell then .reap else .dwell
    | none => .dwell

theorem reap_decision_iff (target : Target) (live : List ResourceClaim) (retained : List RetainedClaim)
    (shared : List SharedDatabase) (idx : ProviderIndex) (emptyFor : Option Nat) (dwell : Nat) :
    reapDecision target live retained shared idx emptyFor dwell = .reap ↔
      (∀ claim ∈ live, isAllocatedOn claim target idx = false ∧ isIntentFor claim target idx = false) ∧
      (∀ snapshot ∈ retained, isRetainedFor snapshot target = false) ∧
      (∀ sd ∈ shared, isSharedOn sd target = false) ∧ ∃ elapsed, emptyFor = some elapsed ∧ dwell ≤ elapsed := by
  unfold reapDecision
  by_cases allocated : (live.any fun claim => isAllocatedOn claim target idx) = true
  · rw [if_pos allocated]
    refine ⟨nofun, fun free => ?_⟩
    obtain ⟨claim, member, here⟩ := any_eq_true.mp allocated
    exact absurd here (Bool.eq_false_iff.mp (free.1 claim member).1)
  · rw [if_neg allocated]
    by_cases wanted : (live.any fun claim => isIntentFor claim target idx) = true
    · rw [if_pos wanted]
      refine ⟨nofun, fun free => ?_⟩
      obtain ⟨claim, member, here⟩ := any_eq_true.mp wanted
      exact absurd here (Bool.eq_false_iff.mp (free.1 claim member).2)
    · rw [if_neg wanted]
      by_cases kept : (retained.any fun snapshot => isRetainedFor snapshot target) = true
      · rw [if_pos kept]
        refine ⟨nofun, fun free => ?_⟩
        obtain ⟨snapshot, member, here⟩ := any_eq_true.mp kept
        exact absurd here (Bool.eq_false_iff.mp (free.2.1 snapshot member))
      · rw [if_neg kept]
        by_cases occupied : (shared.any fun sd => isSharedOn sd target) = true
        · rw [if_pos occupied]
          refine ⟨nofun, fun free => ?_⟩
          obtain ⟨sd, member, here⟩ := any_eq_true.mp occupied
          exact absurd here (Bool.eq_false_iff.mp (free.2.2.1 sd member))
        · rw [if_neg occupied]
          simp only [Bool.not_eq_true, List.any_eq_false] at allocated wanted kept occupied
          constructor
          · intro reaped
            refine ⟨fun claim member => ⟨allocated claim member, wanted claim member⟩, kept, occupied, ?_⟩
            cases emptyFor with
            | none => cases reaped
            | some elapsed =>
              by_cases dwelt : elapsed ≥ dwell
              · exact ⟨elapsed, rfl, dwelt⟩
              · simp [dwelt] at reaped
          · rintro ⟨_, _, _, elapsed, rfl, dwelt⟩
            exact if_pos dwelt

def targetsCluster (provider : ServiceProvider) (name : String) : Bool :=
  provider.name == name && Backend.fromSpecBackend provider.backend == some .cloudnativepg

theorem cluster_of_add (idx : ProviderIndex) (provider : ServiceProvider) (name : String) : (idx.add provider).clusterOf name =
      (idx.clusterOf name).or (if targetsCluster provider name then some provider.cnpgCluster else none) := by
  by_cases cnpg : Backend.fromSpecBackend provider.backend = some .cloudnativepg
  · cases known : idx.clusterOf provider.name with
    | some cluster =>
      have kept : idx.add provider = idx := by simp [ProviderIndex.add, cnpg, known]
      rw [kept]
      by_cases named : provider.name = name
      · rw [← named, known]
        rfl
      · simp [targetsCluster, named]
    | none =>
      have grown : idx.add provider = { idx with cnpgCluster := idx.cnpgCluster ++ [(provider.name, provider.cnpgCluster)] } := by
        simp [ProviderIndex.add, cnpg, known]
      rw [grown, ProviderIndex.clusterOf, find?_append, Option.map_or]
      congr 1
      by_cases named : provider.name = name
      · simp [targetsCluster, named, cnpg]
      · simp [targetsCluster, named]
  · have same : (idx.add provider).clusterOf name = idx.clusterOf name := by
      unfold ProviderIndex.add
      split
      · rfl
      · rename_i is
        exact absurd is cnpg
      · rfl
    simp [same, targetsCluster, cnpg]

variable (providers : List ServiceProvider)

theorem cluster_of_index (idx : ProviderIndex) (name : String) : (providers.foldl ProviderIndex.add idx).clusterOf name =
      (idx.clusterOf name).or ((providers.find? fun provider => targetsCluster provider name).map
        ServiceProvider.cnpgCluster) := by
  induction providers generalizing idx with
  | nil => simp
  | cons provider rest ih =>
    rw [foldl_cons, ih, cluster_of_add]
    by_cases targets : targetsCluster provider name = true
    · simp [targets]
    · simp [targets]

theorem provider_index_cluster (name : String) : (providerIndex providers).clusterOf name =
      (providers.find? fun provider => targetsCluster provider name).map ServiceProvider.cnpgCluster :=
  cluster_of_index providers {} name

variable {providers : List ServiceProvider} {claim : ResourceClaim} {target : Target}

theorem first_targets {provider : ServiceProvider} {name : String} (first : findProvider providers name = some provider)
    (cnpg : Backend.fromSpecBackend provider.backend = some .cloudnativepg) :
    (providers.find? fun other => targetsCluster other name) = some provider := by
  induction providers with
  | nil => cases first
  | cons head rest ih =>
    rw [findProvider, find?_cons] at first
    by_cases named : (head.name == name) = true
    · simp only [named] at first
      cases Option.some.inj first
      have targets : targetsCluster provider name = true := by rw [targetsCluster, named, cnpg]; rfl
      rw [find?_cons, targets]
    · simp only [named] at first
      have passes : targetsCluster head name = false := by simp [targetsCluster, named]
      rw [find?_cons, passes]
      exact ih first

theorem dragonfly_of_index (providers : List ServiceProvider) (idx : ProviderIndex) (name : String) :
    name ∈ (providers.foldl ProviderIndex.add idx).dragonfly ↔ name ∈ idx.dragonfly ∨
      ∃ provider ∈ providers, provider.name = name ∧ Backend.fromSpecBackend provider.backend = some .dragonfly := by
  induction providers generalizing idx with
  | nil => simp
  | cons provider rest ih =>
    rw [List.foldl_cons, ih]
    have added : name ∈ (idx.add provider).dragonfly ↔ name ∈ idx.dragonfly ∨
        (provider.name = name ∧ Backend.fromSpecBackend provider.backend = some .dragonfly) := by
      unfold ProviderIndex.add
      split
      · rename_i is
        simp [is, or_comm, eq_comm]
      · rename_i is
        split
        · simp [is]
        · simp [is]
      · rename_i other _
        exact ⟨.inl, fun either => either.elim id fun found => absurd found.2 other⟩
    simp only [added, List.mem_cons, exists_eq_or_imp, or_assoc]

def matchedProvider (providers : List ServiceProvider) (claim : ResourceClaim) : Option ServiceProvider :=
  claim.provider.bind (findProvider providers)

def matchedBackend (providers : List ServiceProvider) (claim : ResourceClaim) : Option Backend :=
  (matchedProvider providers claim).bind fun provider => Backend.fromSpecBackend provider.backend

-- On the recorded pool instance, or the cluster the matched provider targets.
def ProvisionedOn (providers : List ServiceProvider) (claim : ResourceClaim) : Target → Prop
  | .dragonfly name _ _ => claim.inst = some name
  | .cnpg name => ∃ provider, matchedProvider providers claim = some provider ∧
      Backend.fromSpecBackend provider.backend = some .cloudnativepg ∧ provider.cnpgCluster = name

-- No instance recorded and the class routes there, or a pg claim without a provider.
def BeingProvisionedOn (providers : List ServiceProvider) (claim : ResourceClaim) : Target → Prop
  | .dragonfly name _ _ => claim.inst = none ∧ (claim.spec.type = "redis" ∨ matchedBackend providers claim = some .dragonfly) ∧
      poolInstanceName (claim.spec.persistent.getD false) poolInstanceIndex = name
  | .cnpg _ => claim.spec.type = "pg" ∧ matchedProvider providers claim = none

def BoundConsumer (claim : ResourceClaim) (sd : SharedDatabase) : Prop :=
  claim.key.ns = sd.ns ∧ claim.spec.sharedRef = some sd.name

def PlacedOn (sd : SharedDatabase) (target : Target) : Prop := sd.status.bind (·.inst) = some target.name

theorem provisioned_allocated (provisioned : ProvisionedOn providers claim target) :
    isAllocatedOn claim target (providerIndex providers) = true := by
  cases target with
  | dragonfly name cls parsed =>
    have recorded : claim.inst = some name := provisioned
    simp [isAllocatedOn, recorded]
  | cnpg name =>
    obtain ⟨provider, found, cnpg, cluster⟩ := provisioned
    obtain ⟨matched, named, first⟩ := Option.bind_eq_some_iff.mp found
    have targets := first_targets first cnpg
    have resolved : claimCnpgCluster claim (providerIndex providers) = some name := by
      rw [claimCnpgCluster, named, Option.bind_some, provider_index_cluster, targets, Option.map_some, cluster]
    simp [isAllocatedOn, resolved]

theorem pool_instance_class {persistent : Bool} {cls : PoolClass}
    (parsed : classOfInstance (poolInstanceName persistent poolInstanceIndex) = some cls) : cls = .of persistent := by
  cases persistent with
  | false =>
    have known : classOfInstance (poolInstanceName false poolInstanceIndex) = some .ephemeral := by decide
    exact Option.some.inj (parsed.symm.trans known)
  | true =>
    have known : classOfInstance (poolInstanceName true poolInstanceIndex) = some .persistent := by decide
    exact Option.some.inj (parsed.symm.trans known)

theorem being_provisioned_intent (kept : claim.deletionTimestamp = none) (underway : BeingProvisionedOn providers claim target) :
    isIntentFor claim target (providerIndex providers) = true := by
  cases target with
  | dragonfly name cls parsed =>
    obtain ⟨unrecorded, redis, rfl⟩ := underway
    have wanted : isRedisClaim claim (providerIndex providers) = true := by
      cases redis with
      | inl declared => simp [isRedisClaim, declared]
      | inr backend =>
        obtain ⟨provider, found, dragonfly⟩ := Option.bind_eq_some_iff.mp backend
        obtain ⟨matched, named, first⟩ := Option.bind_eq_some_iff.mp found
        have same : provider.name = matched := by simpa using find?_some first
        have indexed : matched ∈ (providerIndex providers).dragonfly := (dragonfly_of_index providers {} matched).mpr
            (.inr ⟨provider, mem_of_find?_eq_some first, same, dragonfly⟩)
        simp [isRedisClaim, named, indexed]
    have routed := pool_instance_class parsed
    cases cls with
    | ephemeral =>
      have volatile : claim.spec.persistent.getD false = false := by
        by_contra persistent
        rw [Bool.not_eq_false] at persistent
        rw [persistent] at routed
        cases routed
      simp [isIntentFor, kept, unrecorded, wanted, volatile]
    | persistent =>
      have durable : claim.spec.persistent.getD false = true := by
        by_contra ephemeral
        rw [Bool.not_eq_true] at ephemeral
        rw [ephemeral] at routed
        cases routed
      simp [isIntentFor, kept, unrecorded, wanted, durable]
  | cnpg name =>
    obtain ⟨declared, unmatched⟩ := underway
    have unresolved : claimCnpgCluster claim (providerIndex providers) = none := by
      rw [claimCnpgCluster]
      cases named : claim.provider with
      | none => rfl
      | some matched =>
        rw [matchedProvider, named, Option.bind_some, findProvider, find?_eq_none] at unmatched
        rw [Option.bind_some, provider_index_cluster, Option.map_eq_none_iff, find?_eq_none]
        intro provider member targets
        apply unmatched provider member
        exact (Bool.and_eq_true _ _ ▸ targets).1
    simp [isIntentFor, kept, declared, unresolved]

-- For the claims it serves or soon will, and the databases not being deleted.
theorem in_use_not_reaped (target : Target) (live : List ResourceClaim) (retained : List RetainedClaim)
    (shared : List SharedDatabase) (providers : List ServiceProvider) (emptyFor : Option Nat) (dwell : Nat)
    (used : (∃ claim ∈ live, claim.deletionTimestamp = none ∧
        (ProvisionedOn providers claim target ∨ BeingProvisionedOn providers claim target)) ∨
      ∃ sd ∈ shared, sd.deletionTimestamp = none ∧ PlacedOn sd target) :
    reapDecision target live retained shared (providerIndex providers) emptyFor dwell ≠ .reap := by
  intro reaped
  obtain ⟨claims, _, databases, _⟩ := (reap_decision_iff _ _ _ _ _ _ _).mp reaped
  rcases used with ⟨claim, member, kept, provisioned | underway⟩ | ⟨sd, member, kept, here⟩
  · exact absurd (provisioned_allocated provisioned) (Bool.eq_false_iff.mp (claims claim member).1)
  · exact absurd (being_provisioned_intent kept underway) (Bool.eq_false_iff.mp (claims claim member).2)
  · have shared_ := databases sd member
    simp only [isSharedOn, kept, Option.isSome_none, Bool.false_eq_true, if_false] at shared_
    exact absurd (beq_iff_eq.mpr here) (Bool.eq_false_iff.mp shared_)

def persistentPool : Target := .dragonfly "platform-redis-persistent-000" .persistent (by decide)

def redisSpec (persistent : Option Bool) (sharedRef : Option String) : ResourceClaimSpec :=
  { type := "redis", selector := defaultIntegratedSelector, persistent := persistent, sharedRef := sharedRef }

def sharedCache (deletionTimestamp : Option Nat) : SharedDatabase :=
  { ns := "apps"
    name := "sessions"
    deletionTimestamp := deletionTimestamp
    finalizers := [sdFinalizer]
    spec := { type := "redis", persistent := some true }
    status := some { ready := some true, inst := some "platform-redis-persistent-000", dbnum := some 0 } }

-- A consumer of the cache records a provider and no allocation of its own.
def cacheConsumer : ResourceClaim :=
  { key := ⟨"apps", "web-redis"⟩
    finalizers := [provisionerFinalizer]
    spec := redisSpec none (some "sessions")
    status := some { provider := some "redis-integrated", ready := some true } }

def redisProvider : ServiceProvider := { ns := "apprafter-system", name := "redis-integrated", backend := "dragonfly" }

theorem in_use_not_reaped_cache :
    reapDecision persistentPool [cacheConsumer] [] [sharedCache none] (providerIndex [redisProvider]) (some 600) 300 ≠
      .reap :=
  in_use_not_reaped persistentPool [cacheConsumer] [] [sharedCache none] [redisProvider] (some 600) 300
    (.inr ⟨sharedCache none, by decide, rfl, rfl⟩)

-- Whether or not a bound consumer still holds the deletion up.
theorem deleting_cache_reaped :
    PlacedOn (sharedCache (some 10)) persistentPool ∧ sdFinalizer ∈ (sharedCache (some 10)).finalizers ∧
      reapDecision persistentPool [] [] [sharedCache (some 10)] (providerIndex [redisProvider]) (some 600) 300 = .reap ∧
      cacheConsumer.deletionTimestamp = none ∧ BoundConsumer cacheConsumer (sharedCache (some 10)) ∧
      reapDecision persistentPool [cacheConsumer] [] [sharedCache (some 10)] (providerIndex [redisProvider]) (some 600)
        300 = .reap :=
  ⟨rfl, by decide, by decide, rfl, ⟨rfl, rfl⟩, by decide⟩

end AppRafter.Provisioner
