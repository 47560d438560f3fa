import AppRafter.Provisioner.SharedBind
import AppRafter.Provisioner.Sweep
import AppRafter.Nats.Reclaim

set_option autoImplicit false

namespace AppRafter.Egress

open Application List Option

structure ConnectionTarget where
  namespace_ : String
  podSelector : List (String × String)
  port : Nat

def defaultTarget (serviceType : String) : Option ConnectionTarget :=
  match serviceType with
  | "pg" => some ⟨"cnpg-system", [("cnpg.io/cluster", "platform-postgres")], 5432⟩
  | "redis" => some ⟨"dragonfly-system", [("app.kubernetes.io/name", "dragonfly")], 6379⟩
  | "jetstream" => some ⟨"nats-system", [("app.kubernetes.io/name", "nats"), ("app.kubernetes.io/component", "nats")], 4222⟩
  | _ => none

def resolveNeedsTargets (serviceTypes : List String) (namespaceOverrides : String → Option String) (serviceType : String) :
    Option ConnectionTarget :=
  if serviceType ∈ serviceTypes then
    (defaultTarget serviceType).map fun target =>
      { target with namespace_ := (namespaceOverrides serviceType).getD target.namespace_ }
  else none

inductive EgressProfile where
  | internet
  | internal
  | strict
deriving DecidableEq

inductive Protocol where
  | tcp
  | udp

inductive Peer where
  | endpoints (matchLabels : List (String × String))
  | world

-- No ports means every port.
structure EgressRule where
  peer : Peer
  ports : List (Nat × Protocol)

structure EgressPolicy where
  name : String
  endpointSelector : List (String × String)
  egress : List EgressRule

def podNamespaceLabel : String := "io.kubernetes.pod.namespace"

def dnsRule : EgressRule := ⟨.endpoints [(podNamespaceLabel, "kube-system"), ("k8s-app", "kube-dns")], [(53, .udp), (53, .tcp)]⟩

def sameNamespaceRule : EgressRule := ⟨.endpoints [], []⟩

def worldRule : EgressRule := ⟨.world, []⟩

def targetRule (target : ConnectionTarget) : EgressRule :=
  ⟨.endpoints ((podNamespaceLabel, target.namespace_) :: target.podSelector), [(target.port, .tcp)]⟩

def needRule (targets : String → Option ConnectionTarget) : NeedEntry → Option EgressRule
  | .disk _ => none
  | .service type _ => (targets type.text).map targetRule

def renderEgressPolicy (renderedName : String) (labels : List (String × String)) (needsEntries : List NeedEntry)
    (profile : EgressProfile) (targets : String → Option ConnectionTarget) : EgressPolicy where
  name := renderedName ++ "-egress"
  endpointSelector := labels
  egress := [dnsRule] ++ (if profile ≠ .strict then [sameNamespaceRule] else []) ++
    (if profile = .internet then [worldRule] else []) ++ needsEntries.filterMap (needRule targets)

def serviceTypesOf (entries : List NeedEntry) : List String :=
  entries.filterMap fun
    | .disk _ => none
    | .service type _ => some type.text

-- The policy as the Application's reconcile has it rendered: no overrides.
def reconciledPolicy (renderedName : String) (labels : List (String × String)) (effective : ApplicationBaseSpec)
    (profile : EgressProfile) : EgressPolicy :=
  renderEgressPolicy renderedName labels (needEntries effective) profile
    (resolveNeedsTargets (serviceTypesOf (needEntries effective)) fun _ => none)

structure Pod where
  namespace_ : String
  labels : String → Option String

variable (policyNs : String)

-- Cilium's reading of a selector in a namespaced policy.
def Selects (matchLabels : List (String × String)) (pod : Pod) : Prop :=
  (∀ label ∈ matchLabels, if label.1 = podNamespaceLabel then pod.namespace_ = label.2 else pod.labels label.1 = some label.2) ∧
    (podNamespaceLabel ∈ matchLabels.map Prod.fst ∨ pod.namespace_ = policyNs)

def PeerSelects (pod : Pod) : Peer → Prop
  | .endpoints matchLabels => Selects policyNs matchLabels pod
  | .world => False

-- A TCP connection to a port of a pod of the cluster.
def Allows (rule : EgressRule) (pod : Pod) (port : Nat) : Prop :=
  PeerSelects policyNs pod rule.peer ∧ (rule.ports = [] ∨ (port, .tcp) ∈ rule.ports)

def Admits (policy : EgressPolicy) (pod : Pod) (port : Nat) : Prop :=
  ∃ rule ∈ policy.egress, Allows policyNs rule pod port

theorem target_of {type : ServiceType} {target : ConnectionTarget} (found : defaultTarget type.text = some target) :
    (type = .pg ∧ target = ⟨"cnpg-system", [("cnpg.io/cluster", "platform-postgres")], 5432⟩) ∨
      (type = .redis ∧ target = ⟨"dragonfly-system", [("app.kubernetes.io/name", "dragonfly")], 6379⟩) ∨
      (type = .jetstream ∧
        target = ⟨"nats-system", [("app.kubernetes.io/name", "nats"), ("app.kubernetes.io/component", "nats")], 4222⟩) := by
  cases type with
  | pg => exact .inl ⟨rfl, (some.inj found).symm⟩
  | redis => exact .inr (.inl ⟨rfl, (some.inj found).symm⟩)
  | jetstream => exact .inr (.inr ⟨rfl, (some.inj found).symm⟩)
  | clickhouse => cases found
  | s3 => cases found
  | notifications => cases found

theorem mem_service_types (entries : List NeedEntry) (type : String) :
    type ∈ serviceTypesOf entries ↔ ∃ kind need, .service kind need ∈ entries ∧ kind.text = type := by
  rw [serviceTypesOf, mem_filterMap]
  constructor
  · rintro ⟨entry, member, found⟩
    cases entry with
    | disk claim => cases found
    | service kind need => exact ⟨kind, need, member, some.inj found⟩
  · rintro ⟨kind, need, member, rfl⟩
    exact ⟨_, member, rfl⟩

theorem admits_reconciled (policyNs renderedName : String) (labels : List (String × String)) (effective : ApplicationBaseSpec)
    (profile : EgressProfile) (pod : Pod) (port : Nat) :
    Admits policyNs (reconciledPolicy renderedName labels effective profile) pod port ↔
      Allows policyNs dnsRule pod port ∨ (profile ≠ .strict ∧ Allows policyNs sameNamespaceRule pod port) ∨
        ∃ type need target, .service type need ∈ needEntries effective ∧ defaultTarget type.text = some target ∧
          Allows policyNs (targetRule target) pod port := by
  have world : ¬ Allows policyNs worldRule pod port := fun allowed => allowed.1
  constructor
  · rintro ⟨rule, member, allowed⟩
    rcases mem_append.mp member with earlier | declares
    · rcases mem_append.mp earlier with earlier | isWorld
      · rcases mem_append.mp earlier with dns | same
        · rw [mem_singleton.mp dns] at allowed
          exact .inl allowed
        · by_cases loose : profile ≠ .strict
          · rw [if_pos loose] at same
            rw [mem_singleton.mp same] at allowed
            exact .inr (.inl ⟨loose, allowed⟩)
          · rw [if_neg loose] at same
            cases same
      · by_cases internet : profile = .internet
        · rw [if_pos internet] at isWorld
          rw [mem_singleton.mp isWorld] at allowed
          exact absurd allowed world
        · rw [if_neg internet] at isWorld
          cases isWorld
    · obtain ⟨entry, held, made⟩ := mem_filterMap.mp declares
      cases entry with
      | disk claim => cases made
      | service type need =>
        obtain ⟨target, found, rfl⟩ := map_eq_some_iff.mp made
        have declared : type.text ∈ serviceTypesOf (needEntries effective) := (mem_service_types _ _).mpr ⟨type, need, held, rfl⟩
        rw [resolveNeedsTargets, if_pos declared] at found
        obtain ⟨target, resolved, rfl⟩ := map_eq_some_iff.mp found
        exact .inr (.inr ⟨type, need, target, held, resolved, allowed⟩)
  · rintro (allowed | ⟨loose, allowed⟩ | ⟨type, need, target, held, resolved, allowed⟩)
    · exact ⟨dnsRule, by simp [reconciledPolicy, renderEgressPolicy], allowed⟩
    · exact ⟨sameNamespaceRule, by simp [reconciledPolicy, renderEgressPolicy, loose], allowed⟩
    · refine ⟨targetRule target, mem_append_right _ (mem_filterMap.mpr ⟨_, held, ?_⟩), allowed⟩
      have declared : type.text ∈ serviceTypesOf (needEntries effective) := (mem_service_types _ _).mpr ⟨type, need, held, rfl⟩
      rw [needRule, resolveNeedsTargets, if_pos declared, resolved]
      rfl

open Provisioner
open Nats (defaultNatsSystemNamespace)

-- The Service a connection Secret names, with the namespace it is in.
inductive Service where
  | pg (cluster ns : String)
  | redis (inst ns : String)
  | nats (ns : String)

def Service.kind : Service → ServiceType
  | .pg _ _ => .pg
  | .redis _ _ => .redis
  | .nats _ => .jetstream

def Service.ns : Service → String
  | .pg _ ns => ns
  | .redis _ ns => ns
  | .nats ns => ns

def natsStatefulsetName : String := "nats"

def Service.host : Service → String
  | .pg cluster ns => cluster ++ "-rw." ++ ns ++ ".svc"
  | .redis inst ns => inst ++ "." ++ ns ++ ".svc"
  | .nats ns => natsStatefulsetName ++ "." ++ ns ++ ".svc"

def Service.port : Service → Nat
  | .pg _ _ => 5432
  | .redis _ _ => 6379
  | .nats _ => 4222

variable (provider : ServiceProvider)

def pgService : Service := .pg provider.cnpgCluster (provider.configNs.getD defaultCnpgNamespace)

def redisService (inst : String) : Service :=
  .redis inst (provider.configNs.getD defaultRedisNamespace)

def natsService : Service := .nats (provider.configNs.getD defaultNatsSystemNamespace)

def ownedService (spec : ResourceClaimSpec) : Backend → Option Service
  | .cloudnativepg => some (pgService provider)
  | .dragonfly => some (redisService provider (poolInstanceName (spec.persistent.getD false) poolInstanceIndex))
  | .nats => some (natsService provider)
  | .disk => none
  | .sharedDisk => none

def boundService (sd : SharedDatabase) : Backend → Option Service
  | .cloudnativepg => (boundDatabase sd).map fun _ => pgService provider
  | .dragonfly => (cacheSlot sd).map fun slot => redisService provider slot.1
  | .nats => none
  | .disk => none
  | .sharedDisk => none

def connectionService (spec : ResourceClaimSpec) (databases : String → Option SharedDatabase) :
    Option Service :=
  (Backend.fromSpecBackend provider.backend).bind fun backend =>
    match spec.sharedRef with
    | none => ownedService provider spec backend
    | some shared => (databases shared).bind fun sd => boundService provider sd backend

def Labelled (pod : Pod) : Service → Prop
  | .pg cluster _ =>
    pod.labels "cnpg.io/cluster" = some cluster ∧ pod.labels "app.kubernetes.io/name" ≠ some "dragonfly" ∧
      pod.labels "app.kubernetes.io/name" ≠ some "nats"
  | .redis _ _ => pod.labels "cnpg.io/cluster" = none ∧ pod.labels "app.kubernetes.io/name" = some "dragonfly"
  | .nats _ =>
    pod.labels "cnpg.io/cluster" = none ∧ pod.labels "app.kubernetes.io/name" = some "nats" ∧
      pod.labels "app.kubernetes.io/component" = some "nats"

def Backs (service : Service) (pod : Pod) : Prop :=
  pod.namespace_ = service.ns ∧ Labelled pod service ∧ pod.labels "k8s-app" ≠ some "kube-dns"

def Declares (effective : ApplicationBaseSpec) (type : ServiceType) : Prop := ∃ need, .service type need ∈ needEntries effective

def AtDefault : ServiceType → Prop
  | .pg => provider.cnpgCluster = defaultCnpgCluster ∧ provider.configNs.getD defaultCnpgNamespace = defaultCnpgNamespace
  | .redis => provider.configNs.getD defaultRedisNamespace = defaultRedisNamespace
  | .jetstream => provider.configNs.getD defaultNatsSystemNamespace = defaultNatsSystemNamespace
  | _ => False

def AtCatalog : Service → Prop
  | .pg cluster ns => cluster = defaultCnpgCluster ∧ ns = defaultCnpgNamespace
  | .redis _ ns => ns = defaultRedisNamespace
  | .nats ns => ns = defaultNatsSystemNamespace

variable {service : Service} {pod : Pod}

theorem connection_at_default {provider : ServiceProvider} {spec : ResourceClaimSpec} {databases : String → Option SharedDatabase}
    (made : connectionService provider spec databases = some service) :
    AtCatalog service ↔ AtDefault provider service.kind := by
  obtain ⟨backend, _, connected⟩ := bind_eq_some_iff.mp made
  have placed : service = pgService provider ∨ (∃ inst, service = redisService provider inst) ∨
      service = natsService provider := by
    cases owned : spec.sharedRef with
    | none =>
      rw [owned] at connected
      cases backend with
      | cloudnativepg => exact .inl (some.inj connected).symm
      | dragonfly => exact .inr (.inl ⟨_, (some.inj connected).symm⟩)
      | nats => exact .inr (.inr (some.inj connected).symm)
      | disk | sharedDisk => cases connected
    | some shared =>
      rw [owned] at connected
      obtain ⟨sd, _, bound⟩ := bind_eq_some_iff.mp connected
      cases backend with
      | cloudnativepg =>
        obtain ⟨_, _, same⟩ := map_eq_some_iff.mp bound
        exact .inl same.symm
      | dragonfly =>
        obtain ⟨slot, _, same⟩ := map_eq_some_iff.mp bound
        exact .inr (.inl ⟨slot.1, same.symm⟩)
      | nats => cases bound
      | disk => cases bound
      | sharedDisk => cases bound
  rcases placed with rfl | ⟨inst, rfl⟩ | rfl
  · exact Iff.rfl
  · exact Iff.rfl
  · exact Iff.rfl

theorem selects_cons (policyNs ns : String) {matchLabels : List (String × String)} (pod : Pod)
    (plain : podNamespaceLabel ∉ matchLabels.map Prod.fst) :
    Selects policyNs ((podNamespaceLabel, ns) :: matchLabels) pod ↔
      pod.namespace_ = ns ∧ ∀ label ∈ matchLabels, pod.labels label.1 = some label.2 := by
  have other : ∀ label ∈ matchLabels, label.1 ≠ podNamespaceLabel := fun label member same =>
    plain (same ▸ mem_map_of_mem member)
  rw [Selects, forall_mem_cons]
  constructor
  · rintro ⟨⟨here, rest⟩, _⟩
    refine ⟨here, fun label member => ?_⟩
    have read := rest label member
    rwa [if_neg (other label member)] at read
  · rintro ⟨here, rest⟩
    refine ⟨⟨here, fun label member => ?_⟩, .inl mem_cons_self⟩
    rw [if_neg (other label member)]
    exact rest label member

variable (policyNs : String)

theorem target_allows {type : ServiceType} {target : ConnectionTarget}
    (found : defaultTarget type.text = some target) (backs : Backs service pod) (port : Nat) :
    Allows policyNs (targetRule target) pod port ↔ type = service.kind ∧ AtCatalog service ∧ port = service.port := by
  obtain ⟨here, labelled, _⟩ := backs
  rcases target_of found with ⟨rfl, rfl⟩ | ⟨rfl, rfl⟩ | ⟨rfl, rfl⟩
  · rw [Allows, targetRule, PeerSelects, selects_cons _ _ _ (by decide)]
    cases service with
    | pg cluster ns =>
      simp_all [Service.ns, Service.kind, Service.port, AtCatalog, Labelled, defaultCnpgCluster, defaultCnpgNamespace, and_comm]
    | redis | nats => simp_all [Service.kind, Labelled]
  · rw [Allows, targetRule, PeerSelects, selects_cons _ _ _ (by decide)]
    cases service with
    | pg cluster ns => simp_all [Service.kind, Labelled]
    | redis inst ns => simp_all [Service.ns, Service.kind, Service.port, AtCatalog, Labelled, defaultRedisNamespace]
    | nats ns => simp_all [Service.kind, Labelled]
  · rw [Allows, targetRule, PeerSelects, selects_cons _ _ _ (by decide)]
    cases service with
    | pg | redis => simp_all [Service.kind, Labelled]
    | nats ns => simp_all [Service.ns, Service.kind, Service.port, AtCatalog, Labelled, defaultNatsSystemNamespace]

theorem dns_refuses (backs : Backs service pod) (port : Nat) : ¬ Allows policyNs dnsRule pod port := by
  rintro ⟨selects, _⟩
  have read := ((selects_cons policyNs "kube-system" pod (by decide)).mp selects).2
  exact backs.2.2 (read ("k8s-app", "kube-dns") (mem_singleton.mpr rfl))

theorem same_namespace_allows (pod : Pod) (port : Nat) :
    Allows policyNs sameNamespaceRule pod port ↔ pod.namespace_ = policyNs := by
  simp [Allows, sameNamespaceRule, PeerSelects, Selects]

theorem admits_backend (policyNs renderedName : String) (labels : List (String × String)) (effective : ApplicationBaseSpec)
    (profile : EgressProfile) (backs : Backs service pod) (port : Nat) :
    Admits policyNs (reconciledPolicy renderedName labels effective profile) pod port ↔
      (profile ≠ .strict ∧ service.ns = policyNs) ∨
        (Declares effective service.kind ∧ AtCatalog service ∧ port = service.port) := by
  rw [admits_reconciled, same_namespace_allows, backs.1]
  constructor
  · rintro (dns | same | ⟨type, need, target, held, found, allowed⟩)
    · exact absurd dns (dns_refuses policyNs backs port)
    · exact .inl same
    · obtain ⟨rfl, there, samePort⟩ := (target_allows policyNs found backs port).mp allowed
      exact .inr ⟨⟨need, held⟩, there, samePort⟩
  · rintro (same | ⟨⟨need, held⟩, there, samePort⟩)
    · exact .inr (.inl same)
    · have known : ∃ target, defaultTarget service.kind.text = some target := by
        cases service with
        | pg cluster ns => exact ⟨_, rfl⟩
        | redis inst ns => exact ⟨_, rfl⟩
        | nats ns => exact ⟨_, rfl⟩
      obtain ⟨target, found⟩ := known
      exact .inr (.inr ⟨_, need, target, held, found, (target_allows policyNs found backs port).mpr ⟨rfl, there, samePort⟩⟩)

-- Past the profile, only what the catalog names, is declared, or runs next to the application.
theorem backend_reached_iff (policyNs renderedName : String) (labels : List (String × String)) (effective : ApplicationBaseSpec)
    (profile : EgressProfile) (provider : ServiceProvider) (spec : ResourceClaimSpec)
    (databases : String → Option SharedDatabase) (service : Service)
    (made : connectionService provider spec databases = some service) :
    (∀ pod, Backs service pod → (Admits policyNs (reconciledPolicy renderedName labels effective profile) pod service.port ↔
        (Declares effective service.kind ∧ AtDefault provider service.kind) ∨ (profile ≠ .strict ∧ service.ns = policyNs))) ∧
      ∀ other pod port, Backs other pod → profile = .strict → ¬ Declares effective other.kind →
        ¬ Admits policyNs (reconciledPolicy renderedName labels effective profile) pod port := by
  constructor
  · intro pod backs
    rw [admits_backend policyNs renderedName labels effective profile backs service.port, connection_at_default made]
    constructor
    · rintro (same | ⟨declared, there, _⟩)
      · exact .inr same
      · exact .inl ⟨declared, there⟩
    · rintro (⟨declared, there⟩ | same)
      · exact .inr ⟨declared, there, rfl⟩
      · exact .inl same
  · intro other pod port backs strict undeclared admitted
    rcases (admits_backend policyNs renderedName labels effective profile backs port).mp admitted with
      ⟨loose, _⟩ | ⟨declared, _⟩
    · exact loose strict
    · exact undeclared declared

def shopSpec : ApplicationBaseSpec := { image := some "ghcr.io/acme/shop:v1", needs := some { pg := some (.one {}) } }

def pgSpec : ResourceClaimSpec := { type := "pg", selector := defaultIntegratedSelector }

def databasesProvider : ServiceProvider :=
  { ns := "apprafter-system", name := "pg-integrated", backend := "cloudnative-pg", configNs := some "databases" }

def shopPolicy (profile : EgressProfile) : EgressPolicy :=
  reconciledPolicy "shop" [("app.kubernetes.io/name", "shop")] shopSpec profile

def pgPod (ns : String) : Pod := ⟨ns, fun label => if label = "cnpg.io/cluster" then some defaultCnpgCluster else none⟩

theorem pg_pod_backs (ns : String) : Backs (.pg defaultCnpgCluster ns) (pgPod ns) := ⟨rfl, ⟨rfl, nofun, nofun⟩, nofun⟩

theorem shop_backend_reached : Admits "shop" (shopPolicy .strict) (pgPod "cnpg-system") 5432 :=
  (((backend_reached_iff "shop" "shop" [("app.kubernetes.io/name", "shop")] shopSpec .strict
    { databasesProvider with configNs := none } pgSpec (fun _ => none) (.pg defaultCnpgCluster "cnpg-system") rfl).1
      (pgPod "cnpg-system") (pg_pod_backs "cnpg-system")).mpr (.inl ⟨⟨_, mem_singleton.mpr rfl⟩, rfl, rfl⟩))

-- A pg provider whose config places its cluster in a namespace of its own.
theorem moved_backend_unreached :
    connectionService databasesProvider pgSpec (fun _ => none) = some (.pg defaultCnpgCluster "databases") ∧
      (Service.pg defaultCnpgCluster "databases").host = "platform-postgres-rw.databases.svc" ∧
      Backs (.pg defaultCnpgCluster "databases") (pgPod "databases") ∧
      ∀ profile, ¬ Admits "shop" (shopPolicy profile) (pgPod "databases") 5432 := by
  refine ⟨rfl, by decide, pg_pod_backs "databases", fun profile admitted => ?_⟩
  rcases (admits_backend "shop" "shop" _ shopSpec profile (pg_pod_backs "databases") 5432).mp admitted with
    ⟨_, same⟩ | ⟨_, ⟨_, there⟩, _⟩
  · exact absurd same (by decide)
  · exact absurd there (by decide)

end AppRafter.Egress
