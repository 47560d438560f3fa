import AppRafter.Hetzner.Commands
import AppRafter.Lib.Play
import AppRafter.Lib.Table

set_option autoImplicit false

namespace AppRafter.Hetzner

open Lib

structure Project where
  servers : Table Server Server.id
  sshKeys : Table SshKey SshKey.id
  networks : Table Network Network.id
  firewalls : Table Firewall Firewall.id
  floatingIps : Table FloatingIp FloatingIp.id
deriving DecidableEq

def Server.detach (network firewall : Option Nat) (server : Server) : Server :=
  { server with
    networks := server.networks.filter fun id => some id ≠ network
    firewalls := server.firewalls.filter fun id => some id ≠ firewall }

def FloatingIp.unassign (server : Nat) (ip : FloatingIp) : FloatingIp :=
  { ip with server := if ip.server = some server then none else ip.server }

variable (id : Nat)

def FloatingIp.release (ip : FloatingIp) : FloatingIp := { ip with server := if ip.id = id then none else ip.server }

def Firewall.replaceRules (rules : List FirewallRule) (firewall : Firewall) : Firewall :=
  { firewall with rules := if firewall.id = id then rules else firewall.rules }

def serverOf (request : ServerCreateRequest) : Server :=
  { id := id
    name := request.name
    labels := request.labels
    serverType := some request.serverType
    networks := request.networks.getD []
    firewalls := request.firewalls.getD []
    sshKeys := request.sshKeys.getD [] }

def sshKeyOf (request : SshKeyCreateRequest) : SshKey :=
  { id := id
    name := request.name
    publicKey := request.publicKey
    labels := request.labels }

def networkOf (request : NetworkCreateRequest) : Network :=
  { id := id
    name := request.name
    ipRange := request.ipRange
    subnets := request.subnets
    labels := request.labels }

def firewallOf (request : FirewallCreateRequest) : Firewall :=
  { id := id
    name := request.name
    rules := request.rules
    labels := request.labels }

def floatingIpOf (request : FloatingIpCreateRequest) : FloatingIp :=
  { id := id
    kind := request.kind
    name := request.name
    server := request.server
    homeLocation := request.homeLocation
    labels := request.labels }

-- A list answers with one page, and whether a request is accepted is the API's choice.
structure Cloud where
  pageSize : Nat
  serverTypes : List ServerType
  accepts : Project → HzRequest → Bool

def HzRequest.endpoint : HzRequest → String
  | .listServers => "GET /v1/servers"
  | .listServerTypes => "GET /v1/server_types"
  | .listSshKeys => "GET /v1/ssh_keys"
  | .listNetworks => "GET /v1/networks"
  | .listFirewalls => "GET /v1/firewalls"
  | .listFloatingIps => "GET /v1/floating_ips"
  | .createServer _ => "POST /v1/servers"
  | .createSshKey _ => "POST /v1/ssh_keys"
  | .createNetwork _ => "POST /v1/networks"
  | .createFirewall _ => "POST /v1/firewalls"
  | .setFirewallRules id _ => "POST /v1/firewalls/" ++ toString id ++ "/actions/set_rules"
  | .createFloatingIp _ => "POST /v1/floating_ips"
  | .deleteServer id => "DELETE /v1/servers/" ++ toString id
  | .unassignFloatingIp id => "POST /v1/floating_ips/" ++ toString id ++ "/actions/unassign"
  | .deleteFloatingIp id => "DELETE /v1/floating_ips/" ++ toString id
  | .deleteFirewall id => "DELETE /v1/firewalls/" ++ toString id
  | .deleteNetwork id => "DELETE /v1/networks/" ++ toString id
  | .deleteSshKey id => "DELETE /v1/ssh_keys/" ++ toString id

def Project.answer (cloud : Cloud) (project : Project) : (request : HzRequest) → request.Value × Project
  | .listServers => (project.servers.rows.take cloud.pageSize, project)
  | .listServerTypes => (cloud.serverTypes, project)
  | .listSshKeys => (project.sshKeys.rows.take cloud.pageSize, project)
  | .listNetworks => (project.networks.rows.take cloud.pageSize, project)
  | .listFirewalls => (project.firewalls.rows.take cloud.pageSize, project)
  | .listFloatingIps => (project.floatingIps.rows.take cloud.pageSize, project)
  | .createServer request =>
    (serverOf project.servers.next request,
      { project with servers := project.servers.insert (serverOf project.servers.next request) rfl })
  | .createSshKey request =>
    (sshKeyOf project.sshKeys.next request,
      { project with sshKeys := project.sshKeys.insert (sshKeyOf project.sshKeys.next request) rfl })
  | .createNetwork request =>
    (networkOf project.networks.next request,
      { project with networks := project.networks.insert (networkOf project.networks.next request) rfl })
  | .createFirewall request =>
    (firewallOf project.firewalls.next request,
      { project with firewalls := project.firewalls.insert (firewallOf project.firewalls.next request) rfl })
  | .setFirewallRules id rules =>
    ((), { project with firewalls := project.firewalls.mapRows (Firewall.replaceRules id rules) fun _ => rfl })
  | .createFloatingIp request =>
    (floatingIpOf project.floatingIps.next request,
      { project with floatingIps := project.floatingIps.insert (floatingIpOf project.floatingIps.next request) rfl })
  | .deleteServer id =>
    ((), { project with
      servers := project.servers.remove id
      floatingIps := project.floatingIps.mapRows (FloatingIp.unassign id) fun _ => rfl })
  | .unassignFloatingIp id =>
    ((), { project with floatingIps := project.floatingIps.mapRows (FloatingIp.release id) fun _ => rfl })
  | .deleteFloatingIp id => ((), { project with floatingIps := project.floatingIps.remove id })
  | .deleteFirewall id =>
    ((), { project with
      firewalls := project.firewalls.remove id
      servers := project.servers.mapRows (Server.detach none (some id)) fun _ => rfl })
  | .deleteNetwork id =>
    ((), { project with
      networks := project.networks.remove id
      servers := project.servers.mapRows (Server.detach (some id) none) fun _ => rfl })
  | .deleteSshKey id => ((), { project with sshKeys := project.sshKeys.remove id })

def Cloud.serve (cloud : Cloud) (project : Project) (request : HzRequest) : hzApi.Response request × Project :=
  if cloud.accepts project request then (.ok (project.answer cloud request).1, (project.answer cloud request).2)
  else (.error (.api request.endpoint), project)

theorem answered_play {Value : Type} (cloud : Cloud) (answer : Except CliError Value) (project : Project) :
    (answered answer).play cloud.serve project = (answer, project) := by
  cases answer with
  | ok value => rfl
  | error error => rfl

theorem ask_yields (cloud : Cloud) (request : HzRequest) (project : Project) :
    (ask request).Yields cloud.serve project (project.answer cloud request).1 (project.answer cloud request).2 := by
  have played : (ask request).play cloud.serve project = cloud.serve project request := answered_play cloud _ _
  rw [Prog.Yields, played, Cloud.serve]
  cases cloud.accepts project request with
  | true => exact .inl rfl
  | false => exact .inr ⟨_, rfl⟩

open List

inductive Kind where
  | server
  | sshKey
  | network
  | firewall
  | floatingIp
deriving DecidableEq

structure Identity where
  id : Nat
  name : Option String
  labels : Labels
deriving DecidableEq

def Server.identity (server : Server) : Identity := { id := server.id, name := some server.name, labels := server.labels }

def SshKey.identity (key : SshKey) : Identity := { id := key.id, name := some key.name, labels := key.labels }

def Network.identity (network : Network) : Identity := { id := network.id, name := some network.name, labels := network.labels }

def Firewall.identity (firewall : Firewall) : Identity :=
  { id := firewall.id, name := some firewall.name, labels := firewall.labels }

def FloatingIp.identity (ip : FloatingIp) : Identity := { id := ip.id, name := ip.name, labels := ip.labels }

namespace Project

def objects (project : Project) : Kind → List Identity
  | .server => project.servers.rows.map Server.identity
  | .sshKey => project.sshKeys.rows.map SshKey.identity
  | .network => project.networks.rows.map Network.identity
  | .firewall => project.firewalls.rows.map Firewall.identity
  | .floatingIp => project.floatingIps.rows.map FloatingIp.identity

theorem objects_unique (project : Project) (kind : Kind) (first second : Identity) (member : first ∈ project.objects kind)
    (other : second ∈ project.objects kind) (same : first.id = second.id) : first = second := by
  cases kind with
  | server =>
    obtain ⟨row, held, rfl⟩ := mem_map.mp member
    obtain ⟨row', held', rfl⟩ := mem_map.mp other
    rw [project.servers.key_unique row row' held held' same]
  | sshKey =>
    obtain ⟨row, held, rfl⟩ := mem_map.mp member
    obtain ⟨row', held', rfl⟩ := mem_map.mp other
    rw [project.sshKeys.key_unique row row' held held' same]
  | network =>
    obtain ⟨row, held, rfl⟩ := mem_map.mp member
    obtain ⟨row', held', rfl⟩ := mem_map.mp other
    rw [project.networks.key_unique row row' held held' same]
  | firewall =>
    obtain ⟨row, held, rfl⟩ := mem_map.mp member
    obtain ⟨row', held', rfl⟩ := mem_map.mp other
    rw [project.firewalls.key_unique row row' held held' same]
  | floatingIp =>
    obtain ⟨row, held, rfl⟩ := mem_map.mp member
    obtain ⟨row', held', rfl⟩ := mem_map.mp other
    rw [project.floatingIps.key_unique row row' held held' same]

end Project

-- What a request does to the objects of a kind.
inductive Effect where
  | keep
  | add (object : Identity)
  | drop (id : Nat)

def Effect.on (objects : List Identity) : Effect → List Identity
  | .keep => objects
  | .add object => objects ++ [object]
  | .drop id => objects.filter fun object => object.id ≠ id

def HzRequest.effect (project : Project) : HzRequest → Kind → Effect
  | .createServer request, .server => .add (serverOf project.servers.next request).identity
  | .createSshKey request, .sshKey => .add (sshKeyOf project.sshKeys.next request).identity
  | .createNetwork request, .network => .add (networkOf project.networks.next request).identity
  | .createFirewall request, .firewall => .add (firewallOf project.firewalls.next request).identity
  | .createFloatingIp request, .floatingIp => .add (floatingIpOf project.floatingIps.next request).identity
  | .deleteServer id, .server => .drop id
  | .deleteSshKey id, .sshKey => .drop id
  | .deleteNetwork id, .network => .drop id
  | .deleteFirewall id, .firewall => .drop id
  | .deleteFloatingIp id, .floatingIp => .drop id
  | _, _ => .keep

variable {Row : Type} {may : Identity → Prop} {project : Project} {request : HzRequest}

theorem map_remove {key : Row → Nat} (table : Table Row key) {identity : Row → Identity}
    (same : ∀ row, (identity row).id = key row) (id : Nat) :
    (table.remove id).rows.map identity = (table.rows.map identity).filter fun object => object.id ≠ id := by
  simp [Table.remove, filter_map, Function.comp_def, same]

theorem map_change {key : Row → Nat} (table : Table Row key) {identity : Row → Identity} (change : Row → Row)
    (keeps : ∀ row, key (change row) = key row) (same : ∀ row, identity (change row) = identity row) :
    (table.mapRows change keeps).rows.map identity = table.rows.map identity := by
  simp [Table.mapRows, Function.comp_def, same]

variable (cloud : Cloud)

theorem objects_answer (project : Project) (request : HzRequest) (kind : Kind) :
    (project.answer cloud request).2.objects kind = (request.effect project kind).on (project.objects kind) := by
  cases request with
  | createServer | createSshKey | createNetwork | createFirewall | createFloatingIp => cases kind <;> simp [Project.answer, Project.objects, HzRequest.effect, Effect.on, Table.insert]
  | setFirewallRules id rules =>
    cases kind with
    | firewall => exact map_change _ (Firewall.replaceRules id rules) (fun _ => rfl) fun _ => rfl
    | _ => rfl
  | deleteServer id =>
    cases kind with
    | server => exact map_remove _ (fun _ => rfl) _
    | floatingIp => exact map_change _ (FloatingIp.unassign id) (fun _ => rfl) fun _ => rfl
    | _ => rfl
  | unassignFloatingIp id =>
    cases kind with
    | floatingIp => exact map_change _ (FloatingIp.release id) (fun _ => rfl) fun _ => rfl
    | _ => rfl
  | deleteFloatingIp id =>
    cases kind with
    | floatingIp => exact map_remove _ (fun _ => rfl) _
    | _ => rfl
  | deleteFirewall id =>
    cases kind with
    | firewall => exact map_remove _ (fun _ => rfl) _
    | server => exact map_change _ (Server.detach none (some id)) (fun _ => rfl) fun _ => rfl
    | _ => rfl
  | deleteNetwork id =>
    cases kind with
    | network => exact map_remove _ (fun _ => rfl) _
    | server => exact map_change _ (Server.detach (some id) none) (fun _ => rfl) fun _ => rfl
    | _ => rfl
  | deleteSshKey id =>
    cases kind with
    | sshKey => exact map_remove _ (fun _ => rfl) _
    | _ => rfl
  | listServers => rfl
  | listServerTypes => rfl
  | listSshKeys => rfl
  | listNetworks => rfl
  | listFirewalls => rfl
  | listFloatingIps => rfl

-- Everything stays, what is new is labelled, and rules change on firewalls `may` admits.
structure Extends (may : Identity → Prop) (before after : Project) : Prop where
  kept : ∀ kind, before.objects kind ⊆ after.objects kind
  made : ∀ kind, ∀ object ∈ after.objects kind, object ∈ before.objects kind ∨ ours object.labels = true
  rules : ∀ firewall ∈ before.firewalls.rows, ∃ later ∈ after.firewalls.rows, later.identity = firewall.identity ∧
    (later.rules = firewall.rules ∨ may firewall.identity)

structure Cleared (before after : Project) : Prop where
  spared : ∀ kind, ∀ object ∈ before.objects kind, ours object.labels = false → object ∈ after.objects kind
  origin : ∀ kind, after.objects kind ⊆ before.objects kind
  rules : after.firewalls.rows ⊆ before.firewalls.rows

section Relations

variable (may : Identity → Prop)

theorem extends_refl (project : Project) : Extends may project project :=
  ⟨fun _ => List.Subset.refl _, fun _ _ member => .inl member, fun firewall member => ⟨firewall, member, rfl, .inl rfl⟩⟩

variable (first second third : Project)

theorem extends_trans (earlier : Extends may first second) (later : Extends may second third) : Extends may first third := by
  refine ⟨fun kind => List.Subset.trans (earlier.kept kind) (later.kept kind), ?_, ?_⟩
  · intro kind object member
    rcases later.made kind object member with held | labelled
    · exact earlier.made kind object held
    · exact .inr labelled
  · intro firewall member
    obtain ⟨middle, held, same, changed⟩ := earlier.rules firewall member
    obtain ⟨last, held', same', changed'⟩ := later.rules middle held
    refine ⟨last, held', same'.trans same, ?_⟩
    rcases changed with equal | allowed
    · rw [← equal, ← same]
      exact changed'
    · exact .inr allowed

theorem cleared_refl (project : Project) : Cleared project project :=
  ⟨fun _ _ member _ => member, fun _ => List.Subset.refl _, List.Subset.refl _⟩

theorem cleared_trans (earlier : Cleared first second) (later : Cleared second third) : Cleared first third := by
  refine ⟨?_, fun kind => List.Subset.trans (later.origin kind) (earlier.origin kind),
    List.Subset.trans later.rules earlier.rules⟩
  intro kind object member bare
  exact later.spared kind object (earlier.spared kind object member bare) bare

variable {firewall : Firewall}

theorem extends_rules {before after : Project} (extended : Extends may before after) {later : Firewall}
    (member : firewall ∈ before.firewalls.rows) (held : later ∈ after.firewalls.rows) (same : later.id = firewall.id)
    (changed : later.rules ≠ firewall.rules) : may firewall.identity := by
  obtain ⟨found, there, identical, kept⟩ := extended.rules firewall member
  have equal : found = later :=
    after.firewalls.key_unique found later there held ((congrArg Identity.id identical).trans same.symm)
  rcases kept with unchanged | allowed
  · exact absurd (equal ▸ unchanged) changed
  · exact allowed

theorem cleared_rules {before after : Project} (cleared : Cleared before after) {later : Firewall}
    (member : firewall ∈ before.firewalls.rows) (held : later ∈ after.firewalls.rows) (same : later.id = firewall.id) :
    later = firewall :=
  before.firewalls.key_unique later firewall (cleared.rules held) member same

end Relations

structure Benign (may : Identity → Prop) (project : Project) (request : HzRequest) : Prop where
  labelled : ∀ kind object, request.effect project kind = .add object → ours object.labels = true
  keeps : ∀ kind id, request.effect project kind ≠ .drop id
  allowed : ∀ id rules, request = .setFirewallRules id rules →
    ∀ firewall ∈ project.firewalls.rows, firewall.id = id → may firewall.identity

theorem benign_firewalls
    (benign : Benign may project request) (firewall : Firewall) (member : firewall ∈ project.firewalls.rows) :
    ∃ later ∈ (project.answer cloud request).2.firewalls.rows, later.identity = firewall.identity ∧
      (later.rules = firewall.rules ∨ may firewall.identity) := by
  cases request with
  | createFirewall asked => exact ⟨firewall, mem_append_left _ member, rfl, .inl rfl⟩
  | setFirewallRules id rules =>
    refine ⟨firewall.replaceRules id rules, mem_map_of_mem member, rfl, ?_⟩
    by_cases same : firewall.id = id
    · exact .inr (benign.allowed id rules rfl firewall member same)
    · exact .inl (if_neg same)
  | deleteFirewall id => exact absurd rfl (benign.keeps .firewall id)
  | _ => exact ⟨firewall, member, rfl, .inl rfl⟩

theorem extends_answer (benign : Benign may project request) : Extends may project (project.answer cloud request).2 := by
  refine ⟨?_, ?_, benign_firewalls cloud benign⟩
  · intro kind object member
    rw [objects_answer]
    cases effect : request.effect project kind with
    | keep => exact member
    | add made => exact mem_append_left _ member
    | drop id => exact absurd effect (benign.keeps kind id)
  · intro kind object member
    rw [objects_answer] at member
    cases effect : request.effect project kind with
    | keep =>
      rw [effect] at member
      exact .inl member
    | add made =>
      rw [effect] at member
      rcases mem_append.mp member with earlier | last
      · exact .inl earlier
      · exact .inr ((mem_singleton.mp last).symm ▸ benign.labelled kind made effect)
    | drop id => exact absurd effect (benign.keeps kind id)

theorem ask_extends (benign : Benign may project request) : (ask request).Leads cloud.serve (Extends may) project := by
  rw [Prog.Leads]
  rcases ask_yields cloud request project with ended | ⟨error, failed⟩
  · rw [ended]
    exact extends_answer cloud benign
  · rw [failed]
    exact extends_refl may project

structure Sweeping (project : Project) (request : HzRequest) : Prop where
  adds : ∀ kind object, request.effect project kind ≠ .add object
  drops : ∀ kind id, request.effect project kind = .drop id →
    ∀ object ∈ project.objects kind, object.id = id → ours object.labels = true
  rules : ∀ id rules, request ≠ .setFirewallRules id rules

theorem cleared_answer (sweeping : Sweeping project request) : Cleared project (project.answer cloud request).2 := by
  refine ⟨?_, ?_, ?_⟩
  · intro kind object member bare
    rw [objects_answer]
    cases effect : request.effect project kind with
    | keep => exact member
    | add made => exact absurd effect (sweeping.adds kind made)
    | drop id =>
      refine mem_filter.mpr ⟨member, decide_eq_true ?_⟩
      intro same
      rw [sweeping.drops kind id effect object member same] at bare
      cases bare
  · intro kind object member
    rw [objects_answer] at member
    cases effect : request.effect project kind with
    | keep =>
      rw [effect] at member
      exact member
    | add made => exact absurd effect (sweeping.adds kind made)
    | drop id =>
      rw [effect] at member
      exact (mem_filter.mp member).1
  · intro firewall member
    cases request with
    | createFirewall asked => exact absurd rfl (sweeping.adds .firewall _)
    | setFirewallRules id rules => exact absurd rfl (sweeping.rules id rules)
    | deleteFirewall id => exact (mem_filter.mp member).1
    | _ => exact member

theorem ask_cleared (project : Project) (sweeping : Sweeping project request) :
    (ask request).Leads cloud.serve Cleared project := by
  rw [Prog.Leads]
  rcases ask_yields cloud request project with ended | ⟨error, failed⟩
  · rw [ended]
    exact cleared_answer cloud sweeping
  · rw [failed]
    exact cleared_refl project

end AppRafter.Hetzner
