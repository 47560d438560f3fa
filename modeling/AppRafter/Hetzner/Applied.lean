import AppRafter.Hetzner.Ensured

set_option autoImplicit false

namespace AppRafter.Hetzner

open Lib List

def SshKey.serves (spec : SshKeySpec) (key : SshKey) : Prop := key.name = spec.name ∧ ours key.labels = true

def Network.serves (spec : NetworkSpec) (network : Network) : Prop := network.name = spec.name ∧ ours network.labels = true

def FloatingIp.serves (spec : FloatingIpSpec) (ip : FloatingIp) : Prop := ip.name = some spec.name ∧ ours ip.labels = true

def Project.besideSshKeys (first second : Project) : Prop :=
  first.servers = second.servers ∧ first.networks = second.networks ∧ first.firewalls = second.firewalls ∧
    first.floatingIps = second.floatingIps

def Project.besideNetworks (first second : Project) : Prop :=
  first.servers = second.servers ∧ first.sshKeys = second.sshKeys ∧ first.firewalls = second.firewalls ∧
    first.floatingIps = second.floatingIps

def Project.besideFloatingIps (first second : Project) : Prop :=
  first.servers = second.servers ∧ first.sshKeys = second.sshKeys ∧ first.networks = second.networks ∧
    first.firewalls = second.firewalls

section Loops

variable (cloud : Cloud) (before after : Project) (result : List Nat × Nat)

def KeysEnsured (specs : List SshKeySpec) : Prop :=
  Ensured (fun project => project.sshKeys.rows) SshKey.id (findSshKey (before.shownSshKeys cloud.pageSize)) SshKey.serves
    (fun _ _ => True) specs before after result.1 result.2

theorem ssh_keys_ensured {specs : List SshKeySpec}
    (ended : (collect (ensureSshKey (before.shownSshKeys cloud.pageSize)) specs).play cloud.serve before = (.ok result, after)) :
    KeysEnsured cloud before after result specs ∧ before.besideSshKeys after := by
  refine ensured_all cloud (fun _ => ⟨rfl, rfl, rfl, rfl⟩) ?_ ?_ ?_ ended
  · intro first second third ⟨servers, networks, firewalls, ips⟩ ⟨servers', networks', firewalls', ips'⟩
    exact ⟨servers.trans servers', networks.trans networks', firewalls.trans firewalls', ips.trans ips'⟩
  · intro spec key found
    obtain ⟨member, named, labelled⟩ := mem_refreshed found
    exact ⟨member, by simpa using named, labelled⟩
  · intro spec project key later created
    obtain ⟨rfl, rfl⟩ := Prog.yields_ends _ (ask_yields cloud _ project) created
    exact ⟨rfl, ⟨rfl, own_labels_ours⟩, trivial, rfl, rfl, rfl, rfl⟩

def NetworksEnsured (specs : List NetworkSpec) : Prop :=
  Ensured (fun project => project.networks.rows) Network.id (findNetwork (before.shownNetworks cloud.pageSize)) Network.serves
    (fun _ _ => True) specs before after result.1 result.2

theorem networks_ensured {specs : List NetworkSpec}
    (ended : (collect (ensureNetwork (before.shownNetworks cloud.pageSize)) specs).play cloud.serve before = (.ok result, after)) :
    NetworksEnsured cloud before after result specs ∧ before.besideNetworks after := by
  refine ensured_all cloud (fun _ => ⟨rfl, rfl, rfl, rfl⟩) ?_ ?_ ?_ ended
  · intro first second third ⟨servers, keys, firewalls, ips⟩ ⟨servers', keys', firewalls', ips'⟩
    exact ⟨servers.trans servers', keys.trans keys', firewalls.trans firewalls', ips.trans ips'⟩
  · intro spec network found
    obtain ⟨member, named, labelled⟩ := mem_refreshed found
    exact ⟨member, by simpa using named, labelled⟩
  · intro spec project network later created
    obtain ⟨rfl, rfl⟩ := Prog.yields_ends _ (ask_yields cloud _ project) created
    exact ⟨rfl, ⟨rfl, own_labels_ours⟩, trivial, rfl, rfl, rfl, rfl⟩

def FloatingIpsEnsured (server : Nat) (specs : List FloatingIpSpec) : Prop :=
  Ensured (fun project => project.floatingIps.rows) FloatingIp.id (findFloatingIp (before.shownFloatingIps cloud.pageSize))
    FloatingIp.serves (fun _ ip => ip.server = some server) specs before after result.1 result.2

theorem floating_ips_ensured {server : Nat} {specs : List FloatingIpSpec}
    (ended : (collect (ensureFloatingIp server (before.shownFloatingIps cloud.pageSize)) specs).play cloud.serve before =
      (.ok result, after)) :
    FloatingIpsEnsured cloud before after result server specs ∧ before.besideFloatingIps after := by
  refine ensured_all cloud (fun _ => ⟨rfl, rfl, rfl, rfl⟩) ?_ ?_ ?_ ended
  · intro first second third ⟨servers, keys, networks, firewalls⟩ ⟨servers', keys', networks', firewalls'⟩
    exact ⟨servers.trans servers', keys.trans keys', networks.trans networks', firewalls.trans firewalls'⟩
  · intro spec ip found
    obtain ⟨member, named, labelled⟩ := mem_refreshed found
    exact ⟨member, by simpa using named, labelled⟩
  · intro spec project ip later created
    obtain ⟨rfl, rfl⟩ := Prog.yields_ends _ (ask_yields cloud _ project) created
    exact ⟨rfl, ⟨rfl, own_labels_ours⟩, rfl, rfl, rfl, rfl, rfl⟩

end Loops

variable (project : Project) (request : ServerCreateRequest)

theorem next_server :
    (serverOf project.servers.next request).id = project.servers.next := rfl

def Project.withServer : Project :=
  { project with servers := project.servers.insert (serverOf project.servers.next request) (next_server project request) }

section Provider

variable (cloud : Cloud) (clock : Clock) (provider : HetznerCloudProvider)

def ServerEnsured (live : List Server) (sshIds netIds fwIds : List Nat) (before after : Project) (server made : Nat) : Prop :=
  (∃ existing, findServer live provider.spec.name = some existing ∧ server = existing.id ∧ made = 0 ∧ after = before) ∨
    (findServer live provider.spec.name = none ∧ server = before.servers.next ∧ made = 1 ∧
      ∃ serverType, after = before.withServer (provider.createRequest sshIds netIds fwIds serverType))

variable {live : List Server} {serverType : Option String} {before after : Project}

theorem server_ensured {sshIds netIds fwIds : List Nat} {result : Option Nat × Nat} (named : provider.spec.name ≠ "")
    (ended : (provider.ensureServer live serverType sshIds netIds fwIds).play cloud.serve before = (.ok result, after)) :
    ∃ server, result.1 = some server ∧ ServerEnsured provider live sshIds netIds fwIds before after server result.2 := by
  rw [HetznerCloudProvider.ensureServer] at ended
  cases found : findServer live provider.spec.name with
  | some existing =>
    simp only [found] at ended
    obtain ⟨rfl, rfl⟩ := (Prog.ends_pure _ _ _ _ _).mp ended
    exact ⟨existing.id, rfl, .inl ⟨existing, found, rfl, rfl, rfl⟩⟩
  | none =>
    simp only [found, bne_iff_ne, named, ne_eq, not_false_eq_true, if_true] at ended
    cases serverType with
    | none => cases ended
    | some st =>
      obtain ⟨server, middle, created, ended⟩ := (Prog.ends_bind _ _ _ _ _ _).mp ended
      obtain ⟨rfl, rfl⟩ := (Prog.ends_pure _ _ _ _ _).mp ended
      obtain ⟨rfl, rfl⟩ := Prog.yields_ends _ (ask_yields cloud _ before) created
      exact ⟨before.servers.next, rfl, .inr ⟨found, rfl, rfl, st, rfl⟩⟩

theorem assigned (server : Nat) (before after : Project) (made : Nat)
    (ended : (provider.ensureFloatingIps (some server)).play cloud.serve before = (.ok made, after)) :
    ∃ ids, FloatingIpsEnsured cloud before after (ids, made) server provider.floatingIps ∧ before.besideFloatingIps after := by
  rw [HetznerCloudProvider.ensureFloatingIps] at ended
  cases none_ : provider.floatingIps.isEmpty with
  | true =>
    simp only [none_] at ended
    obtain ⟨rfl, rfl⟩ := (Prog.ends_pure _ _ _ _ _).mp ended
    rw [List.isEmpty_iff.mp none_]
    exact ⟨[], ⟨⟨[], (append_nil _).symm⟩, rfl, List.forall_mem_nil _, List.forall_mem_nil _⟩, rfl, rfl, rfl, rfl⟩
  | false =>
    simp only [none_, HetznerCloudProvider.assignFloatingIps] at ended
    obtain ⟨live, middle, listed, ended⟩ := (Prog.ends_bind _ _ _ _ _ _).mp ended
    obtain ⟨rfl, rfl⟩ := Prog.yields_ends _ (refresh_floating_ips_yields cloud before) listed
    obtain ⟨result, last, loop, ended⟩ := (Prog.ends_bind _ _ _ _ _ _).mp ended
    obtain ⟨rfl, rfl⟩ := (Prog.ends_pure _ _ _ _ _).mp ended
    exact ⟨result.1, floating_ips_ensured cloud _ _ _ loop⟩

structure Stages (before after : Project) (outcome : ApplyOutcome) where
  keyed : Project
  netted : Project
  walled : Project
  served : Project
  keys : List Nat × Nat
  nets : List Nat × Nat
  fws : List Nat × Nat
  server : Nat
  made : Nat
  ips : List Nat × Nat
  sshKeys : KeysEnsured cloud before keyed keys provider.sshKeys
  besideKeys : before.besideSshKeys keyed
  networks : NetworksEnsured cloud keyed netted nets provider.networks
  besideNetworks : keyed.besideNetworks netted
  grown : netted.firewalls.rows.length ≤ walled.firewalls.rows.length
  besideFirewalls : netted.besideFirewalls walled
  firewalls : netted.shownFirewalls cloud.pageSize = netted.labelledFirewalls →
    Settled netted walled provider.firewalls fws.1 fws.2
  servers : ServerEnsured provider (before.shownServers cloud.pageSize) keys.1 nets.1 fws.1 walled served server made
  floatingIps : FloatingIpsEnsured cloud served after ips server provider.floatingIps
  besideFloatingIps : served.besideFloatingIps after
  applied : outcome.applied = keys.2 + nets.2 + fws.2 + made + ips.2

theorem create_server_type_kept
    (ended : (provider.createServerType clock live).play cloud.serve before = (.ok serverType, after)) : after = before := by
  rw [HetznerCloudProvider.createServerType] at ended
  cases needed : provider.needsServerCreate live with
  | false =>
    simp only [needed] at ended
    exact ((Prog.ends_pure _ _ _ _ _).mp ended).2.symm
  | true =>
    simp only [needed, if_true, HetznerCloudProvider.validated] at ended
    cases wanted : provider.spec.serverType with
    | none =>
      simp only [wanted] at ended
      cases ended
    | some st =>
      simp only [wanted] at ended
      obtain ⟨types, middle, listed, checked⟩ := (Prog.ends_bind _ _ _ _ _ _).mp ended
      obtain ⟨_, rfl⟩ := Prog.yields_ends _ (ask_yields cloud .listServerTypes before) listed
      obtain ⟨_, last, valid, returned⟩ := (Prog.ends_bind _ _ _ _ _ _).mp checked
      obtain ⟨_, rfl⟩ := (Prog.ends_pure _ _ _ _ _).mp returned
      rw [answered_play] at valid
      exact (Prod.mk.inj valid).2.symm

theorem apply_stages {outcome : ApplyOutcome} (named : provider.spec.name ≠ "")
    (apart : (provider.firewalls.map FirewallSpec.name).Nodup)
    (ended : (provider.apply clock).play cloud.serve before = (.ok outcome, after)) :
    Nonempty (Stages cloud provider before after outcome) := by
  obtain ⟨live, first, listed, ended⟩ := (Prog.ends_bind _ _ _ _ _ _).mp ended
  obtain ⟨rfl, rfl⟩ := Prog.yields_ends _ (refresh_servers_yields cloud before) listed
  obtain ⟨serverType, second, typed, ended⟩ := (Prog.ends_bind _ _ _ _ _ _).mp ended
  obtain rfl := create_server_type_kept cloud clock _ typed
  obtain ⟨liveKeys, third, listed, ended⟩ := (Prog.ends_bind _ _ _ _ _ _).mp ended
  obtain ⟨rfl, rfl⟩ := Prog.yields_ends _ (refresh_ssh_keys_yields cloud _) listed
  obtain ⟨keys, afterKeys, keysLoop, ended⟩ := (Prog.ends_bind _ _ _ _ _ _).mp ended
  obtain ⟨sshKeys, besideKeys⟩ := ssh_keys_ensured cloud _ _ keys keysLoop
  obtain ⟨liveNets, keyed, listed, ended⟩ := (Prog.ends_bind _ _ _ _ _ _).mp ended
  obtain ⟨rfl, rfl⟩ := Prog.yields_ends _ (refresh_networks_yields cloud afterKeys) listed
  obtain ⟨nets, afterNets, netsLoop, ended⟩ := (Prog.ends_bind _ _ _ _ _ _).mp ended
  obtain ⟨networks, besideNetworks⟩ := networks_ensured cloud _ _ nets netsLoop
  obtain ⟨liveFws, netted, listed, ended⟩ := (Prog.ends_bind _ _ _ _ _ _).mp ended
  obtain ⟨rfl, rfl⟩ := Prog.yields_ends _ (refresh_firewalls_yields cloud afterNets) listed
  obtain ⟨fws, walled, fwsLoop, ended⟩ := (Prog.ends_bind _ _ _ _ _ _).mp ended
  obtain ⟨grown, besideFirewalls, firewalls⟩ := firewalls_settled apart fwsLoop
  obtain ⟨⟨serverId, made⟩, served, creation, ended⟩ := (Prog.ends_bind _ _ _ _ _ _).mp ended
  obtain ⟨server, rfl, servers⟩ := server_ensured cloud _ named creation
  obtain ⟨ips, last, assignment, ended⟩ := (Prog.ends_bind _ _ _ _ _ _).mp ended
  obtain ⟨rfl, rfl⟩ := (Prog.ends_pure _ _ _ _ _).mp ended
  obtain ⟨ids, floatingIps, besideFloatingIps⟩ := assigned cloud provider server _ _ ips assignment
  exact ⟨{
    keyed := keyed, netted := netted, walled := walled, served := served, keys := keys, nets := nets, fws := fws
    server := server, made := made, ips := (ids, ips), sshKeys := sshKeys, besideKeys := besideKeys, networks := networks
    besideNetworks := besideNetworks, grown := grown, besideFirewalls := besideFirewalls, firewalls := firewalls
    servers := servers, floatingIps := floatingIps, besideFloatingIps := besideFloatingIps, applied := rfl }⟩

end Provider

-- A server it made has everything declared attached, a floating IP it made is assigned.
structure Landed (provider : HetznerCloudProvider) (before after : Project) : Prop where
  converged : Converged provider after
  attached : before.serverNamed provider.spec.name = none →
    ∃ server ∈ after.servers.rows, server.name = provider.spec.name ∧ ours server.labels = true ∧
      (∀ spec ∈ provider.sshKeys, ∃ key ∈ after.sshKeys.rows, key.serves spec ∧ key.id ∈ server.sshKeys) ∧
      (∀ spec ∈ provider.networks, ∃ network ∈ after.networks.rows, network.serves spec ∧ network.id ∈ server.networks) ∧
      (∀ spec ∈ provider.firewalls, ∃ firewall, after.firewallNamed spec.name = some firewall ∧
        firewall.id ∈ server.firewalls)
  assigned : ∀ spec ∈ provider.floatingIps, (∀ ip ∈ before.floatingIps.rows, ¬ ip.serves spec) →
    ∃ ip ∈ after.floatingIps.rows, ip.serves spec ∧ ∃ server ∈ after.servers.rows, server.name = provider.spec.name ∧
      ours server.labels = true ∧ ip.server = some server.id

theorem mem_unless_empty {ids : List Nat} {id : Nat} (listed : id ∈ ids) : id ∈ (unlessEmpty ids).getD [] := by
  cases ids with
  | nil => exact listed
  | cons first rest => exact listed

theorem ours_own (labels : Labels) : ours (labels.insert apprafterLabel apprafterLabelValue) = true := by
  rw [ours, Dict.get_insert]
  rfl

theorem missing_length {Spec Row : Type} (found : Spec → Option Row) (spec : Spec) :
    (missing found [spec]).length = if (found spec).isNone then 1 else 0 := by
  cases absent : (found spec).isNone with
  | true | false => simp [missing, absent]

theorem plan_yields (cloud : Cloud) (provider : HetznerCloudProvider) (project : Project) :
    provider.plan.Yields cloud.serve project {
      actions :=
        (missing (findSshKey (project.shownSshKeys cloud.pageSize)) provider.sshKeys).map (fun spec => .createSshKey spec.name) ++
        (missing (findNetwork (project.shownNetworks cloud.pageSize)) provider.networks).map
          (fun spec => .createNetwork spec.name) ++
        provider.firewalls.filterMap (firewallAction (project.shownFirewalls cloud.pageSize)) ++
        (missing (findServer (project.shownServers cloud.pageSize)) [provider.spec.name]).map .createServer ++
        (missing (findFloatingIp (project.shownFloatingIps cloud.pageSize)) provider.floatingIps).map
          (fun spec => .createFloatingIp spec.name) } project := by
  refine Prog.yields_bind _ (refresh_ssh_keys_yields cloud project) ?_
  refine Prog.yields_bind _ (refresh_networks_yields cloud project) ?_
  refine Prog.yields_bind _ (refresh_firewalls_yields cloud project) ?_
  refine Prog.yields_bind _ (refresh_servers_yields cloud project) ?_
  exact Prog.yields_bind _ (refresh_floating_ips_yields cloud project) (Prog.yields_pure _ _ _)

theorem server_made :
    serverOf project.servers.next request ∈ (project.withServer request).servers.rows :=
  mem_append_right _ mem_cons_self

namespace Stages

variable {cloud : Cloud} {provider : HetznerCloudProvider} {before after : Project} {outcome : ApplyOutcome}

variable (stages : Stages cloud provider before after outcome)

theorem walled_servers : stages.walled.servers = before.servers := by
  rw [← stages.besideFirewalls.1, ← stages.besideNetworks.1, stages.besideKeys.1]

theorem after_servers : after.servers = stages.served.servers := stages.besideFloatingIps.1.symm

theorem served_keys : stages.served.sshKeys = stages.walled.sshKeys ∧ stages.served.networks = stages.walled.networks ∧
      stages.served.firewalls = stages.walled.firewalls ∧ stages.served.floatingIps = stages.walled.floatingIps := by
  rcases stages.servers with ⟨_, _, _, _, same⟩ | ⟨_, _, _, _, same⟩
  · rw [same]
    exact ⟨rfl, rfl, rfl, rfl⟩
  · rw [same]
    exact ⟨rfl, rfl, rfl, rfl⟩

theorem after_keys : after.sshKeys = stages.keyed.sshKeys := by
  rw [← stages.besideFloatingIps.2.1, stages.served_keys.1, ← stages.besideFirewalls.2.1, ← stages.besideNetworks.2.1]

theorem after_networks : after.networks = stages.netted.networks := by
  rw [← stages.besideFloatingIps.2.2.1, stages.served_keys.2.1, ← stages.besideFirewalls.2.2.1]

theorem after_firewalls : after.firewalls = stages.walled.firewalls := by
  rw [← stages.besideFloatingIps.2.2.2, stages.served_keys.2.2.1]

theorem before_networks : stages.keyed.networks = before.networks := stages.besideKeys.2.1.symm

theorem before_firewalls : stages.netted.firewalls = before.firewalls := by
  rw [← stages.besideNetworks.2.2.1, stages.besideKeys.2.2.1]

theorem before_floating_ips : stages.served.floatingIps = before.floatingIps := by
  rw [stages.served_keys.2.2.2, ← stages.besideFirewalls.2.2.2, ← stages.besideNetworks.2.2.2, stages.besideKeys.2.2.2]

variable (fits : Fits cloud.pageSize after)

include fits in
theorem settled : Settled stages.netted stages.walled provider.firewalls stages.fws.1 stages.fws.2 := by
  refine stages.firewalls (shown_firewalls _ _ (stages.grown.trans ?_))
  rw [← stages.after_firewalls]
  exact fits.firewalls

theorem server_there :
    ∃ server ∈ after.servers.rows, server.name = provider.spec.name ∧ ours server.labels = true ∧ server.id = stages.server := by
  rw [stages.after_servers]
  rcases stages.servers with ⟨existing, found, same, _, kept⟩ | ⟨_, same, _, serverType, made⟩
  · obtain ⟨member, named, labelled⟩ := mem_refreshed found
    rw [kept, stages.walled_servers]
    exact ⟨existing, member, by simpa using named, labelled, same.symm⟩
  · rw [made]
    exact ⟨_, server_made _ _, rfl, ours_own _, same.symm⟩

include stages in
include fits in
theorem converged : Converged provider after where
  server := by
    obtain ⟨server, member, named, labelled, _⟩ := stages.server_there
    exact ⟨server, member, named, labelled⟩
  sshKeys := by
    intro spec member
    obtain ⟨key, held, serves, _⟩ := stages.sshKeys.known spec member
    rw [stages.after_keys]
    exact ⟨key, held, serves⟩
  networks := by
    intro spec member
    obtain ⟨network, held, serves, _⟩ := stages.networks.known spec member
    rw [stages.after_networks]
    exact ⟨network, held, serves⟩
  firewalls := by
    intro spec member
    obtain ⟨firewall, found, same, _⟩ := (stages.settled fits).current spec member
    rw [Project.firewallNamed, Project.labelledFirewalls, stages.after_firewalls]
    exact ⟨firewall, found, (rules_differ_iff _ _).mp same⟩
  floatingIps := by
    intro spec member
    obtain ⟨ip, held, serves, _⟩ := stages.floatingIps.known spec member
    exact ⟨ip, held, serves⟩

include stages in
include fits in
theorem landed : Landed provider before after where
  converged := stages.converged fits
  attached := by
    intro absent
    rcases stages.servers with ⟨existing, found, _⟩ | ⟨_, _, _, serverType, made⟩
    · obtain ⟨member, named, labelled⟩ := mem_refreshed found
      exact absurd named (by simpa using find?_eq_none.mp absent existing (mem_filter.mpr ⟨member, labelled⟩))
    · refine ⟨serverOf stages.walled.servers.next
        (provider.createRequest stages.keys.1 stages.nets.1 stages.fws.1 serverType), ?_, rfl, ours_own _, ?_, ?_, ?_⟩
      · rw [stages.after_servers, made]
        exact server_made _ _
      · intro spec member
        obtain ⟨key, held, serves, listed⟩ := stages.sshKeys.known spec member
        rw [stages.after_keys]
        exact ⟨key, held, serves, mem_unless_empty listed⟩
      · intro spec member
        obtain ⟨network, held, serves, listed⟩ := stages.networks.known spec member
        rw [stages.after_networks]
        exact ⟨network, held, serves, mem_unless_empty listed⟩
      · intro spec member
        obtain ⟨firewall, found, _, listed⟩ := (stages.settled fits).current spec member
        rw [Project.firewallNamed, Project.labelledFirewalls, stages.after_firewalls]
        exact ⟨firewall, found, mem_unless_empty listed⟩
  assigned := by
    intro spec member absent
    have wanted : spec ∈ missing (findFloatingIp (stages.served.shownFloatingIps cloud.pageSize)) provider.floatingIps := by
      refine mem_filter.mpr ⟨member, ?_⟩
      cases found : findFloatingIp (stages.served.shownFloatingIps cloud.pageSize) spec with
      | none => rfl
      | some ip =>
        obtain ⟨held, named, labelled⟩ := mem_refreshed found
        rw [stages.before_floating_ips] at held
        exact absurd ⟨by simpa using named, labelled⟩ (absent ip held)
    obtain ⟨ip, held, serves, assigned⟩ := stages.floatingIps.fresh spec wanted
    obtain ⟨server, there, named, labelled, same⟩ := stages.server_there
    exact ⟨ip, held, serves, server, there, named, labelled, same ▸ assigned⟩

theorem made_count : stages.made = (missing (findServer (before.shownServers cloud.pageSize)) [provider.spec.name]).length := by
  rw [missing_length]
  rcases stages.servers with ⟨existing, found, _, made, _⟩ | ⟨found, _, made, _⟩
  · rw [made, found]
    rfl
  · rw [made, found]
    rfl

include stages in
include fits in
theorem planned (asked : Cloud) (page : asked.pageSize = cloud.pageSize) (plan : Plan) (left : Project)
    (ended : provider.plan.play asked.serve before = (.ok plan, left)) : outcome.applied = plan.actions.length := by
  obtain ⟨rfl, _⟩ := Prog.yields_ends _ (plan_yields asked provider before) ended
  have nets : stages.keyed.shownNetworks cloud.pageSize = before.shownNetworks cloud.pageSize := by
    rw [Project.shownNetworks, stages.before_networks, Project.shownNetworks]
  have walls : before.shownFirewalls cloud.pageSize = stages.netted.labelledFirewalls := by
    rw [Project.labelledFirewalls, stages.before_firewalls, shown_firewalls, Project.labelledFirewalls]
    rw [← stages.before_firewalls]
    exact stages.grown.trans (stages.after_firewalls ▸ fits.firewalls)
  have ips : stages.served.shownFloatingIps cloud.pageSize = before.shownFloatingIps cloud.pageSize := by
    rw [Project.shownFloatingIps, stages.before_floating_ips, Project.shownFloatingIps]
  rw [stages.applied, stages.sshKeys.counted, stages.networks.counted, (stages.settled fits).counted, stages.made_count,
    stages.floatingIps.counted, nets, ips, page, walls]
  simp only [length_append, length_map]

end Stages

theorem apply_converges (cloud : Cloud) (clock : Clock) (provider : HetznerCloudProvider) (before after : Project)
    (outcome : ApplyOutcome) (named : provider.spec.name ≠ "") (apart : (provider.firewalls.map FirewallSpec.name).Nodup)
    (fits : Fits cloud.pageSize after) (ended : (provider.apply clock).play cloud.serve before = (.ok outcome, after)) :
    Landed provider before after ∧ (∀ (asked : Cloud) (plan : Plan) (left : Project), asked.pageSize = cloud.pageSize →
        provider.plan.play asked.serve before = (.ok plan, left) → outcome.applied = plan.actions.length) ∧
      ∀ (later : Cloud) (now : Clock), later.pageSize = cloud.pageSize →
        (provider.apply now).Yields later.serve after { applied := 0 } after := by
  obtain ⟨stages⟩ := apply_stages cloud clock provider named apart ended
  refine ⟨stages.landed fits, fun asked plan left page planned => stages.planned fits asked page plan left planned, ?_⟩
  intro later now page
  exact converged_quiet now (stages.converged fits) (page.symm ▸ fits)

section Example

def emptyProject : Project :=
  { servers := ⟨[], 1, by decide, by decide⟩
    sshKeys := ⟨[], 1, by decide, by decide⟩
    networks := ⟨[], 1, by decide, by decide⟩
    firewalls := ⟨[], 1, by decide, by decide⟩
    floatingIps := ⟨[], 1, by decide, by decide⟩ }

def willingCloud : Cloud :=
  { pageSize := 25
    serverTypes := [{ name := "cx22", locations := [{ name := "nbg1", available := true, unavailableAfter := none }] }]
    accepts := fun _ _ => true }

def clockAtZero : Clock :=
  { now := 0
    rfc3339 := fun _ => none }

def platformOne : HetznerCloudProvider :=
  { spec := {
      name := "platform-1"
      serverType := some "cx22"
      image := "ubuntu-24.04"
      location := "nbg1" }
    sshKeys := []
    networks := [{ name := "platform-1-net", ipRange := "10.0.0.0/16", subnetIpRange := "10.0.1.0/24"
                   networkZone := "eu-central" }]
    firewalls := [{ name := "platform-1-fw", rules := [{
      direction := "in"
      port := some "22"
      protocol := "tcp"
      sourceIps := ["0.0.0.0/0", "::/0"]
      destinationIps := [] }] }]
    floatingIps := [] }

def appliedOn : Project := ((platformOne.apply clockAtZero).play willingCloud.serve project).2

def firewallDeleted (id : Nat) : Project := ((appliedOn emptyProject).answer willingCloud (.deleteFirewall id)).2

-- From nothing, and from what is left once the firewall was deleted outside.
theorem apply_converges_again :
    Landed platformOne emptyProject (appliedOn emptyProject) ∧
      Landed platformOne (firewallDeleted 1) (appliedOn (firewallDeleted 1)) ∧
      ∀ (plan : Plan) (left : Project), platformOne.plan.play willingCloud.serve (firewallDeleted 1) = (.ok plan, left) →
        1 = plan.actions.length := by
  have fresh := apply_converges willingCloud clockAtZero platformOne emptyProject (appliedOn emptyProject) { applied := 3 }
    (by decide) (by decide) ⟨by decide +kernel, by decide +kernel, by decide +kernel, by decide +kernel, by decide +kernel⟩
    (by decide +kernel)
  have partly := apply_converges willingCloud clockAtZero platformOne (firewallDeleted 1) (appliedOn (firewallDeleted 1))
    { applied := 1 } (by decide) (by decide)
    ⟨by decide +kernel, by decide +kernel, by decide +kernel, by decide +kernel, by decide +kernel⟩ (by decide +kernel)
  exact ⟨fresh.1, partly.1, fun plan left planned => partly.2.1 willingCloud plan left rfl planned⟩

-- The firewall is made anew, and the server that is there stays without it.
theorem firewall_not_reattached :
    ¬ ∀ (gone : Nat) (outcome : ApplyOutcome) (after : Project),
      (platformOne.apply clockAtZero).play willingCloud.serve (firewallDeleted gone) = (.ok outcome, after) →
      ∃ server ∈ after.servers.rows, server.name = "platform-1" ∧
        ∃ firewall ∈ after.firewalls.rows, firewall.name = "platform-1-fw" ∧ firewall.id ∈ server.firewalls := by
  intro attached
  have found := attached 1 { applied := 1 } _ (Prod.ext (by decide +kernel) rfl)
  revert found
  decide +kernel

end Example

end AppRafter.Hetzner
