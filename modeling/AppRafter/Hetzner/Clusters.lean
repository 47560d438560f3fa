import AppRafter.Hetzner.Shared

set_option autoImplicit false

namespace AppRafter.Hetzner

open Lib List

section Sweep

variable (cloud : Cloud)

abbrev Sweeps {Value : Type} (prog : HzProg Value) (project : Project) : Prop := prog.Leads cloud.serve Cleared project

variable {Value Row : Type} {project : Project}

theorem sweeps_bind {Result : Type} {prog : HzProg Value} {rest : Value → HzProg Result} (first : Sweeps cloud prog project)
    (later : ∀ value middle, prog.play cloud.serve project = (.ok value, middle) → Sweeps cloud (rest value) middle) :
    Sweeps cloud (prog >>= rest) project :=
  Prog.leads_bind _ _ cleared_trans prog rest _ first later

theorem sweeps_yields {prog : HzProg Value} {value : Value}
    (yields : prog.Yields cloud.serve project value project) : Sweeps cloud prog project := by
  rw [Sweeps, Prog.Leads]
  rcases yields with ended | ⟨error, failed⟩
  · rw [ended]
    exact cleared_refl project
  · rw [failed]
    exact cleared_refl project

theorem sweeping_drop (listed later : Project) {request : HzRequest} (kind : Kind) (item : Identity)
    (only : ∀ other, request.effect later other = if other = kind then .drop item.id else .keep)
    (held : item ∈ listed.objects kind) (labelled : ours item.labels = true) (cleared : Cleared listed later)
    (notRules : ∀ id rules, request ≠ .setFirewallRules id rules) : Sweeping later request := by
  refine ⟨?_, ?_, notRules⟩
  · intro other made effect
    rw [only] at effect
    split at effect
    · cases effect
    · cases effect
  · intro other id effect object member same
    rw [only] at effect
    split at effect
    case isTrue equal =>
        cases effect
        subst equal
        exact (listed.objects_unique other _ _ (cleared.origin other member) held same) ▸ labelled
    case isFalse => cases effect

theorem wait_yields (id polls : Nat) (project : Project) :
    (waitForServerGone id polls).Yields cloud.serve project () project := by
  have checked (servers : List Server) (again : HzProg Unit) (yields : again.Yields cloud.serve project () project) :
      (unlessGone id servers again).Yields cloud.serve project () project := by
    rw [unlessGone]
    split
    · exact yields
    · exact Prog.yields_pure _ _ _
  induction polls with
  | zero =>
    refine Prog.yields_bind _ (ask_yields cloud .listServers project) (checked _ _ (.inr ⟨_, rfl⟩))
  | succ polls ih =>
    exact Prog.yields_bind _ (ask_yields cloud .listServers project) (checked _ _ ih)

theorem sweeps_forM {Item : Type} {items : List Item} {body : Item → HzProg PUnit}
    (each : ∀ item ∈ items, ∀ later, Cleared project later → Sweeps cloud (body item) later) :
    Sweeps cloud (items.forM body) project :=
  Prog.leads_forM _ _ cleared_refl cleared_trans items body _ each

theorem mem_shown {labels : Row → Labels} {rows : List Row} {row : Row} {pageSize : Nat}
    (shown : row ∈ refreshed labels (rows.take pageSize)) : row ∈ rows ∧ ours (labels row) = true := by
  obtain ⟨held, labelled⟩ := mem_filter.mp shown
  exact ⟨mem_of_mem_take held, labelled⟩

theorem delete_floating_ip_sweeps {listed later : Project} {ip : FloatingIp} (held : ip ∈ listed.floatingIps.rows)
    (labelled : ours ip.labels = true) (cleared : Cleared listed later) : Sweeps cloud (deleteFloatingIp ip) later := by
  have releases (project : Project) : Sweeps cloud (ask (.unassignFloatingIp ip.id)) project := by
    refine ask_cleared cloud project ⟨?_, ?_, by intro _ _ same; cases same⟩
    · intro kind object effect
      cases kind <;> cases effect
    · intro kind id effect
      cases kind <;> cases effect
  refine sweeps_bind cloud (releases later) ?_
  intro _ middle played
  have released := releases later
  rw [Sweeps, Prog.Leads, played] at released
  exact ask_cleared cloud _ (sweeping_drop listed middle .floatingIp ip.identity
    (fun other => by cases other <;> rfl) (mem_map_of_mem held) labelled (cleared_trans _ _ _ cleared released)
    (by intro _ _ same; cases same))

theorem sweeps_listed {Result : Type} (prog : HzProg Value) (rest : Value → HzProg Result) (project : Project) (value : Value)
    (yields : prog.Yields cloud.serve project value project) (later : Sweeps cloud (rest value) project) :
    Sweeps cloud (prog >>= rest) project := by
  refine sweeps_bind cloud (sweeps_yields cloud yields) ?_
  intro read middle played
  obtain ⟨rfl, rfl⟩ := Prog.yields_ends _ yields played
  exact later

theorem sweeps_shown (labels : Row → Labels) (rows : List Row) (body : Row → HzProg PUnit) (project : Project)
    (each : ∀ row ∈ rows, ours (labels row) = true → ∀ later, Cleared project later → Sweeps cloud (body row) later) :
    Sweeps cloud ((refreshed labels (rows.take cloud.pageSize)).forM body) project := by
  refine sweeps_forM cloud fun row shown => ?_
  obtain ⟨held, labelled⟩ := mem_shown shown
  exact each row held labelled

-- However a sweep ends, everything unlabelled is still there.
theorem destroy_sweeps (polls : Nat) (project : Project) : Sweeps cloud (destroy polls) project := by
  refine sweeps_listed cloud _ _ _ _ (refresh_servers_yields cloud project) ?_
  refine sweeps_bind cloud (sweeps_shown cloud _ _ _ _ ?_) ?_
  · exact fun server held labelled later cleared => ask_cleared cloud later (sweeping_drop project later .server server.identity
      (fun other => by cases other <;> rfl) (mem_map_of_mem held) labelled cleared (by intro _ _ same; cases same))
  intro _ second _
  refine sweeps_bind cloud (sweeps_forM cloud ?_) ?_
  · exact fun server _ later _ => sweeps_yields cloud (wait_yields cloud server.id polls later)
  intro _ third _
  refine sweeps_listed cloud _ _ _ _ (refresh_floating_ips_yields cloud third) ?_
  refine sweeps_bind cloud (sweeps_shown cloud _ _ _ _ ?_) ?_
  · exact fun ip held labelled later cleared => delete_floating_ip_sweeps cloud held labelled cleared
  intro _ fifth _
  refine sweeps_listed cloud _ _ _ _ (refresh_firewalls_yields cloud fifth) ?_
  refine sweeps_bind cloud (sweeps_shown cloud _ _ _ _ ?_) ?_
  · exact fun firewall held labelled later cleared => ask_cleared cloud later (sweeping_drop fifth later .firewall firewall.identity
      (fun other => by cases other <;> rfl) (mem_map_of_mem held) labelled cleared (by intro _ _ same; cases same))
  intro _ seventh _
  refine sweeps_listed cloud _ _ _ _ (refresh_networks_yields cloud seventh) ?_
  refine sweeps_bind cloud (sweeps_shown cloud _ _ _ _ ?_) ?_
  · exact fun network held labelled later cleared => ask_cleared cloud later (sweeping_drop seventh later .network network.identity
      (fun other => by cases other <;> rfl) (mem_map_of_mem held) labelled cleared (by intro _ _ same; cases same))
  intro _ ninth _
  refine sweeps_listed cloud _ _ _ _ (refresh_ssh_keys_yields cloud ninth) ?_
  refine sweeps_bind cloud (sweeps_shown cloud _ _ _ _ ?_) ?_
  · exact fun key held labelled later cleared => ask_cleared cloud later (sweeping_drop ninth later .sshKey key.identity
      (fun other => by cases other <;> rfl) (mem_map_of_mem held) labelled cleared (by intro _ _ same; cases same))
  intro _ last _
  exact sweeps_yields cloud (Prog.yields_pure _ _ _)

end Sweep

open Option

inductive Command where
  | apply (clock : Clock) (input : ApplyInput)
  | importState (force dryRun : Bool)
  | cloudflareOrigin (enable : Bool) (fetched : Except CliError (List String))
  | destroy (yes : Bool) (polls : Nat)

def Command.prog (target : TargetConfig) (state : State) : Command → HzProg (Option State)
  | .apply clock input => applyRun clock input target state
  | .importState force dryRun => importRun force dryRun target state
  | .cloudflareOrigin enable fetched => applyCloudflareOrigin enable fetched target state
  | .destroy yes polls => destroyRun yes polls state

def Command.isDestroy : Command → Bool
  | .destroy _ _ => true
  | _ => false

-- A toggle that finds a firewall id in the state takes it as it is.
def Command.trustsRecord (state : State) : Command → Bool
  | .cloudflareOrigin _ _ => state.firewallId.isSome
  | _ => false

structure World where
  project : Project
  states : String → State

-- A command that is cut is one whose every later request is refused.
structure Run where
  target : String
  command : Command
  cloud : Cloud

def savedState (old : State) : Except CliError (Option State) → State
  | .ok (some state) => state
  | _ => old

variable (targets : String → TargetConfig)

def World.play (world : World) (run : Run) : Except CliError (Option State) × Project :=
  (run.command.prog (targets run.target) (world.states run.target)).play run.cloud.serve world.project

def World.after (world : World) (run : Run) : World :=
  { project := (world.play targets run).2
    states := Function.update world.states run.target (savedState (world.states run.target) (world.play targets run).1) }

def World.clusterOf (world : World) (target : String) : String :=
  Hetzner.clusterOf (targets target) (world.states target)

def commands : System World Run where
  initial world := ∀ target, world.states target = {}
  step world run := some (world.after targets run)

def Labelled (project : Project) (kind : Kind) (id : Nat) : Prop :=
  ∃ object ∈ project.objects kind, object.id = id ∧ ours object.labels = true

-- What a record of a cluster points at.
structure Recorded (cluster : String) (project : Project) (record : HetznerCloudState) : Prop where
  server : ∃ object ∈ project.objects .server, object.id = record.serverId ∧ object.name = some cluster
  named : record.serverName = cluster
  sshKeys : ∀ id ∈ record.sshKeyIds, Labelled project .sshKey id
  network : ∀ id, record.networkId = some id → Labelled project .network id
  firewall : ∀ id, record.firewallId = some id → Labelled project .firewall id
  floatingIps : ∀ id ∈ record.floatingIpIds, Labelled project .floatingIp id

theorem labelled_listed {Row : Type} {id : Row → Nat} {labels : Row → Labels} {rows : List Row} {pageSize wanted : Nat}
    (listed : wanted ∈ labelledIds id labels (rows.take pageSize)) :
    ∃ row ∈ rows, id row = wanted ∧ ours (labels row) = true := by
  obtain ⟨row, shown, same⟩ := mem_map.mp listed
  obtain ⟨held, labelled⟩ := mem_shown shown
  exact ⟨row, held, same, labelled⟩

variable (cloud : Cloud)

theorem cloud_state_recorded {project : Project} {cluster : String} {server : Server} (known : Option String)
    (member : server ∈ project.servers.rows) (named : server.name = cluster) :
    Recorded cluster project (cloudState server known (project.sshKeys.rows.take cloud.pageSize)
      (project.networks.rows.take cloud.pageSize) (project.firewalls.rows.take cloud.pageSize)
      (project.floatingIps.rows.take cloud.pageSize)) where
  server := ⟨server.identity, mem_map_of_mem member, rfl, congrArg some named⟩
  named := named
  sshKeys := by
    intro id listed
    obtain ⟨row, held, same, labelled⟩ := labelled_listed listed
    exact ⟨row.identity, mem_map_of_mem held, same, labelled⟩
  network := by
    intro id first
    obtain ⟨row, held, same, labelled⟩ := labelled_listed (mem_of_mem_head? first)
    exact ⟨row.identity, mem_map_of_mem held, same, labelled⟩
  firewall := by
    intro id first
    obtain ⟨row, held, same, labelled⟩ := labelled_listed (mem_of_mem_head? first)
    exact ⟨row.identity, mem_map_of_mem held, same, labelled⟩
  floatingIps := by
    intro id listed
    obtain ⟨row, held, same, labelled⟩ := labelled_listed listed
    exact ⟨row.identity, mem_map_of_mem held, same, labelled⟩

section Lists

variable (cloud : Cloud) (project : Project)

theorem persist_yields (state : State) (cluster : String) : (persistState state cluster).Yields cloud.serve project
      ((findServer (project.servers.rows.take cloud.pageSize) cluster).map fun server =>
        { state with hetznerCloud := some (cloudState server (state.hetznerCloud.bind HetznerCloudState.serverType)
            (project.sshKeys.rows.take cloud.pageSize) (project.networks.rows.take cloud.pageSize)
            (project.firewalls.rows.take cloud.pageSize) (project.floatingIps.rows.take cloud.pageSize)) }) project := by
  refine Prog.yields_bind _ (ask_yields cloud .listServers project) ?_
  refine Prog.yields_bind _ (ask_yields cloud .listSshKeys project) ?_
  refine Prog.yields_bind _ (ask_yields cloud .listNetworks project) ?_
  refine Prog.yields_bind _ (ask_yields cloud .listFirewalls project) ?_
  exact Prog.yields_bind _ (ask_yields cloud .listFloatingIps project) (Prog.yields_pure _ _ _)

theorem persist_recorded {state saved : State} {cluster : String} {record : HetznerCloudState} {after : Project}
    (ended : (persistState state cluster).play cloud.serve project = (.ok (some saved), after))
    (kept : saved.hetznerCloud = some record) : Recorded cluster after record := by
  obtain ⟨returned, rfl⟩ := Prog.yields_ends _ (persist_yields cloud project state cluster) ended
  obtain ⟨server, found, rfl⟩ := map_eq_some_iff.mp returned.symm
  cases kept
  have named : server.name = cluster := by simpa using find?_some found
  exact cloud_state_recorded cloud _ (mem_of_mem_take (mem_of_find?_eq_some found)) named

theorem snapshot_yields (server : Server) : (snapshotOf server).Yields cloud.serve project (cloudState server none
      (project.sshKeys.rows.take cloud.pageSize) (project.networks.rows.take cloud.pageSize)
      (project.firewalls.rows.take cloud.pageSize) (project.floatingIps.rows.take cloud.pageSize)) project := by
  refine Prog.yields_bind _ (ask_yields cloud .listSshKeys project) ?_
  refine Prog.yields_bind _ (ask_yields cloud .listNetworks project) ?_
  refine Prog.yields_bind _ (ask_yields cloud .listFirewalls project) ?_
  exact Prog.yields_bind _ (ask_yields cloud .listFloatingIps project) (Prog.yields_pure _ _ _)

theorem build_snapshot_yields (cluster : String) : ∃ snapshot, (buildSnapshot cluster).Yields cloud.serve project snapshot project ∧
    ∀ record, snapshot = some record → Recorded cluster project record := by
  cases found : (project.servers.rows.take cloud.pageSize).find? fun server => server.name == cluster && ours server.labels with
  | none =>
    refine ⟨none, Prog.yields_bind _ (ask_yields cloud .listServers project) ?_, nofun⟩
    change (someSnapshot ((project.servers.rows.take cloud.pageSize).find? _)).Yields _ _ _ _
    rw [found]
    exact Prog.yields_pure _ _ _
  | some server =>
    refine ⟨some (cloudState server none (project.sshKeys.rows.take cloud.pageSize)
      (project.networks.rows.take cloud.pageSize) (project.firewalls.rows.take cloud.pageSize)
      (project.floatingIps.rows.take cloud.pageSize)),
      Prog.yields_bind _ (ask_yields cloud .listServers project) ?_, ?_⟩
    · change (someSnapshot ((project.servers.rows.take cloud.pageSize).find? _)).Yields _ _ _ _
      rw [found]
      exact Prog.yields_bind _ (snapshot_yields cloud project server) (Prog.yields_pure _ _ _)
    · rintro record same
      cases same
      have named := find?_some found
      simp only [Bool.and_eq_true, beq_iff_eq] at named
      exact cloud_state_recorded cloud none (mem_of_mem_take (mem_of_find?_eq_some found)) named.1

end Lists

def Command.mayRewrite (cluster : String) (state : State) (command : Command) (identity : Identity) : Prop :=
  (identity.name = some (firewallName cluster) ∧ ours identity.labels = true) ∨
    (command.trustsRecord state = true ∧ state.firewallId = some identity.id)

theorem extends_mono {may wider : Identity → Prop} {before after : Project} (implied : ∀ identity, may identity → wider identity)
    (extended : Extends may before after) : Extends wider before after := by
  refine ⟨extended.kept, extended.made, ?_⟩
  intro firewall member
  obtain ⟨later, held, same, changed⟩ := extended.rules firewall member
  exact ⟨later, held, same, changed.imp_right (implied _)⟩

theorem require_hetzner_yields (provider : String) (project : Project) :
    (requireHetzner provider).Yields cloud.serve project () project := by
  rw [requireHetzner]
  split
  · exact Prog.yields_pure _ _ _
  · exact .inr ⟨_, rfl⟩

theorem refuse_overwrite_yields (state : State) (force : Bool) (project : Project) :
    (refuseOverwrite state force).Yields cloud.serve project () project := by
  rw [refuseOverwrite]
  split
  · exact .inr ⟨_, rfl⟩
  · exact Prog.yields_pure _ _ _

section Commands

variable (cloud : Cloud) (target : TargetConfig) (state : State) (project : Project)

theorem own_firewalls_named {cluster : String} {input : ApplyInput} {identity : Identity}
    (own : ownFirewalls (buildProvider cluster input) identity) :
    identity.name = some (firewallName cluster) ∧ ours identity.labels = true := by
  obtain ⟨⟨spec, member, named⟩, labelled⟩ := own
  rw [mem_singleton.mp member] at named
  exact ⟨named, labelled⟩

theorem apply_run_extends (clock : Clock) (input : ApplyInput) :
    Additive cloud (Command.mayRewrite (clusterOf target state) state (.apply clock input)) (applyRun clock input target state)
      project := by
  refine additive_bind cloud _ (additive_yields cloud _ (require_hetzner_yields cloud _ project)) ?_
  intro _ first _
  refine additive_bind cloud _ ?_ ?_
  · exact extends_mono (fun identity own => .inl (own_firewalls_named own)) (apply_additive cloud clock _ first)
  · exact fun _ last _ => additive_yields cloud _ (persist_yields cloud last _ _)

theorem import_run_extends (may : Identity → Prop) (force dryRun : Bool) :
    Additive cloud may (importRun force dryRun target state) project := by
  refine additive_bind cloud _ (additive_yields cloud _ (require_hetzner_yields cloud _ project)) ?_
  intro _ first _
  refine additive_bind cloud _ (additive_yields cloud _ (refuse_overwrite_yields cloud state force first)) ?_
  intro _ second _
  obtain ⟨snapshot, yields, _⟩ := build_snapshot_yields cloud second (clusterOf target state)
  exact additive_bind cloud _ (additive_yields cloud _ yields) fun _ last _ =>
    additive_pure cloud _ _ last

theorem reconcile_origin_extends {may : Identity → Prop} (cluster : String) (enable : Bool)
    (fetched : Except CliError (List String)) {firewallId : Option Nat}
    (allowed : ∀ id, firewallId = some id → ∀ firewall ∈ project.firewalls.rows, firewall.id = id → may firewall.identity) :
    Additive cloud may (reconcileOrigin cluster enable fetched firewallId) project := by
  cases firewallId with
  | none => exact additive_pure cloud may _ project
  | some id =>
    refine additive_bind cloud may (additive_answered cloud may _ project) ?_
    intro cfIps middle played
    have same : middle = project := by
      rw [answered_play] at played
      exact (Prod.mk.inj played).2.symm
    subst same
    exact ask_extends cloud (rules_benign may _ (allowed id rfl))

theorem owned_firewall {fwName : String} {firewalls : List Firewall} {id : Nat}
    (found : findOwnedFirewallId firewalls fwName = some id) :
    ∃ firewall ∈ firewalls, firewall.id = id ∧ firewall.name = fwName ∧ ours firewall.labels = true := by
  obtain ⟨firewall, listed, same⟩ := map_eq_some_iff.mp found
  have named := find?_some listed
  simp only [Bool.and_eq_true, beq_iff_eq] at named
  exact ⟨firewall, mem_of_find?_eq_some listed, same, named⟩

theorem resolve_firewall_yields (cached : Option Nat) (fwName : String) :
    (resolveFirewallId cached fwName).Yields cloud.serve project
      (cached.or (findOwnedFirewallId (project.firewalls.rows.take cloud.pageSize) fwName)) project := by
  cases cached with
  | some id => exact Prog.yields_pure _ _ _
  | none => exact Prog.yields_bind _ (ask_yields cloud .listFirewalls project) (Prog.yields_pure _ _ _)

theorem cloudflare_origin_extends (enable : Bool) (fetched : Except CliError (List String)) :
    Additive cloud (Command.mayRewrite (clusterOf target state) state (.cloudflareOrigin enable fetched))
      (applyCloudflareOrigin enable fetched target state) project := by
  have yields := resolve_firewall_yields cloud project state.firewallId (firewallName (clusterOf target state))
  refine additive_bind cloud _ (additive_yields cloud _ yields) ?_
  intro firewallId middle resolved
  obtain ⟨rfl, rfl⟩ := Prog.yields_ends _ yields resolved
  refine additive_bind cloud _ (reconcile_origin_extends cloud middle _ enable fetched ?_) fun _ last _ =>
    additive_pure cloud _ _ last
  intro id chosen firewall member same
  cases recorded : state.firewallId with
  | some cached =>
    rw [recorded] at chosen
    cases chosen
    exact .inr ⟨by rw [Command.trustsRecord, recorded]; rfl, by rw [recorded, ← same]; rfl⟩
  | none =>
    rw [recorded] at chosen
    obtain ⟨owned, listed, sameId, named, labelled⟩ := owned_firewall chosen
    have equal := middle.firewalls.key_unique firewall owned member (mem_of_mem_take listed) (same.trans sameId.symm)
    rw [equal]
    exact .inl ⟨congrArg some named, labelled⟩

theorem destroy_run_sweeps (yes : Bool) (polls : Nat) : Sweeps cloud (destroyRun yes polls state) project := by
  rw [destroyRun]
  cases state.provider with
  | none => exact sweeps_yields cloud (Prog.yields_pure _ _ _)
  | some provider =>
    refine sweeps_bind cloud (sweeps_yields cloud (require_hetzner_yields cloud provider project)) ?_
    intro _ first _
    split
    · exact sweeps_yields cloud (Prog.yields_pure _ _ _)
    · split
      · exact cleared_refl first
      · refine sweeps_bind cloud ?_ ?_
        · rw [Sweeps, Prog.Leads, Prog.attempt_play]
          exact sweeps_yields cloud (ask_yields cloud .listServers first)
        · intro _ second _
          exact sweeps_bind cloud (destroy_sweeps cloud polls second) fun _ last _ =>
            sweeps_yields cloud (Prog.yields_pure _ _ _)

end Commands

end AppRafter.Hetzner
