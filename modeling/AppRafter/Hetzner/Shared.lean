import AppRafter.Hetzner.Applied

set_option autoImplicit false

namespace AppRafter.Hetzner

open Lib List

section Programs

variable (cloud : Cloud) (may : Identity → Prop)

abbrev Additive {Value : Type} (prog : HzProg Value) (project : Project) : Prop := prog.Leads cloud.serve (Extends may) project

variable {Value : Type} {project : Project}

theorem additive_bind {Result : Type} {prog : HzProg Value} {rest : Value → HzProg Result}
    (first : Additive cloud may prog project)
    (later : ∀ value middle, prog.play cloud.serve project = (.ok value, middle) → Additive cloud may (rest value) middle) :
    Additive cloud may (prog >>= rest) project :=
  Prog.leads_bind _ _ (extends_trans may) prog rest _ first later

theorem additive_pure (value : Value) (project : Project) : Additive cloud may (pure value) project :=
  Prog.leads_pure _ _ (extends_refl may) value project

theorem additive_fail (error : CliError) (project : Project) :
    Additive cloud may (.fail error : HzProg Value) project := extends_refl may project

theorem additive_answered (answer : Except CliError Value) (project : Project) :
    Additive cloud may (answered answer) project := by
  rw [Additive, Prog.Leads, answered_play]
  exact extends_refl may project

-- A program that only asks for lists.
theorem additive_yields {prog : HzProg Value} {value : Value}
    (yields : prog.Yields cloud.serve project value project) : Additive cloud may prog project := by
  rw [Additive, Prog.Leads]
  rcases yields with ended | ⟨error, failed⟩
  · rw [ended]
    exact extends_refl may project
  · rw [failed]
    exact extends_refl may project

theorem additive_collect {Spec Id : Type} {step : Spec → HzProg (Id × Nat)} {specs : List Spec}
    (each : ∀ spec ∈ specs, ∀ later, Extends may project later → Additive cloud may (step spec) later) :
    Additive cloud may (collect step specs) project := by
  suffices general : ∀ rest : List Spec, (∀ spec ∈ rest, spec ∈ specs) → ∀ later, Extends may project later →
      Additive cloud may (collect step rest) later from
    general specs (fun _ => id) project (extends_refl may project)
  intro rest
  induction rest with
  | nil => exact fun _ later _ => additive_pure cloud may _ later
  | cons spec rest ih =>
    intro among later reached
    have first := each spec (among spec mem_cons_self) later reached
    refine additive_bind cloud may first ?_
    intro value middle played
    rw [Additive, Prog.Leads, played] at first
    refine additive_bind cloud may
      (ih (fun other member => among other (mem_cons_of_mem _ member)) middle (extends_trans may _ _ _ reached first)) ?_
    exact fun _ last _ => additive_pure cloud may _ last

theorem benign_creates (project : Project) {request : HzRequest} (kind : Kind) {object : Identity}
    (only : ∀ other, request.effect project other = if other = kind then .add object else .keep)
    (labelled : ours object.labels = true) (notRules : ∀ id rules, request ≠ .setFirewallRules id rules) :
    Benign may project request := by
  refine ⟨?_, ?_, fun id rules same => absurd same (notRules id rules)⟩
  · intro other made effect
    rw [only] at effect
    split at effect
    · cases effect
      exact labelled
    · cases effect
  · intro other id effect
    rw [only] at effect
    split at effect
    · cases effect
    · cases effect

theorem additive_resolve {Row : Type} (id : Row → Nat) (existing : Option Row) {create : HzProg Row}
    (made : Additive cloud may create project) : Additive cloud may (resolve id existing create) project := by
  cases existing with
  | some row => exact additive_pure cloud may _ project
  | none => exact additive_bind cloud may made fun _ later _ => additive_pure cloud may _ later

theorem ssh_key_additive (live : List SshKey) (spec : SshKeySpec) (project : Project) :
    Additive cloud may (ensureSshKey live spec) project :=
  additive_resolve cloud may _ _ (ask_extends cloud
    (benign_creates may project .sshKey (fun other => by cases other <;> rfl) own_labels_ours (by intro _ _ same; cases same)))

theorem network_additive (live : List Network) (spec : NetworkSpec) (project : Project) :
    Additive cloud may (ensureNetwork live spec) project :=
  additive_resolve cloud may _ _ (ask_extends cloud
    (benign_creates may project .network (fun other => by cases other <;> rfl) own_labels_ours (by intro _ _ same; cases same)))

theorem floating_ip_additive (server : Nat) (live : List FloatingIp) (spec : FloatingIpSpec) (project : Project) :
    Additive cloud may (ensureFloatingIp server live spec) project :=
  additive_resolve cloud may _ _ (ask_extends cloud
    (benign_creates may project .floatingIp (fun other => by cases other <;> rfl) own_labels_ours (by intro _ _ same; cases same)))

theorem rules_benign {id : Nat} (rules : List FirewallRule)
    (allowed : ∀ firewall ∈ project.firewalls.rows, firewall.id = id → may firewall.identity) :
    Benign may project (.setFirewallRules id rules) := by
  refine ⟨?_, ?_, ?_⟩
  · intro kind object effect
    cases kind <;> cases effect
  · intro kind other effect
    cases kind <;> cases effect
  · intro other rules' same firewall member named
    cases same
    exact allowed firewall member named

theorem firewall_additive {live : List Firewall} {spec : FirewallSpec} {listed later : Project}
    (shown : ∀ firewall ∈ live, firewall ∈ listed.firewalls.rows ∧ ours firewall.labels = true)
    (allowed : ∀ identity : Identity, identity.name = some spec.name → ours identity.labels = true → may identity)
    (reached : Extends may listed later) : Additive cloud may (ensureFirewall live spec) later := by
  rw [ensureFirewall]
  cases found : findFirewall live spec.name with
  | none =>
    refine additive_bind cloud may (ask_extends cloud
      (benign_creates may later .firewall (fun other => by cases other <;> rfl) own_labels_ours (by intro _ _ same; cases same))) ?_
    exact fun _ last _ => additive_pure cloud may _ last
  | some existing =>
    obtain ⟨member, labelled⟩ := shown existing (mem_of_find?_eq_some found)
    have named : existing.name = spec.name := by simpa using find?_some found
    simp only [updateFirewall]
    split
    · refine additive_bind cloud may (ask_extends cloud (rules_benign may _ ?_)) ?_
      · intro firewall held same
        have there := reached.kept .firewall (mem_map_of_mem member)
        have equal := later.objects_unique .firewall _ _ (mem_map_of_mem held) there same
        rw [equal]
        exact allowed existing.identity (congrArg some named) labelled
      · exact fun _ last _ => additive_pure cloud may _ last
    · exact additive_pure cloud may _ later

end Programs

def ownFirewalls (provider : HetznerCloudProvider) (identity : Identity) : Prop :=
  (∃ spec ∈ provider.firewalls, identity.name = some spec.name) ∧ ours identity.labels = true

variable (cloud : Cloud) (may : Identity → Prop) (provider : HetznerCloudProvider)

theorem create_server_additive
    (live : List Server) (serverType : Option String) (sshIds netIds fwIds : List Nat) (project : Project) :
    Additive cloud may (provider.ensureServer live serverType sshIds netIds fwIds) project := by
  rw [HetznerCloudProvider.ensureServer]
  cases findServer live provider.spec.name with
  | some existing => exact additive_pure cloud may _ project
  | none =>
    simp only
    split
    · cases serverType with
      | none => exact additive_fail cloud may _ project
      | some st =>
        refine additive_bind cloud may (ask_extends cloud
          (benign_creates may project .server (fun other => by cases other <;> rfl) (ours_own _) (by intro _ _ same; cases same))) ?_
        exact fun _ last _ => additive_pure cloud may _ last
    · exact additive_pure cloud may _ project

theorem create_server_type_additive (clock : Clock) (provider : HetznerCloudProvider)
    (live : List Server) (project : Project) : Additive cloud may (provider.createServerType clock live) project := by
  rw [HetznerCloudProvider.createServerType]
  split
  · rw [HetznerCloudProvider.validated]
    cases provider.spec.serverType with
    | none => exact additive_fail cloud may _ project
    | some st =>
      refine additive_bind cloud may (additive_yields cloud may (ask_yields cloud .listServerTypes project)) ?_
      intro types middle _
      refine additive_bind cloud may (additive_answered cloud may _ middle) ?_
      exact fun _ last _ => additive_pure cloud may _ last
  · exact additive_pure cloud may _ project

theorem floating_ips_additive (server : Option Nat)
    (project : Project) : Additive cloud may (provider.ensureFloatingIps server) project := by
  rw [HetznerCloudProvider.ensureFloatingIps]
  split
  · exact additive_pure cloud may _ project
  · cases server with
    | none => exact additive_pure cloud may _ project
    | some id =>
      refine additive_bind cloud may (additive_yields cloud may (refresh_floating_ips_yields cloud project)) ?_
      intro live middle _
      refine additive_bind cloud may (additive_collect cloud may ?_) ?_
      · exact fun spec _ later _ => floating_ip_additive cloud may id live spec later
      · exact fun _ last _ => additive_pure cloud may _ last

-- However an apply ends, it deleted nothing and replaced rules on its own firewalls only.
theorem apply_additive (clock : Clock) (provider : HetznerCloudProvider) (project : Project) :
    Additive cloud (ownFirewalls provider) (provider.apply clock) project := by
  refine additive_bind cloud _ (additive_yields cloud _ (refresh_servers_yields cloud project)) ?_
  intro liveServers first _
  refine additive_bind cloud _ (create_server_type_additive cloud _ clock provider liveServers first) ?_
  intro serverType second _
  refine additive_bind cloud _ (additive_yields cloud _ (refresh_ssh_keys_yields cloud second)) ?_
  intro liveKeys third _
  refine additive_bind cloud _ (additive_collect cloud _ fun spec _ later _ => ssh_key_additive cloud _ liveKeys spec later) ?_
  intro keys fourth _
  refine additive_bind cloud _ (additive_yields cloud _ (refresh_networks_yields cloud fourth)) ?_
  intro liveNets fifth _
  refine additive_bind cloud _ (additive_collect cloud _ fun spec _ later _ => network_additive cloud _ liveNets spec later) ?_
  intro nets sixth _
  refine additive_bind cloud _ (additive_yields cloud _ (refresh_firewalls_yields cloud sixth)) ?_
  intro liveFws seventh listed
  obtain ⟨rfl, rfl⟩ := Prog.yields_ends _ (refresh_firewalls_yields cloud sixth) listed
  refine additive_bind cloud _ (additive_collect cloud _ ?_) ?_
  · intro spec member later reached
    refine firewall_additive cloud _ ?_ ?_ reached
    · intro firewall shown
      obtain ⟨held, labelled⟩ := mem_filter.mp shown
      exact ⟨mem_of_mem_take held, labelled⟩
    · exact fun identity named labelled => ⟨⟨spec, member, named⟩, labelled⟩
  · intro fws eighth _
    refine additive_bind cloud _ (create_server_additive cloud _ provider _ _ _ _ _ eighth) ?_
    intro server ninth _
    refine additive_bind cloud _ (floating_ips_additive cloud _ provider _ ninth) ?_
    exact fun _ last _ => additive_pure cloud _ _ last

end AppRafter.Hetzner
