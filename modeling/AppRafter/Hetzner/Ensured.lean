import AppRafter.Hetzner.Objects

set_option autoImplicit false

namespace AppRafter.Hetzner

open Lib List

variable (cloud : Cloud)

theorem collect_ends {Spec Id : Type} {step : Spec → HzProg (Id × Nat)} (inv : List Spec → List Id → Nat → Project → Prop)
    (specs : List Spec) (start final : Project) (result : List Id × Nat) (initially : inv [] [] 0 start)
    (extends_ : ∀ earlier spec rest ids count project id made after, specs = earlier ++ spec :: rest →
      inv earlier ids count project → (step spec).play cloud.serve project = (.ok (id, made), after) →
      inv (earlier ++ [spec]) (ids ++ [id]) (count + made) after)
    (ended : (collect step specs).play cloud.serve start = (.ok result, final)) : inv specs result.1 result.2 final := by
  suffices general : ∀ rest earlier ids count project result, specs = earlier ++ rest → inv earlier ids count project →
      (collect step rest).play cloud.serve project = (.ok result, final) →
      inv specs (ids ++ result.1) (count + result.2) final by
    simpa using general specs [] [] 0 start result rfl initially ended
  intro rest
  induction rest with
  | nil =>
    intro earlier ids count project result split holds ended
    obtain ⟨rfl, rfl⟩ := (Prog.ends_pure _ _ _ _ _).mp ended
    simpa [split] using holds
  | cons spec rest ih =>
    intro earlier ids count project result split holds ended
    rw [collect, Prog.ends_bind] at ended
    obtain ⟨⟨id, made⟩, middle, first, ended⟩ := ended
    obtain ⟨others, last, later, ended⟩ := (Prog.ends_bind _ _ _ _ _ _).mp ended
    obtain ⟨rfl, rfl⟩ := (Prog.ends_pure _ _ _ _ _).mp ended
    have step := extends_ earlier spec rest ids count project id made middle split holds first
    simpa [Nat.add_assoc] using ih (earlier ++ [spec]) _ _ middle others (by simp [split]) step later

theorem collect_found {Spec Id : Type} (step : Spec → HzProg (Id × Nat)) (specs : List Spec)
    (found : ∀ spec ∈ specs, ∃ id, step spec = pure (id, 0)) : ∃ ids, collect step specs = pure (ids, 0) := by
  induction specs with
  | nil => exact ⟨[], rfl⟩
  | cons spec rest ih =>
    obtain ⟨id, first⟩ := found spec mem_cons_self
    obtain ⟨ids, others⟩ := ih fun later member => found later (mem_cons_of_mem _ member)
    refine ⟨id :: ids, ?_⟩
    rw [collect, first, others]
    rfl

-- `fits` is what a row must be to serve a spec, `made` what is true of the rows made.
structure Ensured {Spec Row : Type} (rows : Project → List Row) (id : Row → Nat) (found : Spec → Option Row)
    (fits made : Spec → Row → Prop) (specs : List Spec) (before after : Project) (ids : List Nat) (count : Nat) : Prop where
  grown : ∃ fresh, rows after = rows before ++ fresh
  counted : count = (missing found specs).length
  known : ∀ spec ∈ specs, ∃ row ∈ rows after, fits spec row ∧ id row ∈ ids
  fresh : ∀ spec ∈ missing found specs, ∃ row ∈ rows after, fits spec row ∧ made spec row

section Ensure

variable {Spec Row : Type} {rows : Project → List Row} {id : Row → Nat} {found : Spec → Option Row}
  {fits made : Spec → Row → Prop} {create : Spec → HzProg Row}

variable {specs : List Spec}

theorem ensured_step {spec : Spec} {before project after : Project} {ids : List Nat} {count : Nat}
    {row : Row} {isNew : Nat} {fresh : List Row} (earlier : Ensured rows id found fits made specs before project ids count)
    (grown : rows after = rows project ++ fresh) (member : row ∈ rows after) (serves : fits spec row)
    (counted : isNew = (missing found [spec]).length) (isMade : spec ∈ missing found [spec] → made spec row) :
    Ensured rows id found fits made (specs ++ [spec]) before after (ids ++ [id row]) (count + isNew) := by
  have stays (old : Row) (held : old ∈ rows project) : old ∈ rows after := grown ▸ mem_append_left _ held
  refine ⟨?_, ?_, ?_, ?_⟩
  · obtain ⟨made, same⟩ := earlier.grown
    exact ⟨made ++ fresh, by rw [grown, same, append_assoc]⟩
  · rw [earlier.counted, counted, missing, missing, missing, filter_append, length_append]
  · intro wanted among
    rcases mem_append.mp among with before_ | last
    · obtain ⟨old, held, serves, listed⟩ := earlier.known wanted before_
      exact ⟨old, stays old held, serves, mem_append_left _ listed⟩
    · rw [mem_singleton.mp last]
      exact ⟨row, member, serves, mem_append_right _ mem_cons_self⟩
  · intro wanted among
    rw [missing, filter_append] at among
    rcases mem_append.mp among with before_ | last
    · obtain ⟨old, held, serves, isMade⟩ := earlier.fresh wanted before_
      exact ⟨old, stays old held, serves, isMade⟩
    · have same : wanted = spec := mem_singleton.mp (mem_filter.mp last).1
      subst same
      exact ⟨row, member, serves, isMade last⟩

theorem ensured_all {others : Project → Project → Prop} (reflexive : ∀ project, others project project)
    (transitive : ∀ first second third, others first second → others second third → others first third) {before after : Project} {result : List Nat × Nat}
    (present : ∀ spec row, found spec = some row → row ∈ rows before ∧ fits spec row)
    (creates : ∀ spec project row after, (create spec).play cloud.serve project = (.ok row, after) →
      rows after = rows project ++ [row] ∧ fits spec row ∧ made spec row ∧ others project after)
    (ended : (collect (fun spec => resolve id (found spec) (create spec)) specs).play cloud.serve before = (.ok result, after)) :
    Ensured rows id found fits made specs before after result.1 result.2 ∧ others before after := by
  refine collect_ends cloud (fun done ids count project =>
    Ensured rows id found fits made done before project ids count ∧ others before project) specs before after result ?_ ?_ ended
  · exact ⟨⟨⟨[], (append_nil _).symm⟩, rfl, nofun,
      nofun⟩, reflexive before⟩
  · intro earlier spec rest ids count project rowId isNew later _ ⟨holds, same⟩ step
    cases existing : found spec with
    | some row =>
      simp only [existing, resolve] at step
      obtain ⟨same_, rfl⟩ := (Prog.ends_pure _ _ _ _ _).mp step
      cases same_
      obtain ⟨held, serves⟩ := present spec row existing
      obtain ⟨fresh, grown⟩ := holds.grown
      refine ⟨ensured_step holds
        (append_nil _).symm (grown ▸ mem_append_left _ held) serves (by simp [missing, existing]) ?_, same⟩
      intro absent
      simp [missing, existing] at absent
    | none =>
      simp only [existing, resolve] at step
      obtain ⟨row, middle, created, step⟩ := (Prog.ends_bind _ _ _ _ _ _).mp step
      obtain ⟨same_, rfl⟩ := (Prog.ends_pure _ _ _ _ _).mp step
      cases same_
      obtain ⟨grown, serves, isMade, kept⟩ := creates spec project row middle created
      exact ⟨ensured_step holds grown
        (grown ▸ mem_append_right _ mem_cons_self) serves (by simp [missing, existing]) (fun _ => isMade),
        transitive _ _ _ same kept⟩

end Ensure

def Project.labelledFirewalls (project : Project) : List Firewall := refreshed Firewall.labels project.firewalls.rows

def Project.firewallNamed (project : Project) (name : String) : Option Firewall := findFirewall project.labelledFirewalls name

variable {project after : Project} {row : Firewall} {spec : FirewallSpec} {cloud : Cloud} {live : List Firewall}

theorem firewall_named {name : String} (found : project.firewallNamed name = some row) :
    row ∈ project.firewalls.rows ∧ row.name = name ∧ ours row.labels = true := by
  have member := mem_filter.mp (mem_of_find?_eq_some found)
  have named := find?_some found
  exact ⟨member.1, by simpa using named, member.2⟩

theorem replace_rules_id (id : Nat) (rules : List FirewallRule) : ∀ row, (Firewall.replaceRules id rules row).id = row.id := fun _ => rfl

theorem next_firewall (project : Project) (request : FirewallCreateRequest) :
    (firewallOf project.firewalls.next request).id = project.firewalls.next := rfl

def Project.withRules (project : Project) (id : Nat) (rules : List FirewallRule) : Project :=
  { project with firewalls := project.firewalls.mapRows (Firewall.replaceRules id rules) (replace_rules_id id rules) }

def Project.withFirewall (project : Project) (request : FirewallCreateRequest) : Project :=
  { project with firewalls := project.firewalls.insert (firewallOf project.firewalls.next request) (next_firewall project request) }

variable (rules : List FirewallRule)

theorem replace_rules_other {id : Nat} (other : row.id ≠ id) : Firewall.replaceRules id rules row = row := by
  simp [Firewall.replaceRules, other]

theorem replaced_named (project : Project) (id : Nat) (rules : List FirewallRule) (name : String) :
    (project.withRules id rules).firewallNamed name = (project.firewallNamed name).map (Firewall.replaceRules id rules) := by
  simp [Project.firewallNamed, Project.labelledFirewalls, Project.withRules, Table.mapRows, findFirewall, refreshed,
    filter_map, find?_map, Function.comp_def, Firewall.replaceRules]

-- Replacing the rules of one of the named firewalls shows under its own name only.
theorem rules_named (row : Firewall) (rules : List FirewallRule) (name : String)
    (found : project.firewallNamed row.name = some row) :
    (project.withRules row.id rules).firewallNamed name =
      if name = row.name then some { row with rules := rules } else project.firewallNamed name := by
  rw [replaced_named]
  by_cases same : name = row.name
  · rw [same, found]
    simp [Firewall.replaceRules]
  · rw [if_neg same]
    cases held : project.firewallNamed name with
    | none => rfl
    | some other =>
      obtain ⟨member, named, _⟩ := firewall_named held
      have different : other.id ≠ row.id := by
        intro equal
        have identical := project.firewalls.key_unique other row member (firewall_named found).1 equal
        exact same (named ▸ congrArg Firewall.name identical)
      exact congrArg some (replace_rules_other rules different)

theorem created_named (name : String) (absent : project.firewallNamed spec.name = none) :
    (project.withFirewall (firewallCreateRequest spec)).firewallNamed name =
      if name = spec.name then some (firewallOf project.firewalls.next (firewallCreateRequest spec))
      else project.firewallNamed name := by
  have appended : (project.withFirewall (firewallCreateRequest spec)).labelledFirewalls =
      project.labelledFirewalls ++ [firewallOf project.firewalls.next (firewallCreateRequest spec)] := by
    simp [Project.labelledFirewalls, Project.withFirewall, Table.insert, refreshed, firewallOf, firewallCreateRequest,
      own_labels_ours]
  simp only [Project.firewallNamed, findFirewall] at absent ⊢
  rw [appended]
  by_cases same : name = spec.name
  · simp [same, absent, firewallOf, firewallCreateRequest]
  · simp [same, Ne.symm same, firewallOf, firewallCreateRequest]

structure Settled (before after : Project) (done : List FirewallSpec) (ids : List Nat) (count : Nat) : Prop where
  current : ∀ spec ∈ done, ∃ row, after.firewallNamed spec.name = some row ∧
    rulesDiffer row.rules (desiredRules spec) = false ∧ row.id ∈ ids
  others : ∀ name, name ∉ done.map FirewallSpec.name → after.firewallNamed name = before.firewallNamed name
  counted : count = (done.filterMap (firewallAction before.labelledFirewalls)).length

theorem settled_step {before : Project} {done : List FirewallSpec} (spec : FirewallSpec) (ids : List Nat)
    (count made : Nat) (row : Firewall) (holds : Settled before project done ids count)
    (apart : spec.name ∉ done.map FirewallSpec.name)
    (named : ∀ name, after.firewallNamed name = if name = spec.name then some row else project.firewallNamed name)
    (same : rulesDiffer row.rules (desiredRules spec) = false)
    (counted : made = ([spec].filterMap (firewallAction before.labelledFirewalls)).length) :
    Settled before after (done ++ [spec]) (ids ++ [row.id]) (count + made) := by
  refine ⟨?_, ?_, ?_⟩
  · intro wanted among
    rcases mem_append.mp among with earlier | last
    · obtain ⟨old, found, current, listed⟩ := holds.current wanted earlier
      have different : wanted.name ≠ spec.name := fun equal => apart (equal ▸ mem_map_of_mem earlier)
      exact ⟨old, by rw [named, if_neg different, found], current, mem_append_left _ listed⟩
    · rw [mem_singleton.mp last]
      exact ⟨row, by rw [named, if_pos rfl], same, mem_append_right _ mem_cons_self⟩
  · intro name outside
    rw [map_append, mem_append, not_or] at outside
    have different : name ≠ spec.name := fun equal => outside.2 (equal ▸ mem_cons_self)
    rw [named, if_neg different, holds.others name outside.1]
  · rw [holds.counted, counted, filterMap_append, length_append]

theorem rules_differ_self : rulesDiffer rules rules = false := by
  rw [rules_differ_iff]
  rfl

def Project.besideFirewalls (first second : Project) : Prop :=
  first.servers = second.servers ∧ first.sshKeys = second.sshKeys ∧ first.networks = second.networks ∧
    first.floatingIps = second.floatingIps

theorem firewall_step {result : Nat × Nat} (ended : (ensureFirewall live spec).play cloud.serve project = (.ok result, after)) :
    (∃ row, findFirewall live spec.name = some row ∧
      ((rulesDiffer row.rules (desiredRules spec) = false ∧ result = (row.id, 0) ∧ after = project) ∨
        (rulesDiffer row.rules (desiredRules spec) = true ∧ result = (row.id, 1) ∧
          after = project.withRules row.id (desiredRules spec)))) ∨
      (findFirewall live spec.name = none ∧ result = (project.firewalls.next, 1) ∧
        after = project.withFirewall (firewallCreateRequest spec)) := by
  rw [ensureFirewall] at ended
  cases found : findFirewall live spec.name with
  | some row =>
    simp only [found, updateFirewall] at ended
    refine .inl ⟨row, rfl, ?_⟩
    cases differ : rulesDiffer row.rules (desiredRules spec) with
    | false =>
      simp only [differ] at ended
      obtain ⟨rfl, rfl⟩ := (Prog.ends_pure _ _ _ _ _).mp ended
      exact .inl ⟨rfl, rfl, rfl⟩
    | true =>
      simp only [differ] at ended
      obtain ⟨_, middle, set, ended⟩ := (Prog.ends_bind _ _ _ _ _ _).mp ended
      obtain ⟨rfl, rfl⟩ := (Prog.ends_pure _ _ _ _ _).mp ended
      obtain ⟨_, rfl⟩ := Prog.yields_ends _ (ask_yields cloud _ project) set
      exact .inr ⟨rfl, rfl, rfl⟩
  | none =>
    simp only [found, createFirewall] at ended
    obtain ⟨row, middle, created, ended⟩ := (Prog.ends_bind _ _ _ _ _ _).mp ended
    obtain ⟨rfl, rfl⟩ := (Prog.ends_pure _ _ _ _ _).mp ended
    obtain ⟨rfl, rfl⟩ := Prog.yields_ends _ (ask_yields cloud _ project) created
    exact .inr ⟨rfl, rfl, rfl⟩

theorem firewalls_settled {specs : List FirewallSpec} {before : Project}
    {result : List Nat × Nat} (apart : (specs.map FirewallSpec.name).Nodup)
    (ended : (collect (ensureFirewall live) specs).play cloud.serve before = (.ok result, after)) :
    before.firewalls.rows.length ≤ after.firewalls.rows.length ∧ before.besideFirewalls after ∧
      (live = before.labelledFirewalls → Settled before after specs result.1 result.2) := by
  refine collect_ends cloud (fun done ids count project =>
    before.firewalls.rows.length ≤ project.firewalls.rows.length ∧ before.besideFirewalls project ∧
      (live = before.labelledFirewalls → Settled before project done ids count)) specs before after result ?_ ?_ ended
  · exact ⟨Nat.le_refl _, ⟨rfl, rfl, rfl, rfl⟩, fun _ => ⟨nofun, fun _ _ => rfl, rfl⟩⟩
  · intro earlier spec rest ids count project id made later split ⟨longer, beside, settled⟩ step
    have outside : spec.name ∉ earlier.map FirewallSpec.name := by
      rw [split, map_append, nodup_append] at apart
      exact fun member => apart.2.2 spec.name member spec.name (mem_map_of_mem mem_cons_self) rfl
    rcases firewall_step step with
      ⟨row, found, ⟨same, made_, rfl⟩ | ⟨differ, made_, rfl⟩⟩ | ⟨absent, made_, rfl⟩
    · cases made_
      refine ⟨longer, beside, fun full => ?_⟩
      have named : later.firewallNamed spec.name = some row := by
        rw [(settled full).others spec.name outside, Project.firewallNamed, ← full, found]
      refine settled_step spec ids count 0 row (settled full) outside ?_ same ?_
      · intro name
        by_cases equal : name = spec.name
        · rw [if_pos equal, equal, named]
        · rw [if_neg equal]
      · simp [firewallAction, ← full, found, same]
    · cases made_
      refine ⟨by simpa [Project.withRules, Table.mapRows] using longer, beside, fun full => ?_⟩
      have named : project.firewallNamed spec.name = some row := by
        rw [(settled full).others spec.name outside, Project.firewallNamed, ← full, found]
      have called : row.name = spec.name := (firewall_named named).2.1
      exact settled_step spec ids count 1 { row with rules := desiredRules spec } (settled full)
        outside (called ▸ fun name => rules_named row (desiredRules spec) name (called.symm ▸ named))
        (rules_differ_self _) (by simp [firewallAction, ← full, found, differ])
    · cases made_
      refine ⟨longer.trans (by simp [Project.withFirewall, Table.insert]), beside, fun full => ?_⟩
      have named : project.firewallNamed spec.name = none := by
        rw [(settled full).others spec.name outside, Project.firewallNamed, ← full, absent]
      exact settled_step spec ids count 1 _ (settled full) outside
        (fun name => created_named name named) (rules_differ_self _) (by simp [firewallAction, ← full, absent])

def Project.serverNamed (project : Project) (name : String) : Option Server :=
  findServer (refreshed Server.labels project.servers.rows) name

structure Fits (pageSize : Nat) (project : Project) : Prop where
  servers : project.servers.rows.length ≤ pageSize
  sshKeys : project.sshKeys.rows.length ≤ pageSize
  networks : project.networks.rows.length ≤ pageSize
  firewalls : project.firewalls.rows.length ≤ pageSize
  floatingIps : project.floatingIps.rows.length ≤ pageSize

variable (pageSize : Nat)

def Project.shownServers (project : Project) : List Server :=
  refreshed Server.labels (project.servers.rows.take pageSize)

def Project.shownSshKeys (project : Project) : List SshKey :=
  refreshed SshKey.labels (project.sshKeys.rows.take pageSize)

def Project.shownNetworks (project : Project) : List Network :=
  refreshed Network.labels (project.networks.rows.take pageSize)

def Project.shownFirewalls (project : Project) : List Firewall :=
  refreshed Firewall.labels (project.firewalls.rows.take pageSize)

def Project.shownFloatingIps (project : Project) : List FloatingIp :=
  refreshed FloatingIp.labels (project.floatingIps.rows.take pageSize)

structure Converged (provider : HetznerCloudProvider) (project : Project) : Prop where
  server : ∃ server ∈ project.servers.rows, server.name = provider.spec.name ∧ ours server.labels = true
  sshKeys : ∀ spec ∈ provider.sshKeys, ∃ key ∈ project.sshKeys.rows, key.name = spec.name ∧ ours key.labels = true
  networks : ∀ spec ∈ provider.networks, ∃ network ∈ project.networks.rows,
    network.name = spec.name ∧ ours network.labels = true
  firewalls : ∀ spec ∈ provider.firewalls, ∃ firewall, project.firewallNamed spec.name = some firewall ∧
    SameRules firewall.rules (desiredRules spec)
  floatingIps : ∀ spec ∈ provider.floatingIps, ∃ ip ∈ project.floatingIps.rows,
    ip.name = some spec.name ∧ ours ip.labels = true

variable {Row : Type} {cloud : Cloud} {project : Project} {pageSize : Nat} {provider : HetznerCloudProvider}

theorem refresh_yields (labels : Row → Labels) {listed : HzProg (List Row)}
    {rows : List Row} (yields : listed.Yields cloud.serve project rows project) :
    (refresh labels listed).Yields cloud.serve project (refreshed labels rows) project :=
  Prog.yields_bind _ yields (Prog.yields_pure _ _ _)

section Lists

variable (cloud : Cloud) (project : Project)

theorem refresh_servers_yields : refreshServers.Yields cloud.serve project (project.shownServers cloud.pageSize) project :=
  refresh_yields _ (ask_yields cloud .listServers project)

theorem refresh_ssh_keys_yields : refreshSshKeys.Yields cloud.serve project (project.shownSshKeys cloud.pageSize) project :=
  refresh_yields _ (ask_yields cloud .listSshKeys project)

theorem refresh_networks_yields : refreshNetworks.Yields cloud.serve project (project.shownNetworks cloud.pageSize) project :=
  refresh_yields _ (ask_yields cloud .listNetworks project)

theorem refresh_firewalls_yields : refreshFirewalls.Yields cloud.serve project (project.shownFirewalls cloud.pageSize) project :=
  refresh_yields _ (ask_yields cloud .listFirewalls project)

theorem refresh_floating_ips_yields : refreshFloatingIps.Yields cloud.serve project
    (project.shownFloatingIps cloud.pageSize) project :=
  refresh_yields _ (ask_yields cloud .listFloatingIps project)

end Lists

theorem refreshed_find {labels : Row → Labels} {rows : List Row} {wanted : Row → Bool}
    (fits : rows.length ≤ pageSize) (present : ∃ row ∈ rows, wanted row = true ∧ ours (labels row) = true) :
    ∃ row, (refreshed labels (rows.take pageSize)).find? wanted = some row := by
  obtain ⟨row, member, named, labelled⟩ := present
  rw [take_of_length_le fits, ← Option.isSome_iff_exists, find?_isSome]
  exact ⟨row, mem_filter.mpr ⟨member, labelled⟩, named⟩

theorem mem_refreshed {labels : Row → Labels} {rows : List Row} {wanted : Row → Bool} {row : Row}
    (found : (refreshed labels (rows.take pageSize)).find? wanted = some row) :
    row ∈ rows ∧ wanted row = true ∧ ours (labels row) = true := by
  obtain ⟨listed, labelled⟩ := mem_filter.mp (mem_of_find?_eq_some found)
  exact ⟨mem_of_mem_take listed, find?_some found, labelled⟩

theorem floating_ips_quiet (id : Nat) (converged : Converged provider project) (fits : Fits cloud.pageSize project) :
    (provider.ensureFloatingIps (some id)).Yields cloud.serve project 0 project := by
  obtain ⟨ids, ips⟩ := collect_found (ensureFloatingIp id (project.shownFloatingIps cloud.pageSize)) provider.floatingIps (by
    intro spec member
    obtain ⟨ip, found⟩ : ∃ ip, findFloatingIp (project.shownFloatingIps cloud.pageSize) spec = some ip :=
      refreshed_find fits.floatingIps (by simpa using converged.floatingIps spec member)
    exact ⟨ip.id, by rw [ensureFloatingIp, found, resolve]⟩)
  rw [HetznerCloudProvider.ensureFloatingIps]
  cases provider.floatingIps.isEmpty with
  | true => exact Prog.yields_pure _ _ _
  | false =>
    refine Prog.yields_bind _ (refresh_floating_ips_yields cloud project) ?_
    rw [ips]
    exact Prog.yields_pure _ _ _

theorem shown_firewalls (project : Project) (pageSize : Nat) (fits : project.firewalls.rows.length ≤ pageSize) :
    project.shownFirewalls pageSize = project.labelledFirewalls := by
  rw [Project.shownFirewalls, take_of_length_le fits, Project.labelledFirewalls]

-- An apply over what has converged asks for lists only.
theorem converged_quiet (clock : Clock) (converged : Converged provider project) (fits : Fits cloud.pageSize project) :
    (provider.apply clock).Yields cloud.serve project { applied := 0 } project := by
  obtain ⟨server, foundServer⟩ : ∃ server, findServer (project.shownServers cloud.pageSize) provider.spec.name = some server :=
    refreshed_find fits.servers (by simpa using converged.server)
  obtain ⟨keyIds, keys⟩ := collect_found (ensureSshKey (project.shownSshKeys cloud.pageSize)) provider.sshKeys (by
    intro spec member
    obtain ⟨key, found⟩ : ∃ key, findSshKey (project.shownSshKeys cloud.pageSize) spec = some key :=
      refreshed_find fits.sshKeys (by simpa using converged.sshKeys spec member)
    exact ⟨key.id, by rw [ensureSshKey, found, resolve]⟩)
  obtain ⟨netIds, nets⟩ := collect_found (ensureNetwork (project.shownNetworks cloud.pageSize)) provider.networks (by
    intro spec member
    obtain ⟨network, found⟩ : ∃ network, findNetwork (project.shownNetworks cloud.pageSize) spec = some network :=
      refreshed_find fits.networks (by simpa using converged.networks spec member)
    exact ⟨network.id, by rw [ensureNetwork, found, resolve]⟩)
  obtain ⟨fwIds, fws⟩ := collect_found (ensureFirewall (project.shownFirewalls cloud.pageSize)) provider.firewalls (by
    intro spec member
    obtain ⟨firewall, found, same⟩ := converged.firewalls spec member
    have listed : findFirewall (project.shownFirewalls cloud.pageSize) spec.name = some firewall :=
      (shown_firewalls _ _ fits.firewalls).symm ▸ found
    have settled := (rules_differ_iff _ _).mpr same
    exact ⟨firewall.id, by simp [ensureFirewall, listed, updateFirewall, settled]⟩)
  have noType : provider.createServerType clock (project.shownServers cloud.pageSize) = pure none := by
    simp [HetznerCloudProvider.createServerType, HetznerCloudProvider.needsServerCreate, foundServer]
  have same : provider.ensureServer (project.shownServers cloud.pageSize) none keyIds netIds fwIds =
      pure (some server.id, 0) := by
    rw [HetznerCloudProvider.ensureServer, foundServer]
  have quiet {Value : Type} (prog : HzProg Value) (value : Value) (pure_ : prog = pure value) :
      prog.Yields cloud.serve project value project := pure_ ▸ Prog.yields_pure _ _ _
  refine Prog.yields_bind _ (refresh_servers_yields cloud project) ?_
  refine Prog.yields_bind _ (quiet _ _ noType) ?_
  refine Prog.yields_bind _ (refresh_ssh_keys_yields cloud project) ?_
  refine Prog.yields_bind _ (quiet _ _ keys) ?_
  refine Prog.yields_bind _ (refresh_networks_yields cloud project) ?_
  refine Prog.yields_bind _ (quiet _ _ nets) ?_
  refine Prog.yields_bind _ (refresh_firewalls_yields cloud project) ?_
  refine Prog.yields_bind _ (quiet _ _ fws) ?_
  refine Prog.yields_bind _ (quiet _ _ same) ?_
  exact Prog.yields_bind _ (floating_ips_quiet server.id converged fits) (Prog.yields_pure _ _ _)

end AppRafter.Hetzner
