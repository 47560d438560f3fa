import AppRafter.Hetzner.Clusters

set_option autoImplicit false

namespace AppRafter.Hetzner

open Lib Option

variable (targets : String → TargetConfig)

-- A recorded firewall id is of one that carries the label, where it is still there.
def Known (world : World) : Prop :=
  ∀ target id, (world.states target).firewallId = some id →
    ∀ object ∈ world.project.objects .firewall, object.id = id → ours object.labels = true

variable {kind : Kind} {run : Run} {world : World} {cloud : Cloud} {target : TargetConfig} {state saved : State}
  {record : HetznerCloudState} {before after : Project}

theorem labelled_known {project : Project} {id : Nat} (labelled : Labelled project kind id) :
    ∀ object ∈ project.objects kind, object.id = id → ours object.labels = true := by
  obtain ⟨held, member, same, carries⟩ := labelled
  intro object among named
  rw [project.objects_unique kind object held among member (named.trans same.symm)]
  exact carries

theorem command_extends (world : World) (notDestroy : run.command.isDestroy = false) :
    Extends (run.command.mayRewrite (world.clusterOf targets run.target) (world.states run.target)) world.project
      (world.after targets run).project := by
  obtain ⟨target, command, cloud⟩ := run
  cases command with
  | apply clock input => exact apply_run_extends cloud _ _ world.project clock input
  | importState force dryRun => exact import_run_extends cloud _ _ world.project _ force dryRun
  | cloudflareOrigin enable fetched => exact cloudflare_origin_extends cloud _ _ world.project enable fetched
  | destroy yes polls => cases notDestroy

theorem command_sweeps (world : World) (destroys : run.command.isDestroy = true) :
    Cleared world.project (world.after targets run).project := by
  obtain ⟨target, command, cloud⟩ := run
  cases command with
  | destroy yes polls => exact destroy_run_sweeps cloud _ world.project yes polls
  | _ => cases destroys

theorem command_makes {object : Identity} (member : object ∈ (world.after targets run).project.objects kind) :
    object ∈ world.project.objects kind ∨ ours object.labels = true := by
  cases destroys : run.command.isDestroy with
  | false => exact (command_extends targets world destroys).made kind object member
  | true => exact .inl ((command_sweeps targets world destroys).origin kind member)

theorem apply_run_recorded {clock : Clock} {input : ApplyInput}
    (ended : (applyRun clock input target state).play cloud.serve before = (.ok (some saved), after))
    (kept : saved.hetznerCloud = some record) : Recorded (clusterOf target state) after record := by
  obtain ⟨_, first, _, ended⟩ := (Prog.ends_bind _ _ _ _ _ _).mp ended
  obtain ⟨_, second, _, ended⟩ := (Prog.ends_bind _ _ _ _ _ _).mp ended
  exact persist_recorded cloud _ ended kept

theorem import_run_recorded {force dryRun : Bool}
    (ended : (importRun force dryRun target state).play cloud.serve before = (.ok (some saved), after))
    (kept : saved.hetznerCloud = some record) : Recorded (clusterOf target state) after record := by
  obtain ⟨_, first, _, ended⟩ := (Prog.ends_bind _ _ _ _ _ _).mp ended
  obtain ⟨_, second, _, ended⟩ := (Prog.ends_bind _ _ _ _ _ _).mp ended
  obtain ⟨snapshot, yields, recorded⟩ := build_snapshot_yields cloud second (clusterOf target state)
  obtain ⟨found, third, played, closing⟩ := (Prog.ends_bind _ _ _ _ _ _).mp ended
  obtain ⟨rfl, rfl⟩ := Prog.yields_ends _ yields played
  obtain ⟨returned, rfl⟩ := (Prog.ends_pure _ _ _ _ _).mp closing
  cases dryRun with
  | true => cases returned
  | false =>
    obtain ⟨held, found, rfl⟩ := map_eq_some_iff.mp returned
    cases kept
    exact recorded record found

theorem origin_run_saves {enable : Bool} {fetched : Except CliError (List String)}
    (ended : (applyCloudflareOrigin enable fetched target state).play cloud.serve before = (.ok (some saved), after)) :
    False := by
  obtain ⟨_, first, _, ended⟩ := (Prog.ends_bind _ _ _ _ _ _).mp ended
  obtain ⟨_, second, _, ended⟩ := (Prog.ends_bind _ _ _ _ _ _).mp ended
  cases ((Prog.ends_pure _ _ _ _ _).mp ended).1

theorem destroy_run_forgets {yes : Bool} {polls : Nat}
    (ended : (destroyRun yes polls state).play cloud.serve before = (.ok (some saved), after)) :
    saved.hetznerCloud = none := by
  rw [destroyRun] at ended
  cases held : state.provider with
  | none =>
    simp only [held] at ended
    cases ((Prog.ends_pure _ _ _ _ _).mp ended).1
  | some provider =>
    simp only [held] at ended
    obtain ⟨_, first, _, ended⟩ := (Prog.ends_bind _ _ _ _ _ _).mp ended
    split at ended
    · cases ((Prog.ends_pure _ _ _ _ _).mp ended).1
    · split at ended
      · cases ended
      · obtain ⟨_, second, _, ended⟩ := (Prog.ends_bind _ _ _ _ _ _).mp ended
        obtain ⟨_, third, _, ended⟩ := (Prog.ends_bind _ _ _ _ _ _).mp ended
        cases ((Prog.ends_pure _ _ _ _ _).mp ended).1
        rfl

theorem saved_recorded (ended : (world.play targets run).1 = .ok (some saved)) (kept : saved.hetznerCloud = some record) :
    Recorded (world.clusterOf targets run.target) (world.after targets run).project record := by
  have whole : world.play targets run = (.ok (some saved), (world.after targets run).project) := Prod.ext ended rfl
  obtain ⟨target, command, cloud⟩ := run
  cases command with
  | apply clock input => exact apply_run_recorded whole kept
  | importState force dryRun => exact import_run_recorded whole kept
  | cloudflareOrigin enable fetched => exact (origin_run_saves whole).elim
  | destroy yes polls =>
    have forgotten := destroy_run_forgets whole
    rw [kept] at forgotten
    cases forgotten

theorem state_after (world : World) (run : Run) (target : String) :
    (world.after targets run).states target = world.states target ∨
      target = run.target ∧ ∃ saved, (world.play targets run).1 = .ok (some saved) ∧
        (world.after targets run).states target = saved := by
  by_cases same : target = run.target
  · subst same
    have updated : (world.after targets run).states run.target = savedState (world.states run.target) (world.play targets run).1 :=
      Function.update_self _ _ _
    rw [updated]
    cases ended : (world.play targets run).1 with
    | error error => exact .inl rfl
    | ok value =>
      cases value with
      | none => exact .inl rfl
      | some saved => exact .inr ⟨rfl, saved, rfl, rfl⟩
  · exact .inl (Function.update_of_ne same _ _)

theorem known_after (run : Run) (known : Known world) : Known (world.after targets run) := by
  intro target id recorded object member same
  rcases state_after targets world run target with kept | ⟨rfl, saved, ended, written⟩
  · rw [kept] at recorded
    rcases command_makes _ member with earlier | labelled
    · exact known target id recorded object earlier same
    · exact labelled
  · rw [written, State.firewallId, bind_eq_some_iff] at recorded
    obtain ⟨record, held, points⟩ := recorded
    exact labelled_known ((saved_recorded _ ended held).firewall id points) _ member same

theorem known_reachable (reachable : (commands targets).Reachable world) : Known world := by
  refine System.invariant (commands targets) Known ?_ ?_ world reachable
  · intro start initially target id recorded
    rw [initially target] at recorded
    cases recorded
  · intro before run after known taken
    cases taken
    exact known_after targets run known

structure Confined (world : World) (run : Run) (next : World) : Prop where
  deleted : ∀ kind, ∀ object ∈ world.project.objects kind, object ∉ next.project.objects kind →
    run.command.isDestroy = true ∧ ours object.labels = true
  rewritten : ∀ firewall ∈ world.project.firewalls.rows, ∀ later ∈ next.project.firewalls.rows, later.id = firewall.id →
    later.rules ≠ firewall.rules → ours firewall.labels = true ∧
      (run.command.trustsRecord (world.states run.target) = false →
        firewall.name = firewallName (world.clusterOf targets run.target))
  recorded : ∀ record, (next.states run.target).hetznerCloud = some record →
    (next.states run.target).hetznerCloud ≠ (world.states run.target).hetznerCloud →
      Recorded (world.clusterOf targets run.target) next.project record
  others : ∀ target, target ≠ run.target → next.states target = world.states target

theorem shared_project_confined (world next : World) (run : Run) (reachable : (commands targets).Reachable world)
    (taken : (commands targets).step world run = some next) : Confined targets world run next := by
  cases taken
  refine ⟨?_, ?_, ?_, ?_⟩
  · intro kind object member gone
    cases destroys : run.command.isDestroy with
    | false => exact absurd ((command_extends targets world destroys).kept kind member) gone
    | true =>
      refine ⟨rfl, ?_⟩
      cases labelled : ours object.labels with
      | true => rfl
      | false => exact absurd ((command_sweeps targets world destroys).spared kind object member labelled) gone
  · intro firewall member later held same changed
    cases destroys : run.command.isDestroy with
    | true =>
      have unchanged := cleared_rules (command_sweeps targets world destroys) member held same
      exact absurd (congrArg Firewall.rules unchanged) changed
    | false =>
      have allowed := extends_rules _ (command_extends targets world destroys) member held same changed
      rcases allowed with ⟨named, labelled⟩ | ⟨trusts, recorded⟩
      · exact ⟨labelled, fun _ => some.inj named⟩
      · refine ⟨?_, fun distrusts => absurd (trusts.symm.trans distrusts) (by decide)⟩
        exact known_reachable targets reachable run.target firewall.id recorded firewall.identity (List.mem_map_of_mem member) rfl
  · intro record kept changed
    rcases state_after targets world run run.target with same | ⟨_, saved, ended, written⟩
    · exact absurd (congrArg State.hetznerCloud same) changed
    · exact saved_recorded targets ended (written ▸ kept)
  · exact fun target other => Function.update_of_ne other _ _

section Example

def targetsAB : String → TargetConfig := fun target => { provider := "hetzner-cloud", clusterName := some ("cluster-" ++ target) }

def plainInput : ApplyInput :=
  { region := "nbg1"
    serverType := some "cx22"
    osImage := none
    userData := ""
    sshKeyBlocks := none
    publicKey := none
    ipRange := none
    subnetIpRange := none
    networkZone := none
    ingress := none
    cfIps := none
    floatingIps := [] }

def applyOf (target : String) : Run :=
  { target := target
    command := .apply clockAtZero plainInput
    cloud := willingCloud }

def destroyOf (target : String) : Run :=
  { target := target
    command := .destroy true 0
    cloud := willingCloud }

def toggleOf (target : String) : Run :=
  { target := target
    command := .cloudflareOrigin true (.ok ["173.245.48.0/20"])
    cloud := willingCloud }

def emptyWorld : World :=
  { project := emptyProject
    states := fun _ => {} }

def bothApplied : World := (emptyWorld.after targetsAB (applyOf "a")).after targetsAB (applyOf "b")

theorem both_applied_reachable : (commands targetsAB).Reachable bothApplied :=
  .step _ _ (applyOf "b") (.step _ _ (applyOf "a") (.initial emptyWorld fun _ => rfl) rfl) rfl

theorem shared_project_confined_both :
    (Confined targetsAB bothApplied (destroyOf "a") (bothApplied.after targetsAB (destroyOf "a")) ∧
      ∃ server ∈ bothApplied.project.objects .server,
        server ∉ (bothApplied.after targetsAB (destroyOf "a")).project.objects .server) ∧
    Confined targetsAB bothApplied (toggleOf "a") (bothApplied.after targetsAB (toggleOf "a")) ∧
      ∃ firewall ∈ bothApplied.project.firewalls.rows,
        ∃ later ∈ (bothApplied.after targetsAB (toggleOf "a")).project.firewalls.rows,
          later.id = firewall.id ∧ later.rules ≠ firewall.rules := by
  have destroyed := shared_project_confined targetsAB bothApplied _ (destroyOf "a") both_applied_reachable rfl
  have toggled := shared_project_confined targetsAB bothApplied _ (toggleOf "a") both_applied_reachable rfl
  exact ⟨⟨destroyed, by decide +kernel⟩, toggled, by decide +kernel⟩

-- The sweep of one target takes the server of the other with it.
theorem destroy_takes_other_cluster :
    ¬ ∀ (world next : World) (run : Run) (other : String), (commands targetsAB).Reachable world →
      (commands targetsAB).step world run = some next → other ≠ run.target →
      world.clusterOf targetsAB other ≠ world.clusterOf targetsAB run.target →
      ∀ kind, ∀ object ∈ world.project.objects kind, object.name = some (world.clusterOf targetsAB other) →
        object ∈ next.project.objects kind := by
  intro spared
  have kept := spared bothApplied (bothApplied.after targetsAB (destroyOf "a")) (destroyOf "a") "b" both_applied_reachable rfl
    (by decide) (by decide +kernel) .server { id := 2, name := some "cluster-b", labels := ownLabels } (by decide +kernel)
    (by decide +kernel)
  revert kept
  decide +kernel

end Example

end AppRafter.Hetzner
