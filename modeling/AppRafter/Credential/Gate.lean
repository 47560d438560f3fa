import AppRafter.Credential.Passes

set_option autoImplicit false

namespace AppRafter.Credential

open Lib List

-- The Secrets a pass applied, and coverage its own spec lists.
structure Since (start world : ScWorld) (done : List DerivedSecret) : Prop where
  status : world.cred.status = start.cred.status
  secrets : world.secrets = done.foldl (Keyed.upsert DerivedSecret.key) start.secrets
  covered : ∀ entry, entry ∉ coverage start.cred.spec → (entry ∈ world.covered ↔ entry ∈ start.covered)

def Founded (world : ScWorld) : Prop := ∀ entry ∈ baselineCoverage world.cred.baseline, entry ∈ world.covered

def AllShaped (world : ScWorld) : Prop :=
  ∀ secret ∈ world.secrets, secret.credential = world.cred.name → Shaped world.cred.name world.cred.ns secret

structure Linked (start : ScWorld) (record : List (ScWorld × Exchange scApi)) (world : ScWorld) : Prop where
  name : world.cred.name = start.cred.name
  ns : world.cred.ns = start.cred.ns
  shaped : AllShaped start
  since : ∀ done, marks (record.map Prod.snd) = appliedAll done → Since start world done

variable {done : List DerivedSecret} {start world after : ScWorld} {asked : ScRequest}

theorem applied_all_snoc {before : List Mark} {last : Mark} (same : before ++ [last] = appliedAll done) :
    ∃ earlier secret, before = appliedAll earlier ∧ last = .applied secret (.ok ()) ∧ done = earlier ++ [secret] := by
  obtain ⟨front, back, rfl, first, second⟩ := map_eq_append_iff.mp same.symm
  obtain ⟨secret, rest, rfl, marked, none_⟩ := map_eq_cons_iff.mp second
  rw [map_eq_nil_iff] at none_
  exact ⟨front, secret, first.symm, marked.symm, by rw [none_]⟩

theorem since_calm (since : Since start world done)
    (status : after.cred.status = world.cred.status) (secrets : after.secrets = world.secrets)
    (covered : after.covered = world.covered) : Since start after done :=
  ⟨status.trans since.status, secrets.trans since.secrets, fun entry outside => covered ▸ since.covered entry outside⟩

theorem since_applied (since : Since start world done)
    (secret : DerivedSecret) {covers : List Entry} (inside : ∀ entry ∈ covers, entry ∈ coverage start.cred.spec) :
    Since start (world.withSecret secret covers) (done ++ [secret]) := by
  refine ⟨since.status, ?_, ?_⟩
  · simp only [ScWorld.withSecret, since.secrets, foldl_append, foldl_cons, foldl_nil]
  · intro entry outside
    rw [← since.covered entry outside]
    constructor
    · intro covered
      cases mem_append.mp covered with
      | inl earlier => exact earlier
      | inr fresh => exact absurd (inside entry fresh) outside
    · exact fun covered => mem_append_left _ covered

theorem calm_frame (world : ScWorld) (fate : ScFate) (quiet : calm asked = true) :
    (serveSc world fate asked).2.cred.status = world.cred.status ∧ (serveSc world fate asked).2.secrets = world.secrets ∧
      (serveSc world fate asked).2.covered = world.covered := by
  rcases (serve_sc_frame world fate asked).2 with
    kept | ⟨secret, source, rfl, _⟩ | ⟨ns, name, rfl, _⟩ | ⟨ns, name, status, rfl, _⟩
  · exact kept
  · cases quiet
  · cases quiet
  · cases quiet

theorem baseline_restamped (covered : List Entry) (old new : Option SourceCredentialSpec) :
    ∀ entry ∈ baselineCoverage new, entry ∈ restamp covered old new := by
  intro entry stamped
  by_cases held : entry ∈ covered
  · exact mem_append_left _ (mem_filter.mpr ⟨held, by simp [stamped]⟩)
  · exact mem_append_right _ (mem_filter.mpr ⟨stamped, by simp [held]⟩)

theorem founded_frame (founded : Founded world)
    (status : after.cred.status = world.cred.status) (covered : ∀ entry ∈ world.covered, entry ∈ after.covered) :
    Founded after := by
  intro entry stamped
  rw [SourceCredential.baseline, status] at stamped
  exact covered entry (founded entry stamped)

theorem founded_serve (fate : ScFate) (asked : ScRequest) (founded : Founded world) : Founded (serveSc world fate asked).2 := by
  rcases (serve_sc_frame world fate asked).2 with
    ⟨status, _, covered⟩ | ⟨secret, source, _, same⟩ | ⟨ns, name, _, cred, covered, _⟩ | ⟨ns, name, status, _, same⟩
  · exact founded_frame founded status fun entry inside => covered ▸ inside
  · rw [same]
    exact founded_frame founded rfl fun entry inside => mem_append_left _ inside
  · exact founded_frame founded (by rw [cred]) fun entry inside => covered ▸ inside
  · rw [same]
    exact baseline_restamped _ _ _

theorem all_shaped_frame (shaped : AllShaped world) (name : after.cred.name = world.cred.name)
    (ns : after.cred.ns = world.cred.ns) (secrets : ∀ secret ∈ after.secrets, secret ∈ world.secrets) :
    AllShaped after := by
  intro secret inside labelled
  rw [name, ns]
  exact shaped secret (secrets secret inside) (labelled.trans name)

variable (sha256Hex : String → String)

theorem all_shaped_serve {history : List (Exchange scApi)} (fate : ScFate)
    (shaped : AllShaped world) (sameName : world.cred.name = start.cred.name) (sameNs : world.cred.ns = start.cred.ns)
    (allowed : scAllowed sha256Hex start.cred history asked) : AllShaped (serveSc world fate asked).2 := by
  obtain ⟨⟨name, ns⟩, rest⟩ := serve_sc_frame world fate asked
  rcases rest with
    ⟨_, secrets, _⟩ | ⟨secret, source, rfl, same⟩ | ⟨_, _, _, _, _, secrets⟩ | ⟨_, _, status, _, same⟩
  · exact all_shaped_frame shaped name ns fun secret inside => secrets ▸ inside
  · rw [same]
    intro other inside labelled
    cases (Keyed.mem_upsert _ _ _ other).mp inside with
    | inl earlier => exact shaped other earlier.1 labelled
    | inr fresh =>
      change Shaped world.cred.name world.cred.ns other
      rw [fresh, sameName, sameNs]
      exact allowed.2.2.1
  · exact all_shaped_frame shaped name ns secrets
  · rw [same]
    exact all_shaped_frame shaped rfl rfl fun _ inside => inside

theorem linked_serve (start : ScWorld) (record : List (ScWorld × Exchange scApi)) (world : ScWorld) (fate : ScFate)
    (asked : ScRequest) (linked : Linked start record world)
    (allowed : scAllowed sha256Hex start.cred (record.map Prod.snd) asked) :
    Linked start (record ++ [(world, ⟨asked, (serveSc world fate asked).1⟩)]) (serveSc world fate asked).2 := by
  obtain ⟨⟨name, ns⟩, _⟩ := serve_sc_frame world fate asked
  refine ⟨name.trans linked.name, ns.trans linked.ns, linked.shaped, ?_⟩
  intro done same
  rw [map_append] at same
  by_cases quiet : calm asked = true
  · obtain ⟨status, secrets, covered⟩ := calm_frame world fate quiet
    have unmarked := marks_calm (record.map Prod.snd) asked (serveSc world fate asked).1 quiet
    exact since_calm (linked.since done (unmarked.symm.trans same)) status secrets covered
  · have marked := marks_snoc (record.map Prod.snd) ⟨asked, (serveSc world fate asked).1⟩
    have grown := marked.symm.trans same
    cases asked with
    | applySecret secret source =>
      obtain ⟨earlier, written, before, last, rfl⟩ := applied_all_snoc grown
      injection last with secrets replied
      have made := sc_write_replied replied
      change Since start (fate.write world (world.withSecret secret source.covers)).2 (earlier ++ [written])
      rw [made, ← secrets]
      exact since_applied (linked.since earlier before) _ allowed.2.2.2.2
    | deleteSecret | applyStatus =>
      obtain ⟨_, _, _, last, _⟩ := applied_all_snoc grown
      cases last
    | _ => exact absurd rfl quiet

theorem credential_runs {state : ScState} (reachable : (scMachine sha256Hex).system.Reachable state) :
    Machine.Holds (fun world => Founded world ∧ AllShaped world) Linked (fun start => scAllowed sha256Hex start.cred) state := by
  refine (scMachine sha256Hex).holds_run (fun _ => True) (fun _ _ => True) (fun world => Founded world ∧ AllShaped world)
    Linked (fun start => scAllowed sha256Hex start.cred) ?_ ?_ ?_ ?_ ?_ state
    ((scMachine sha256Hex).run_of_reachable state reachable)
  · intro world ⟨unread, _, unlabelled⟩
    constructor
    · intro entry stamped
      rw [SourceCredential.baseline, unread] at stamped
      cases stamped
    · exact fun secret inside labelled => absurd labelled (unlabelled secret inside)
  · intro world change after ⟨founded, shaped⟩ changed
    obtain ⟨name, ns, status, secrets, covered⟩ := change_sc_frame change changed
    constructor
    · exact founded_frame founded status fun entry inside => covered ▸ inside
    · exact all_shaped_frame shaped name ns fun secret inside => secrets ▸ inside
  · intro start record world change after _ linked changed
    obtain ⟨name, ns, status, secrets, covered⟩ := change_sc_frame change changed
    refine ⟨name.trans linked.name, ns.trans linked.ns, linked.shaped, ?_⟩
    exact fun done same => since_calm (linked.since done same) status secrets covered
  · intro world ⟨_, shaped⟩ _
    refine ⟨⟨rfl, rfl, shaped, ?_⟩, reconcile_runs world.cred sha256Hex⟩
    intro done same
    cases done with
    | nil => exact ⟨rfl, rfl, fun _ _ => Iff.rfl⟩
    | cons secret rest => cases same
  · intro pass world fate asked rest ⟨founded, shaped⟩ linked _ allowed _
    constructor
    · exact ⟨founded_serve fate asked founded, all_shaped_serve _ fate shaped linked.name linked.ns allowed⟩
    · exact linked_serve sha256Hex pass.start pass.record world fate asked linked allowed

open Migration Option

def CoverageChange.removes (change : CoverageChange) : List Entry :=
  change.removedRepoPrefixes.map Entry.repoPrefix ++ change.removedHosts.map Entry.host

-- The change takes exactly what of `held` the spec does not list.
structure Narrows (change : CoverageChange) (held : List Entry) (spec : SourceCredentialSpec) : Prop where
  removes : ∀ entry, entry ∈ change.removes ↔ entry ∈ held ∧ entry ∉ coverage spec
  repoPrefixes : change.repoPrefixes = repoPrefixes spec
  hosts : change.hosts = registryHosts spec

def Stamped (world : ScWorld) : Prop :=
  ∀ entry ∈ world.covered, entry ∈ coverage world.cred.spec ∨ entry ∈ baselineCoverage world.cred.baseline

-- It derives within the spec's coverage, or has read a plan that approves what goes.
def Gated (covered : List Entry) (cred : SourceCredential)
    (history : List (Exchange scApi)) : Prop :=
  (∀ entry ∈ covered, entry ∈ coverage cred.spec) ∨
    ∃ change plans plan, (⟨.listPlans cred.ns cred.name, .ok plans⟩ : Exchange scApi) ∈ history ∧
      pickScPlan plans cred.name = some plan ∧ Approves sha256Hex plan change ∧ Narrows change covered cred.spec

theorem mem_removed (old new : List String) (item : String) : item ∈ removed old new ↔ item ∈ old ∧ item ∉ new := by
  simp [removed, mem_filter]

variable (spec : SourceCredentialSpec)

theorem mem_prefix_coverage (text : String) :
    Entry.repoPrefix text ∈ coverage spec ↔ text ∈ repoPrefixes spec := by simp [coverage]

theorem mem_coverage_host (text : String) : Entry.host text ∈ coverage spec ↔ text ∈ registryHosts spec := by simp [coverage]

theorem mem_removes {change : CoverageChange} {old new : SourceCredentialSpec}
    (prefixes : change.removedRepoPrefixes = removed (repoPrefixes old) (repoPrefixes new))
    (hosts : change.removedHosts = removed (registryHosts old) (registryHosts new)) (entry : Entry) :
    entry ∈ change.removes ↔ entry ∈ coverage old ∧ entry ∉ coverage new := by
  rw [CoverageChange.removes, prefixes, hosts]
  cases entry with
  | repoPrefix text => simp [mem_prefix_coverage, mem_removed]
  | host text => simp [mem_coverage_host, mem_removed]

theorem detect_destructive_cases (baseline : Option SourceCredentialSpec) (spec : SourceCredentialSpec) :
    (detectDestructive baseline spec = none ∧ ∀ entry ∈ baselineCoverage baseline, entry ∈ coverage spec) ∨
      ∃ change, detectDestructive baseline spec = some change ∧ Narrows change (baselineCoverage baseline) spec := by
  cases baseline with
  | none => exact .inl ⟨rfl, fun _ none_ => nomatch none_⟩
  | some old =>
    by_cases nothing : ((removed (repoPrefixes old) (repoPrefixes spec)).isEmpty &&
        (removed (registryHosts old) (registryHosts spec)).isEmpty) = true
    · refine .inl ⟨by simp only [detectDestructive, if_pos nothing], ?_⟩
      simp only [Bool.and_eq_true, List.isEmpty_iff] at nothing
      intro entry held
      by_contra gone
      cases entry with
      | repoPrefix text =>
        have goes := (mem_removed _ _ text).mpr
          ⟨(mem_prefix_coverage old text).mp held, fun listed => gone ((mem_prefix_coverage spec text).mpr listed)⟩
        rw [nothing.1] at goes
        cases goes
      | host text =>
        have goes := (mem_removed _ _ text).mpr
          ⟨(mem_coverage_host old text).mp held, fun listed => gone ((mem_coverage_host spec text).mpr listed)⟩
        rw [nothing.2] at goes
        cases goes
    · refine .inr ⟨_, by simp only [detectDestructive, if_neg nothing]; rfl, ?_⟩
      exact ⟨mem_removes rfl rfl, rfl, rfl⟩

section Approval

variable (sha256Hex : String → String)

theorem approves_one (collisionFree : Function.Injective sha256Hex) (plan : MigrationPlan) (one other : CoverageChange)
    (first : Approves sha256Hex plan one) (second : Approves sha256Hex plan other) : one = other := by
  have hashes := some.inj (first.stamped.symm.trans second.stamped)
  exact canonical_coverage_injective (collisionFree hashes)

variable {history : List (Exchange scApi)}

theorem gate_open_gated {start : ScWorld} {covered : List Entry}
    (opened : GateOpen sha256Hex start.cred history) (founded : ∀ entry ∈ baselineCoverage start.cred.baseline, entry ∈ covered)
    (stamped : ∀ entry ∈ covered, entry ∈ coverage start.cred.spec ∨ entry ∈ baselineCoverage start.cred.baseline) :
    Gated sha256Hex covered start.cred history := by
  cases detect_destructive_cases start.cred.baseline start.cred.spec with
  | inl kept =>
    refine .inl ?_
    intro entry inside
    exact (stamped entry inside).elim id fun based => kept.2 entry based
  | inr changed =>
    obtain ⟨change, found, narrows⟩ := changed
    obtain ⟨plans, plan, listed, picked, approves⟩ := opened change found
    refine .inr ⟨change, plans, plan, listed, picked, approves, ?_, narrows.repoPrefixes, narrows.hosts⟩
    intro entry
    rw [narrows.removes]
    constructor
    · exact fun goes => ⟨founded entry goes.1, goes.2⟩
    · exact fun goes => ⟨(stamped entry goes.1).resolve_left goes.2, goes.2⟩

theorem stamp_gated {cred : SourceCredential} {status : SourceCredentialStatus}
    (stamps : Stamps sha256Hex cred history status) (entry : Entry) (held : entry ∈ baselineCoverage cred.baseline)
    (dropped : entry ∉ baselineCoverage status.lastAppliedSpec) :
    ∃ change plans plan, (⟨.listPlans cred.ns cred.name, .ok plans⟩ : Exchange scApi) ∈ history ∧
      pickScPlan plans cred.name = some plan ∧ Approves sha256Hex plan change ∧ entry ∈ change.removes ∧
      Narrows change (baselineCoverage cred.baseline) cred.spec := by
  obtain ⟨opened, git, registry, _, _, _, _, _, rfl⟩ := stamps
  cases waiting : outcomePending git || outcomePending registry with
  | true =>
    rw [derivedStatus, waiting] at dropped
    exact absurd held dropped
  | false =>
    rw [derivedStatus, waiting] at dropped
    have gone : entry ∉ coverage cred.spec := dropped
    cases detect_destructive_cases cred.baseline cred.spec with
    | inl kept => exact absurd (kept.2 entry held) gone
    | inr changed =>
      obtain ⟨change, found, narrows⟩ := changed
      obtain ⟨plans, plan, listed, picked, approves⟩ := opened change found
      exact ⟨change, plans, plan, listed, picked, approves, (narrows.removes entry).mpr ⟨held, gone⟩, narrows⟩

-- A narrowing takes a completed plan of exactly it, and a plan is good for one change.
theorem coverage_gated (state : ScState) (reachable : (scMachine sha256Hex).system.Reachable state) (pass : ScPass)
    (running : state.pass = some pass) :
    (Stamped pass.start → ∀ secret source, pass.asks = some (.applySecret secret source) →
      Gated sha256Hex state.world.covered pass.start.cred pass.history) ∧
    (∀ ns name status, pass.asks = some (.applyStatus ns name status) →
      (status.phase = some phaseAwaitingMigrationApproval → Carries state.world.cred status) ∧
      ∀ entry ∈ baselineCoverage state.world.cred.baseline, entry ∉ baselineCoverage status.lastAppliedSpec →
        ∃ change plans plan, (⟨.listPlans pass.start.cred.ns pass.start.cred.name, .ok plans⟩ : Exchange scApi) ∈ pass.history ∧
          pickScPlan plans pass.start.cred.name = some plan ∧ Approves sha256Hex plan change ∧ entry ∈ change.removes ∧
          Narrows change (baselineCoverage state.world.cred.baseline) pass.start.cred.spec) ∧
    (Function.Injective sha256Hex → ∀ plan one other, Approves sha256Hex plan one → Approves sha256Hex plan other →
      one = other) := by
  obtain ⟨⟨founded, _⟩, flight⟩ := credential_runs sha256Hex reachable
  obtain ⟨linked, runs⟩ := flight pass running
  refine ⟨?_, ?_, approves_one sha256Hex⟩
  · intro stamped secret source asked
    obtain ⟨rest, waiting⟩ := Machine.asks_call asked
    rw [waiting] at runs
    obtain ⟨opened, ⟨done, marked⟩, _⟩ := runs.1
    have since := linked.since done marked
    refine gate_open_gated sha256Hex opened ?_ ?_
    · intro entry based
      rw [SourceCredential.baseline, ← since.status] at based
      exact founded entry based
    · intro entry inside
      by_cases listed : entry ∈ coverage pass.start.cred.spec
      · exact .inl listed
      · exact stamped entry ((since.covered entry listed).mp inside)
  · intro ns name status asked
    obtain ⟨rest, waiting⟩ := Machine.asks_call asked
    rw [waiting] at runs
    obtain ⟨_, written⟩ := runs.1
    have unwritten : state.world.cred.status = pass.start.cred.status := by
      cases written with
      | inl paused => exact (linked.since [] paused.1).status
      | inr stamps =>
        obtain ⟨_, _, _, gitSecrets, registrySecrets, _, _, marked, _⟩ := stamps
        exact (linked.since _ marked).status
    have baseline : state.world.cred.baseline = pass.start.cred.baseline := by
      rw [SourceCredential.baseline, SourceCredential.baseline, unwritten]
    rw [baseline]
    cases written with
    | inl paused =>
      have carries := paused.2
      refine ⟨fun _ => ⟨carries.phase, ?_, ?_, ?_, ?_⟩, ?_⟩
      · rw [baseline, carries.lastAppliedSpec]
      · rw [unwritten, carries.coveredRepoPrefixes]
      · rw [unwritten, carries.coveredHosts]
      · rw [unwritten, carries.lastValidated]
      · intro entry held dropped
        rw [carries.lastAppliedSpec] at dropped
        exact absurd held dropped
    | inr stamps =>
      refine ⟨?_, stamp_gated sha256Hex stamps⟩
      intro paused
      obtain ⟨_, _, _, _, _, _, _, _, rfl⟩ := stamps
      cases paused

end Approval

def plansRead (history : List (Exchange scApi)) : List (List MigrationPlan) :=
  history.filterMap fun exchange =>
    match exchange with
    | ⟨.listPlans _ _, .ok plans⟩ => some plans
    | _ => none

theorem mem_plans_read {history : List (Exchange scApi)} {ns name : String} {plans : List MigrationPlan}
    (listed : (⟨.listPlans ns name, .ok plans⟩ : Exchange scApi) ∈ history) : plans ∈ plansRead history :=
  mem_filterMap.mpr ⟨_, listed, rfl⟩

structure GateView where
  asked : Option ScRequest
  covered : List Entry
  startCovered : List Entry
  spec : SourceCredentialSpec
  baseline : Option SourceCredentialSpec
  plans : List (List MigrationPlan)
deriving DecidableEq

def gateView (state : ScState) : Option GateView :=
  state.pass.map fun pass =>
    { asked := pass.asks
      covered := state.world.covered
      startCovered := pass.start.covered
      spec := pass.start.cred.spec
      baseline := pass.start.cred.baseline
      plans := plansRead pass.history }

theorem gate_reached (first : ScWorld) (initial : (scMachine id).initial first) (actions : List ScAction) (view : GateView)
    (ran : ((scMachine id).system.run ⟨first, none⟩ actions).bind gateView = some view) :
    ∃ state pass, (scMachine id).system.Reachable state ∧ state.pass = some pass ∧ gateView state = some view ∧
      pass.asks = view.asked ∧ state.world.covered = view.covered ∧ pass.start.covered = view.startCovered ∧
      pass.start.cred.spec = view.spec ∧ pass.start.cred.baseline = view.baseline ∧ plansRead pass.history = view.plans := by
  obtain ⟨state, finished, viewed⟩ := bind_eq_some_iff.mp ran
  obtain ⟨pass, running, rfl⟩ := map_eq_some_iff.mp viewed
  have reachable := (scMachine id).system.reachable_run ⟨first, none⟩ (.initial _ ⟨initial, rfl⟩) actions state finished
  exact ⟨state, pass, reachable, running, viewed, rfl, rfl, rfl, rfl, rfl, rfl⟩

def hubGit (prefixes : List String) : SourceGit :=
  { backend := { sealedSecretRef := some { name := "hub-git" } }, repoPrefixes := prefixes }

def hubRegistry (hosts : List String) : SourceRegistry :=
  { backend := { sealedSecretRef := some { name := "hub-registry" } }, hosts := hosts }

def hubWorld : ScWorld :=
  { cred := { name := "hub", ns := "apprafter-system", uid := some "uid-1", spec := spec }
    plans := []
    secrets := []
    covered := [] }

theorem hub_initial : (scMachine id).initial (hubWorld spec) := ⟨rfl, rfl, fun _ none_ => nomatch none_⟩

def hubFate (material : Option MaterialData) : ScFate :=
  { clock := ⟨"2026-03-01T00:00:00+00:00", 1772323200⟩
    committed := true
    replied := true
    material := material
    verdict := (.unverified, "nothing to probe yet") }

def hubMaterial : Option MaterialData := some ⟨none, some "ghp_x"⟩

def answers (count : Nat) (material : Option MaterialData) : List ScAction := List.replicate count (.reply (hubFate material))

def hubWide : SourceCredentialSpec := { git := some (hubGit ["github.com/acme/", "github.com/tools/"]) }

def hubNarrow : SourceCredentialSpec := { git := some (hubGit ["github.com/acme/"]) }

def hubPlan : MigrationPlan :=
  { createCoveragePlan id ⟨"spec.git.repoPrefixes", ["github.com/tools/"], [], ["github.com/acme/"], []⟩
      (scPlanName "hub" 1772323200) "apprafter-system" "hub" "uid-1" with
    status := some { phase := some .completed } }

def narrowRun : List ScAction :=
  [.begin] ++ answers 9 hubMaterial ++ [.abandon, .change (.edit hubNarrow), .begin] ++ answers 5 hubMaterial ++
    [.abandon, .change (.plans [hubPlan]), .begin] ++ answers 3 hubMaterial

def narrowView : GateView :=
  { asked := some (.applySecret
      (repoCredPayload "srccred-hub-repo-0" "https://github.com/acme" ⟨"git", "ghp_x"⟩ "hub")
      ⟨"apprafter-system", "hub", [.repoPrefix "github.com/acme/"]⟩)
    covered := [.repoPrefix "github.com/acme/", .repoPrefix "github.com/tools/"]
    startCovered := [.repoPrefix "github.com/acme/", .repoPrefix "github.com/tools/"]
    spec := hubNarrow
    baseline := some hubWide
    plans := [[hubPlan]] }

theorem approved_narrowing :
    ∃ state pass change plans plan, (scMachine id).system.Reachable state ∧ state.pass = some pass ∧
      (∃ secret source, pass.asks = some (.applySecret secret source)) ∧
      Entry.repoPrefix "github.com/tools/" ∈ state.world.covered ∧ pass.start.cred.spec = hubNarrow ∧
      pickScPlan plans pass.start.cred.name = some plan ∧ Approves id plan change ∧
      Narrows change state.world.covered hubNarrow := by
  obtain ⟨state, pass, reachable, running, _, asked, covered, started, spec, baseline, _⟩ :=
    gate_reached (hubWorld hubWide) (hub_initial hubWide) narrowRun narrowView (by decide +kernel)
  have stamped : Stamped pass.start := by
    rw [Stamped, started, spec, baseline]
    decide
  have tools : Entry.repoPrefix "github.com/tools/" ∈ state.world.covered := by
    rw [covered]
    decide
  cases (coverage_gated id state reachable pass running).1 stamped _ _ asked with
  | inl within =>
    have listed := within _ tools
    rw [spec] at listed
    exact absurd listed (by decide)
  | inr approved =>
    obtain ⟨change, plans, plan, _, picked, approves, narrows⟩ := approved
    rw [spec] at narrows
    exact ⟨state, pass, change, plans, plan, reachable, running, ⟨_, _, asked⟩, tools, spec, picked, approves, narrows⟩

def hubBoth (prefixes : List String) : SourceCredentialSpec :=
  { git := some (hubGit prefixes), registry := some (hubRegistry ["ghcr.io/acme/"]) }

-- The registry half waits, so nothing is stamped, and the edit that narrows is never seen.
def ungatedRun : List ScAction :=
  [.begin] ++ answers 8 hubMaterial ++ answers 3 none ++
    [.abandon, .change (.edit (hubBoth ["github.com/acme/"])), .begin] ++ answers 3 hubMaterial

def ungatedView : GateView :=
  { narrowView with
    spec := hubBoth ["github.com/acme/"]
    baseline := none
    plans := [[]] }

theorem narrowed_unapproved :
    ∃ state pass secret source, (scMachine id).system.Reachable state ∧ state.pass = some pass ∧
      pass.asks = some (.applySecret secret source) ∧
      ¬ Gated id state.world.covered pass.start.cred pass.history := by
  obtain ⟨state, pass, reachable, running, _, asked, covered, _, spec, _, plans⟩ :=
    gate_reached (hubWorld (hubBoth ["github.com/acme/", "github.com/tools/"])) (hub_initial _) ungatedRun ungatedView
      (by decide +kernel)
  refine ⟨state, pass, _, _, reachable, running, asked, ?_⟩
  intro gated
  cases gated with
  | inl within =>
    rw [covered, spec] at within
    exact absurd (within (.repoPrefix "github.com/tools/") (by decide)) (by decide)
  | inr approved =>
    obtain ⟨_, listed, _, read, picked, _⟩ := approved
    have empty := mem_plans_read read
    rw [plans] at empty
    rw [mem_singleton.mp empty] at picked
    cases picked

end AppRafter.Credential
