import AppRafter.Credential.Controller

set_option autoImplicit false

namespace AppRafter.Credential

open Lib Lib.Prog Migration List Option

inductive Mark where
  | applied (secret : DerivedSecret) (reply : Reply Unit)
  | deleted
  | wrote

def mark : Exchange scApi → Option Mark
  | ⟨.applySecret secret _, reply⟩ => some (.applied secret reply)
  | ⟨.deleteSecret _ _, _⟩ => some .deleted
  | ⟨.applyStatus _ _ _, _⟩ => some .wrote
  | _ => none

def marks (history : List (Exchange scApi)) : List Mark := history.filterMap mark

variable (history : List (Exchange scApi))

theorem marks_snoc (exchange : Exchange scApi) : marks (history ++ [exchange]) = marks history ++ (mark exchange).toList := by
  simp only [marks]
  cases found : mark exchange with
  | none => simp [found]
  | some _ => simp [found]

def calm : ScRequest → Bool
  | .applySecret _ _ => false
  | .deleteSecret _ _ => false
  | .applyStatus _ _ _ => false
  | _ => true

def routine : ScRequest → Bool
  | .listSecrets _ => false
  | .setFinalizers _ _ _ => false
  | asked => calm asked

theorem routine_calm {asked : ScRequest} (plain : routine asked = true) : calm asked = true := by
  cases asked <;> first | exact plain | exact absurd plain Bool.false_ne_true

theorem marks_calm (asked : ScRequest) (response : scApi.Response asked)
    (quiet : calm asked = true) : marks (history ++ [⟨asked, response⟩]) = marks history := by
  rw [marks_snoc]
  cases asked <;> first | exact append_nil _ | exact absurd quiet Bool.false_ne_true

def appliedAll (secrets : List DerivedSecret) : List Mark := secrets.map fun secret => .applied secret (.ok ())

inductive Shaped (name ns : String) : DerivedSecret → Prop where
  | repo (idx : Nat) (url : String) (login : Login) : Shaped name ns (repoCredPayload (repoCredSecretName name idx) url login name)
  | pull (auths : Dict DockerAuth) : Shaped name ns (dockercfgPayload (pullSecretName name) ns auths name)

def Resolved (backend : SourceBackend) (ns : String) (history : List (Exchange scApi)) : HalfMaterial → Prop
  | .openBao => backend.sealedSecretRef = none
  | .missing _ => True
  | .present login =>
    ∃ ref data, backend.sealedSecretRef = some ref ∧ login = materialFromData data ∧
      (⟨.readMaterial (ref.ns.getD ns) ref.name, .ok (some data)⟩ : Exchange scApi) ∈ history

inductive HalfRan (cred : SourceCredential) (history : List (Exchange scApi)) :
    Option Half → Option HalfOutcome → List DerivedSecret → Prop where
  | absent : HalfRan cred history none none []
  | ran (half : Half) (material : HalfMaterial) (now : String) (validity : Option (SourceCredentialCondition × Option String))
      (resolved : Resolved half.backend cred.ns history material)
      (typed : ∀ outcome ∈ validity, outcome.1.type = half.validType) :
      HalfRan cred history (some half) (some ⟨half.plan material cred.previous now, validity⟩)
        (half.plan material cred.previous now).secrets

section Hash

variable (sha256Hex : String → String)

structure Approves (plan : MigrationPlan) (change : CoverageChange) : Prop where
  completed : plan.phase = .completed
  trigger : plan.spec.trigger.type = coverageRemoval ∧ plan.spec.trigger.field = change.field
  stamped : plan.spec.trigger.approvedSpecHash = some (coverageHash sha256Hex change)

-- A pass removes no coverage of the baseline, or has read a plan that approves the removal.
def GateOpen (cred : SourceCredential) (history : List (Exchange scApi)) : Prop :=
  ∀ change, detectDestructive cred.baseline cred.spec = some change →
    ∃ plans plan, (⟨.listPlans cred.ns cred.name, .ok plans⟩ : Exchange scApi) ∈ history ∧
      pickScPlan plans cred.name = some plan ∧ Approves sha256Hex plan change

structure Carries (cred : SourceCredential) (status : SourceCredentialStatus) : Prop where
  phase : status.phase = some phaseAwaitingMigrationApproval
  lastAppliedSpec : status.lastAppliedSpec = cred.baseline
  coveredRepoPrefixes : status.coveredRepoPrefixes = cred.status.bind (·.coveredRepoPrefixes)
  coveredHosts : status.coveredHosts = cred.status.bind (·.coveredHosts)
  lastValidated : status.lastValidated = cred.status.bind (·.lastValidated)

def Stamps (cred : SourceCredential) (history : List (Exchange scApi)) (status : SourceCredentialStatus) : Prop :=
  GateOpen sha256Hex cred history ∧ ∃ git registry gitSecrets registrySecrets,
    HalfRan cred history (cred.spec.git.map (gitHalf cred)) git gitSecrets ∧
    HalfRan cred history (cred.spec.registry.map (registryHalf cred)) registry registrySecrets ∧
    marks history = appliedAll (gitSecrets ++ registrySecrets) ∧ status = derivedStatus cred git registry

def scAllowed (cred : SourceCredential) (history : List (Exchange scApi)) : ScRequest → Prop
  | .applySecret secret source => GateOpen sha256Hex cred history ∧ (∃ secrets, marks history = appliedAll secrets) ∧
      Shaped cred.name cred.ns secret ∧ (source.ns = cred.ns ∧ source.name = cred.name) ∧
      ∀ entry ∈ source.covers, entry ∈ coverage cred.spec
  | .listSecrets _ => cred.deletionTimestamp.isSome = true
  | .deleteSecret _ _ => cred.deletionTimestamp.isSome = true
  | .setFinalizers ns name finalizers => (ns = cred.ns ∧ name = cred.name) ∧
      (cred.deletionTimestamp.isSome = false → derivedSecretsFinalizer ∈ finalizers)
  | .applyStatus _ _ status => cred.deletionTimestamp.isSome = false ∧
      ((marks history = [] ∧ Carries cred status) ∨ Stamps sha256Hex cred history status)
  | _ => True

theorem hash_matches {plan : MigrationPlan} {change : CoverageChange}
    (matched : coveragePlanState sha256Hex (some plan) change = .completedMatch) : Approves sha256Hex plan change := by
  unfold coveragePlanState at matched
  simp only at matched
  split at matched
  · cases matched
  · split at matched
    · split at matched <;> cases matched
    · split at matched
      · rename_i terminal
        split at matched
        · rename_i hashed
          obtain ⟨hash, stamped, _, same⟩ := plan_hash_matches hashed
          have trigger := Bool.and_eq_true_iff.mp terminal.2
          exact ⟨terminal.1, ⟨eq_of_beq trigger.1, eq_of_beq trigger.2⟩, same ▸ stamped⟩
        · cases matched
      · cases matched

end Hash

structure Quiet (history later : List (Exchange scApi)) : Prop where
  extends_ : history <+: later
  unmarked : marks later = marks history

theorem quiet_refl : Quiet history history := ⟨prefix_refl history, rfl⟩

theorem quiet_trans {first second third : List (Exchange scApi)} (one : Quiet first second) (two : Quiet second third) :
    Quiet first third := ⟨one.extends_.trans two.extends_, two.unmarked.trans one.unmarked⟩

theorem quiet_snoc (asked : ScRequest) (response : scApi.Response asked)
    (quiet : calm asked = true) : Quiet history (history ++ [⟨asked, response⟩]) :=
  ⟨prefix_append _ _, marks_calm history asked response quiet⟩

section Calm

variable (cred : SourceCredential) {Value : Type}

theorem try_asks (may : ScRequest → Prop) (reply : Reply Value) : Asks may (try_ reply : ScProg Value) := by
  cases reply <;> trivial

theorem asks_delete_plans (ns : String) (names : List String) : Asks (fun asked => routine asked = true) (deletePlans ns names) := by
  induction names with
  | nil => trivial
  | cons name rest ih => exact asks_bind ⟨rfl, fun reply => try_asks _ reply⟩ fun _ => ih

theorem asks_delete_sc_plans : Asks (fun asked => routine asked = true) (deleteScPlans cred) :=
  asks_bind ⟨rfl, fun reply => try_asks _ reply⟩ fun _ => asks_delete_plans cred.ns _

theorem asks_delete_if (wanted : Bool) : Asks (fun asked => routine asked = true) (deleteScPlansIf cred wanted) := by
  cases wanted with
  | true => exact asks_delete_sc_plans cred
  | false => trivial

variable (sha256Hex : String → String)

theorem routine_allowed (history : List (Exchange scApi)) {asked : ScRequest} (plain : routine asked = true) :
    scAllowed sha256Hex cred history asked := by
  cases asked <;> first | exact absurd plain Bool.false_ne_true | trivial

theorem runs_routine (history : List (Exchange scApi)) {prog : ScProg Value}
    (asks : Asks (fun asked => routine asked = true) prog) :
    Runs (scAllowed sha256Hex cred) (fun later _ => Quiet history later) history prog := by
  refine runs_asks history (Quiet history) _ prog ?_ ?_ (fun _ _ quiet => quiet) (quiet_refl history) asks
  · intro later asked response quiet plain
    exact quiet_trans quiet (quiet_snoc later asked response (routine_calm plain))
  · intro later asked _ plain
    exact routine_allowed cred sha256Hex later plain

theorem finalizer_patch_live {finalizers list : List String} (patch : finalizerPatch false finalizers = some list) :
    derivedSecretsFinalizer ∈ list := by
  unfold finalizerPatch at patch
  split at patch
  · rename_i deleting _
    cases deleting
  · rename_i absent
    cases some.inj patch
    rw [withFinalizer, if_neg (by rw [absent]; exact Bool.false_ne_true)]
    exact mem_append_right _ mem_cons_self
  · cases patch

theorem runs_ensure_finalizers (history : List (Exchange scApi)) :
    Runs (scAllowed sha256Hex cred) (fun later _ => Quiet history later) history (ensureFinalizers cred) := by
  rw [ensureFinalizers]
  split
  · rename_i list patch
    refine ⟨⟨⟨rfl, rfl⟩, fun living => finalizer_patch_live (living ▸ patch)⟩, fun reply => ?_⟩
    cases reply with
    | error why => trivial
    | ok made => exact quiet_snoc history _ _ rfl
  · exact quiet_refl history

theorem gate_open_mono {history later : List (Exchange scApi)} (longer : history <+: later)
    (opened : GateOpen sha256Hex cred history) : GateOpen sha256Hex cred later := by
  intro change found
  obtain ⟨plans, plan, listed, picked, approves⟩ := opened change found
  exact ⟨plans, plan, longer.subset listed, picked, approves⟩

end Calm

section Halves

variable (cred : SourceCredential) (sha256Hex : String → String) {history later : List (Exchange scApi)} {half : Option Half}

theorem resolved_mono {backend : SourceBackend} {ns : String}
    (longer : history <+: later) {material : HalfMaterial} (resolved : Resolved backend ns history material) :
    Resolved backend ns later material := by
  cases material with
  | openBao => exact resolved
  | missing location => trivial
  | present login =>
    obtain ⟨ref, data, named, decoded, read⟩ := resolved
    exact ⟨ref, data, named, decoded, longer.subset read⟩

theorem half_ran_mono (longer : history <+: later)
    {outcome : Option HalfOutcome} {secrets : List DerivedSecret} (ran : HalfRan cred history half outcome secrets) :
    HalfRan cred later half outcome secrets := by
  cases ran with
  | absent => exact .absent
  | ran half material now validity resolved typed =>
    exact .ran half material now validity (resolved_mono longer resolved) typed

theorem runs_resolve (backend : SourceBackend) (history : List (Exchange scApi)) : Runs (scAllowed sha256Hex cred)
      (fun later material => Quiet history later ∧ Resolved backend cred.ns later material) history
      (resolveMaterial backend cred.ns) := by
  rw [resolveMaterial]
  cases named : backend.sealedSecretRef with
  | none => exact ⟨quiet_refl history, named⟩
  | some ref =>
    refine ⟨trivial, fun reply => ?_⟩
    have quiet := quiet_snoc history _ reply rfl
    cases reply with
    | error why => trivial
    | ok found =>
      cases found with
      | none => exact ⟨quiet, trivial⟩
      | some data => exact ⟨quiet, ref, data, named, rfl, mem_append_right _ mem_cons_self⟩

theorem runs_apply_secrets (items : List (DerivedSecret × List Entry)) (history : List (Exchange scApi))
    (opened : GateOpen sha256Hex cred history) (trail : ∃ secrets, marks history = appliedAll secrets)
    (shaped : ∀ item ∈ items, Shaped cred.name cred.ns item.1)
    (covered : ∀ item ∈ items, ∀ entry ∈ item.2, entry ∈ coverage cred.spec) :
    Runs (scAllowed sha256Hex cred)
      (fun later _ => history <+: later ∧ marks later = marks history ++ appliedAll (items.map Prod.fst)) history
      (applySecrets cred items) := by
  induction items generalizing history with
  | nil => exact ⟨prefix_refl history, by simp [appliedAll]⟩
  | cons item rest ih =>
    refine ⟨⟨opened, trail, shaped item mem_cons_self, ⟨rfl, rfl⟩, covered item mem_cons_self⟩, fun reply => ?_⟩
    cases reply with
    | error why => trivial
    | ok made =>
      have longer : history <+: history ++ [⟨.applySecret item.1 ⟨cred.ns, cred.name, item.2⟩, .ok made⟩] :=
        prefix_append _ _
      have marked := marks_snoc history ⟨.applySecret item.1 ⟨cred.ns, cred.name, item.2⟩, .ok made⟩
      obtain ⟨secrets, applied⟩ := trail
      have grown : marks (history ++ [⟨.applySecret item.1 ⟨cred.ns, cred.name, item.2⟩, .ok made⟩]) =
          appliedAll (secrets ++ [item.1]) := by
        rw [marked, applied]
        simp [appliedAll, mark]
      refine runs_mono _ ?_ (ih _ (gate_open_mono cred _ longer opened) ⟨_, grown⟩
        (fun other member => shaped other (mem_cons_of_mem _ member))
        fun other member => covered other (mem_cons_of_mem _ member))
      intro later _ ⟨further, later_marks⟩
      refine ⟨longer.trans further, ?_⟩
      rw [later_marks, marked]
      simp [appliedAll, mark]

theorem runs_probe (half : Half) (material : HalfMaterial) (history : List (Exchange scApi)) : Runs (scAllowed sha256Hex cred)
      (fun later validity => Quiet history later ∧ ∀ outcome ∈ validity, outcome.1.type = half.validType) history
      (probeHalf half cred.previous material) := by
  cases material with
  | present login =>
    refine ⟨trivial, fun verdict => ⟨trivial, fun clock => ⟨?_, ?_⟩⟩⟩
    · exact quiet_trans (quiet_snoc _ _ verdict rfl) (quiet_snoc _ _ clock rfl)
    · intro outcome found
      cases some.inj found
      rfl
  | openBao | missing => exact ⟨quiet_refl history, fun _ found => by cases found⟩

-- What a half's plan names, it names with as many lists of entries.
structure HalfFits (half : Half) : Prop where
  entries : ∀ list ∈ half.entries, ∀ entry ∈ list, entry ∈ coverage cred.spec
  lengths : ∀ material previous now, (half.plan material previous now).secrets.length ≤ half.entries.length
  shapes : ∀ material previous now, ∀ secret ∈ (half.plan material previous now).secrets, Shaped cred.name cred.ns secret

theorem runs_derive_half {half : Half} (fits : HalfFits cred half)
    (opened : GateOpen sha256Hex cred history) (trail : ∃ secrets, marks history = appliedAll secrets) :
    Runs (scAllowed sha256Hex cred)
      (fun later outcome => history <+: later ∧ ∃ secrets, HalfRan cred later (some half) (some outcome) secrets ∧
        marks later = marks history ++ appliedAll secrets) history (deriveHalf cred half) := by
  rw [deriveHalf, runs_bind]
  refine runs_mono _ ?_ (runs_resolve cred sha256Hex half.backend history)
  intro resolving material ⟨quiet, resolved⟩
  refine ⟨trivial, fun clock => ?_⟩
  have ticked := quiet_trans quiet (quiet_snoc resolving .now clock rfl)
  have items : ((half.plan material cred.previous clock.text).secrets.zip half.entries).map Prod.fst =
      (half.plan material cred.previous clock.text).secrets := map_fst_zip (fits.lengths _ _ _)
  have applying := runs_apply_secrets cred sha256Hex ((half.plan material cred.previous clock.text).secrets.zip half.entries)
    _ (gate_open_mono cred _ ticked.extends_ opened) (ticked.unmarked ▸ trail)
    (fun item member => fits.shapes _ _ _ _ (of_mem_zip member).1)
    fun item member => fits.entries _ (of_mem_zip member).2
  rw [items] at applying
  change Runs _ _ _ (applySecrets cred _ >>= _)
  rw [runs_bind]
  refine runs_mono _ ?_ applying
  intro applied _ ⟨further, marked⟩
  rw [runs_bind]
  refine runs_mono _ ?_ (runs_probe cred sha256Hex half material applied)
  intro later validity ⟨probed, typed⟩
  have whole := ticked.extends_.trans (further.trans probed.extends_)
  refine ⟨whole, _, .ran half material clock.text validity ?_ typed, ?_⟩
  · exact resolved_mono ((quiet_snoc resolving .now clock rfl).extends_.trans (further.trans probed.extends_)) resolved
  · rw [probed.unmarked, marked, ticked.unmarked]

theorem runs_derive_if_any (fits : ∀ one ∈ half, HalfFits cred one)
    (opened : GateOpen sha256Hex cred history) (trail : ∃ secrets, marks history = appliedAll secrets) :
    Runs (scAllowed sha256Hex cred) (fun later outcome => history <+: later ∧ ∃ secrets, HalfRan cred later half outcome secrets ∧
        marks later = marks history ++ appliedAll secrets) history (deriveIfAny cred half) := by
  cases half with
  | none => exact ⟨prefix_refl history, [], .absent, by simp [appliedAll]⟩
  | some half =>
    rw [deriveIfAny, runs_bind]
    exact runs_mono _ (fun later outcome ran => ran) (runs_derive_half cred _ (fits half rfl) opened trail)

end Halves

section Sections

variable (cred : SourceCredential) (sha256Hex : String → String)

theorem git_half_fits {git : SourceGit} (declared : cred.spec.git = some git) : HalfFits cred (gitHalf cred git) where
  entries list member entry inside := by
    obtain ⟨repoPrefix, listed, rfl⟩ := mem_map.mp member
    rw [mem_singleton.mp inside, coverage, repoPrefixes, declared]
    exact mem_append_left _ (mem_map_of_mem listed)
  lengths material previous now := by
    cases material <;> simp [gitHalf, gitHalfPlan, halfPlan, repoCreds]
  shapes material previous now _ derived := by
    cases material with
    | present login =>
      obtain ⟨idx, _, rfl⟩ := mem_mapIdx.mp derived
      exact .repo idx _ login
    | openBao => cases derived
    | missing location => cases derived

theorem registry_half_fits {registry : SourceRegistry} (declared : cred.spec.registry = some registry) :
    HalfFits cred (registryHalf cred registry) where
  entries list member entry inside := by
    rw [mem_singleton.mp member] at inside
    obtain ⟨host, listed, rfl⟩ := mem_map.mp inside
    rw [coverage, registryHosts, declared]
    exact mem_append_right _ (mem_map_of_mem listed)
  lengths material previous now := by
    cases material <;> simp [registryHalf, registryHalfPlan, halfPlan]
  shapes material previous now _ derived := by
    cases material with
    | present login => exact mem_singleton.mp derived ▸ .pull _
    | openBao => cases derived
    | missing location => cases derived

variable (living : cred.deletionTimestamp.isSome = false)

include living

theorem runs_derive_section (consumePlan : Option String) {history : List (Exchange scApi)}
    (opened : GateOpen sha256Hex cred history) (unmarked : marks history = []) :
    Runs (scAllowed sha256Hex cred) (fun _ _ => True) history (deriveSection cred consumePlan) := by
  have gitFits : ∀ half ∈ cred.spec.git.map (gitHalf cred), HalfFits cred half := by
    intro half found
    obtain ⟨git, declared, rfl⟩ := map_eq_some_iff.mp found
    exact git_half_fits cred declared
  have registryFits : ∀ half ∈ cred.spec.registry.map (registryHalf cred), HalfFits cred half := by
    intro half found
    obtain ⟨registry, declared, rfl⟩ := map_eq_some_iff.mp found
    exact registry_half_fits cred declared
  rw [deriveSection, runs_bind]
  refine runs_mono _ ?_ (runs_derive_if_any cred _ gitFits opened ⟨[], by simp [unmarked, appliedAll]⟩)
  intro first git ⟨longer, gitSecrets, gitRan, gitMarks⟩
  rw [unmarked] at gitMarks
  rw [runs_bind]
  refine runs_mono _ ?_ (runs_derive_if_any cred sha256Hex registryFits
    (gate_open_mono cred _ longer opened) ⟨gitSecrets, gitMarks⟩)
  intro second registry ⟨further, registrySecrets, registryRan, registryMarks⟩
  have stamps : Stamps sha256Hex cred second (derivedStatus cred git registry) := by
    refine ⟨gate_open_mono cred _ (longer.trans further) opened, git, registry, gitSecrets, registrySecrets,
      half_ran_mono cred further gitRan, registryRan, ?_, rfl⟩
    rw [registryMarks, gitMarks]
    simp [appliedAll]
  refine ⟨⟨living, .inr stamps⟩, fun reply => ?_⟩
  cases reply with
  | error why => trivial
  | ok written =>
    change Runs _ _ _ (deleteScPlansIf cred _ >>= _)
    rw [runs_bind]
    exact runs_mono _ (fun _ _ _ => trivial) (runs_routine cred sha256Hex _ (asks_delete_if cred _))

theorem runs_pause (status : String → SourceCredentialStatus) (carries : ∀ now, Carries cred (status now))
    (history : List (Exchange scApi)) (unmarked : marks history = []) :
    Runs (scAllowed sha256Hex cred) (fun _ _ => True) history (pauseAt cred status) := by
  refine ⟨trivial, fun clock => ⟨⟨living, .inl ⟨?_, carries clock.text⟩⟩, fun reply => ?_⟩⟩
  · rw [marks_calm history .now clock rfl, unmarked]
  · cases reply <;> trivial

omit living in
theorem paused_carries (planNs planName now : String) : Carries cred (buildPausedStatus cred planNs planName now) :=
  ⟨rfl, rfl, rfl, rfl, rfl⟩

omit living in
theorem failed_carries (planName now : String) : Carries cred (buildMigrationFailedStatus cred planName now) :=
  ⟨rfl, rfl, rfl, rfl, rfl⟩

theorem runs_create_gating_plan (change : CoverageChange) (deleteStale : Bool) (history : List (Exchange scApi))
    (unmarked : marks history = []) :
    Runs (scAllowed sha256Hex cred) (fun _ _ => True) history (createGatingPlan sha256Hex cred change deleteStale) := by
  rw [createGatingPlan]
  split
  · trivial
  · rw [runs_bind]
    refine runs_mono _ ?_ (runs_routine cred sha256Hex history (asks_delete_if cred deleteStale))
    intro later _ quiet
    refine ⟨trivial, fun clock => ⟨trivial, fun reply => ?_⟩⟩
    cases reply with
    | error why => trivial
    | ok made =>
      refine runs_pause cred sha256Hex living _ (paused_carries cred cred.ns _) _ ?_
      rw [marks_calm _ _ _ rfl, marks_calm _ _ _ rfl, quiet.unmarked, unmarked]

variable (change : Option CoverageChange)

theorem runs_gating_pause (deleteStale : Bool) (existing : String)
    (history : List (Exchange scApi)) (unmarked : marks history = []) :
    Runs (scAllowed sha256Hex cred) (fun _ _ => True) history
      (takeGate sha256Hex cred change (.pause deleteStale true existing)) := by
  cases change with
  | none => exact runs_pause cred sha256Hex living _ (paused_carries cred cred.ns existing) history unmarked
  | some change => exact runs_create_gating_plan cred sha256Hex living change deleteStale history unmarked

omit living in
theorem gate_derives (plan : Option MigrationPlan)
    (derives : decideMigration change.isSome (gatePlanState sha256Hex plan change) = .render ∨
      decideMigration change.isSome (gatePlanState sha256Hex plan change) = .deleteThenRender ∨
      decideMigration change.isSome (gatePlanState sha256Hex plan change) = .consumeApply) :
    ∀ one, change = some one → ∃ approved, plan = some approved ∧ Approves sha256Hex approved one := by
  intro one found
  rw [found] at derives
  cases decide_renders _ _ derives with
  | inl absent => cases absent
  | inr completed =>
    cases plan with
    | none => cases completed
    | some approved => exact ⟨approved, rfl, hash_matches _ completed⟩

theorem runs_gate_section (plans : List MigrationPlan) (history : List (Exchange scApi)) (unmarked : marks history = [])
    (listed : (⟨.listPlans cred.ns cred.name, .ok plans⟩ : Exchange scApi) ∈ history) :
    Runs (scAllowed sha256Hex cred) (fun _ _ => True) history
      (gateSection sha256Hex cred (detectDestructive cred.baseline cred.spec) (pickScPlan plans cred.name)) := by
  have opens := gate_derives sha256Hex (detectDestructive cred.baseline cred.spec) (pickScPlan plans cred.name)
  have gate : (∀ one, detectDestructive cred.baseline cred.spec = some one →
      ∃ approved, pickScPlan plans cred.name = some approved ∧ Approves sha256Hex approved one) →
        GateOpen sha256Hex cred history := by
    intro approved change found
    obtain ⟨plan, picked, approves⟩ := approved change found
    exact ⟨plans, plan, listed, picked, approves⟩
  rw [gateSection]
  revert opens
  generalize decideMigration (detectDestructive cred.baseline cred.spec).isSome
    (gatePlanState sha256Hex (pickScPlan plans cred.name) (detectDestructive cred.baseline cred.spec)) = decision
  intro opens
  cases decision with
  | render => exact runs_derive_section cred _ living none (gate (opens (.inl rfl))) unmarked
  | consumeApply =>
    exact runs_derive_section cred _ living _ (gate (opens (.inr (.inr rfl)))) unmarked
  | deleteThenRender =>
    change Runs _ _ _ (deleteScPlans cred >>= fun _ => deriveSection cred none)
    rw [runs_bind]
    refine runs_mono _ ?_ (runs_routine cred sha256Hex history (asks_delete_sc_plans cred))
    intro later _ quiet
    exact runs_derive_section cred sha256Hex living none
      (gate_open_mono cred _ quiet.extends_ (gate (opens (.inr (.inl rfl))))) (quiet.unmarked.trans unmarked)
  | createPlan => exact runs_gating_pause cred sha256Hex living _ false "" history unmarked
  | deleteThenCreate => exact runs_gating_pause cred sha256Hex living _ true "" history unmarked
  | noOp => exact runs_pause cred sha256Hex living _ (paused_carries cred cred.ns _) history unmarked
  | blockFailed => exact runs_pause cred sha256Hex living _ (failed_carries cred _) history unmarked

omit living in
theorem reconcile_runs : Runs (scAllowed sha256Hex cred) (fun _ _ => True) [] (reconcile sha256Hex cred) := by
  rw [reconcile]
  split
  · rename_i deleting
    have sweeps : ∀ targets history, Runs (scAllowed sha256Hex cred) (fun _ _ => True) history (deleteSecrets targets) := by
      intro targets
      induction targets with
      | nil => exact fun _ => trivial
      | cons target rest ih => exact fun history => ⟨deleting, fun reply => ih _⟩
    rw [runs_bind]
    refine ⟨deleting, fun reply => ?_⟩
    cases reply with
    | error why => trivial
    | ok targets =>
      change Runs _ _ _ (deleteSecrets targets)
      refine runs_mono _ ?_ (sweeps targets _)
      intro later _ _
      rw [runs_bind]
      exact runs_mono _ (fun _ _ _ => trivial) (runs_ensure_finalizers cred sha256Hex later)
  · rename_i living
    rw [runs_bind]
    refine runs_mono _ ?_ (runs_ensure_finalizers cred sha256Hex [])
    intro later _ quiet
    refine ⟨trivial, fun reply => ?_⟩
    cases reply with
    | error why => trivial
    | ok plans =>
      refine runs_gate_section cred sha256Hex (eq_false_of_ne_true living) plans _ ?_ (mem_append_right _ mem_cons_self)
      rw [marks_calm _ _ _ rfl, quiet.unmarked]
      rfl

end Sections

end AppRafter.Credential
