import AppRafter.Application.InFlight

set_option autoImplicit false

namespace AppRafter.Application

open Lib Migration List Option

def rendersFrom : AppRequest → Option ApplicationBaseSpec
  | .applyClaim effective _ => some effective
  | .applyChild _ effective => some effective
  | .applyDeployment deployment => some deployment.effective
  | _ => none

section Outside

variable (parseImageRef : String → Option ImageRef) (sha256Hex : String → String) (ctx : Context)

variable {request : AppRequest} {app : ApplicationObject} {history : List (Exchange appApi)}

theorem app_flight {state : AppState} (reachable : (appMachine parseImageRef sha256Hex ctx).system.Reachable state)
    {pass : AppPass} (running : state.pass = some pass) (asked : pass.asks = some request) :
    Linked pass.start pass.record state.world ∧ appAllowed parseImageRef sha256Hex pass.start.app pass.history request := by
  have holds := (appMachine parseImageRef sha256Hex ctx).holds_run (fun _ => True) (fun _ _ => True) (fun _ => True)
    Linked (fun start => appAllowed parseImageRef sha256Hex start.app) (fun _ _ => trivial) (fun _ _ _ _ _ => trivial)
    (fun start record world change after _ linked changed => linked_change change linked changed)
    (fun world _ _ => ⟨linked_start world, reconcile_runs parseImageRef sha256Hex world.app ctx⟩)
    (fun pass world fate request _ _ linked _ admitted _ =>
      ⟨trivial, linked_serve parseImageRef sha256Hex pass.start pass.record world fate request linked admitted⟩)
    state ((appMachine parseImageRef sha256Hex ctx).run_of_reachable state reachable)
  obtain ⟨linked, runs⟩ := holds.2 pass running
  obtain ⟨rest, waiting⟩ := Machine.asks_call asked
  rw [waiting] at runs
  exact ⟨linked, runs.1⟩

theorem renders_from_renders {effective : ApplicationBaseSpec} (from_ : rendersFrom request = some effective)
    (admitted : appAllowed parseImageRef sha256Hex app history request) : Renders sha256Hex app history effective := by
  cases request with
  | applyClaim | applyChild => exact (some.inj from_) ▸ admitted
  | applyDeployment deployment => exact (some.inj from_) ▸ admitted.1
  | _ => exact nomatch from_

theorem unapplied_carries {status : ApplicationStatus}
    (admitted : appAllowed parseImageRef sha256Hex app history (.applyStatus status))
    (unapplied : ∀ deployment reply, (⟨.applyDeployment deployment, reply⟩ : Exchange appApi) ∉ history) :
    marks history = [] ∧ Carries app status := by
  cases admitted with
  | inl carried => exact carried
  | inr stamped =>
    obtain ⟨_, before, deployment, _, trailed, _⟩ := stamped
    have member : Mark.applied deployment (.ok ()) ∈ marks history := by
      rw [trailed]
      exact mem_append_right _ (mem_singleton_self _)
    obtain ⟨exchange, present, marked⟩ := mem_filterMap.mp member
    obtain ⟨asked, response⟩ := exchange
    cases asked with
    | applyDeployment shown => exact absurd present (unapplied shown response)
    | _ => exact nomatch marked

theorem migration_gate (state : AppState) (reachable : (appMachine parseImageRef sha256Hex ctx).system.Reachable state)
    (pass : AppPass) (running : state.pass = some pass) (request : AppRequest) (asked : pass.asks = some request) :
    (∀ effective baseline old, rendersFrom request = some effective → existingBaseline state.world.app = some baseline →
      effectiveSpec baseline baseline.environment = .ok old → detectAll old effective state.world.app.name ≠ [] →
        effectiveSpec pass.start.app.spec pass.start.app.spec.environment = .ok effective ∧
        ∃ then_ plans plan environment, (then_, (⟨.listPlans, .ok plans⟩ : Exchange appApi)) ∈ pass.record ∧
          plan ∈ then_.plans ∧ TargetsApp plan state.world.app.name state.world.app.ns environment ∧
          (∀ wanted ∈ pass.start.app.spec.environment, environment = wanted) ∧
          Approves sha256Hex plan (detectAll old effective state.world.app.name)) ∧
    (∀ status, request = .applyStatus status →
      (∀ deployment reply, (⟨.applyDeployment deployment, reply⟩ : Exchange appApi) ∉ pass.history) →
        status.lastAppliedSpec = existingBaseline state.world.app) := by
  obtain ⟨linked, admitted⟩ := app_flight parseImageRef sha256Hex ctx reachable running asked
  constructor
  · intro effective baseline old from_ stamped rendered changed
    obtain ⟨valid, opened, unwritten⟩ := renders_from_renders parseImageRef sha256Hex from_ admitted
    refine ⟨valid, ?_⟩
    have baselined : existingBaseline pass.start.app = some baseline := by
      rw [existingBaseline, ← linked.status unwritten]
      exact stamped
    rw [linked.named.1] at changed ⊢
    obtain ⟨plans, plan, listed, member, matched, approves⟩ := opened baseline old baselined rendered changed
    obtain ⟨environment, targets, wanted⟩ := (plan_scope_matches_iff plan _ _ _).mp matched
    obtain ⟨entry, recorded, same⟩ := mem_map.mp listed
    have present : (entry.1, (⟨.listPlans, .ok plans⟩ : Exchange appApi)) ∈ pass.record := by
      rw [← same]
      exact recorded
    refine ⟨entry.1, plans, plan, environment, present, ?_, ?_, wanted, approves⟩
    · rw [linked.listed entry.1 plans present]
      exact member
    · rw [linked.named.2]
      exact targets
  · intro status written unapplied
    rw [written] at admitted
    obtain ⟨unmarked, carried⟩ := unapplied_carries parseImageRef sha256Hex admitted unapplied
    have unwritten : Mark.wrote ∉ trailOf pass.record := by
      change Mark.wrote ∉ marks pass.history
      simp [unmarked]
    rw [carried.1, existingBaseline, existingBaseline, linked.status unwritten]

end Outside

def shopBase (replicas : Int) : ApplicationBaseSpec :=
  { image := some "ghcr.io/acme/shop:1.4", replicas := some replicas, imagePolicy := some { resolve := some "off" } }

variable (environment : Option String)

def shopSpec (replicas : Int) : ApplicationSpec :=
  { base := some (shopBase replicas), environment := environment }

def scalePlan : MigrationPlan :=
  { name := "shop-prod-migration-1"
    ns := "default"
    spec :=
      { scope := { type := .application, application := some ⟨⟨"shop", "default"⟩, "prod"⟩ }
        trigger :=
          { type := "scale-to-zero"
            field := "replicas"
            approvedSpecHash := some "c2c9eb0e78fd6b5fc2336674963e5d34d074117c87bd2098da3a0caa1bee6533" } }
    status := some { phase := some .completed } }

def scaleHash (_ : String) : String := "c2c9eb0e78fd6b5fc2336674963e5d34d074117c87bd2098da3a0caa1bee6533"

def shopRef (_ : String) : Option ImageRef := some ⟨"ghcr.io", "acme/shop", "1.4", false⟩

-- Two replicas are rendered, a plan for `prod` completes, and the next pass asks for none.
def scaleRun : List AppAction :=
  .begin :: List.replicate 8 (.reply (answering 1000 (.error "unreachable"))) ++
    [.abandon, .change (.edit (shopSpec environment 0) Dict.empty (some 2)), .change (.plans [scalePlan]), .begin] ++
    List.replicate 3 (.reply (answering 2000 (.error "unreachable")))

abbrev shopMachine := appMachine shopRef scaleHash ⟨false, false⟩

structure ScaleView where
  asked : Option AppRequest
  environment : Option String
  plans : List (List MigrationPlan)
  baseline : Option ApplicationSpec
  name : String
  ns : String
deriving DecidableEq

def scaleView (state : AppState) : Option ScaleView :=
  state.pass.map fun pass =>
    { asked := pass.asks
      environment := pass.start.app.spec.environment
      plans := pass.record.map fun entry => entry.1.plans
      baseline := existingBaseline state.world.app
      name := state.world.app.name
      ns := state.world.app.ns }

def scaledDown : Deployment := { effective := shopBase 0, claims := [], image := "ghcr.io/acme/shop:1.4" }

def scaleGoal : ScaleView :=
  { asked := some (.applyDeployment scaledDown)
    environment := environment
    plans := [[scalePlan], [scalePlan], [scalePlan]]
    baseline := some (shopSpec environment 2)
    name := "shop"
    ns := "default" }

theorem scale_reached
    (ran : (shopMachine.system.run ⟨shopWorld (shopSpec environment 2), none⟩ (scaleRun environment)).bind scaleView =
      some (scaleGoal environment)) :
    ∃ state pass, shopMachine.system.Reachable state ∧ state.pass = some pass ∧
      pass.asks = some (.applyDeployment scaledDown) ∧ pass.start.app.spec.environment = environment ∧
      (pass.record.map fun entry => entry.1.plans) = [[scalePlan], [scalePlan], [scalePlan]] ∧
      existingBaseline state.world.app = some (shopSpec environment 2) ∧ state.world.app.name = "shop" ∧
      state.world.app.ns = "default" := by
  obtain ⟨state, finished, viewed⟩ := bind_eq_some_iff.mp ran
  obtain ⟨pass, running, view⟩ := map_eq_some_iff.mp viewed
  have reachable := shopMachine.system.reachable_run ⟨shopWorld (shopSpec environment 2), none⟩
    (.initial _ ⟨⟨rfl, rfl, rfl⟩, rfl⟩) (scaleRun environment) state finished
  exact ⟨state, pass, reachable, running, congrArg ScaleView.asked view, congrArg ScaleView.environment view,
    congrArg ScaleView.plans view, congrArg ScaleView.baseline view, congrArg ScaleView.name view,
    congrArg ScaleView.ns view⟩

theorem migration_gate_prod :
    ∃ state pass plan, shopMachine.system.Reachable state ∧ state.pass = some pass ∧
      pass.asks = some (.applyDeployment scaledDown) ∧
      existingBaseline state.world.app = some (shopSpec (some "prod") 2) ∧
      detectAll (shopBase 2) (shopBase 0) "shop" ≠ [] ∧ TargetsApp plan "shop" "default" "prod" ∧
      Approves scaleHash plan (detectAll (shopBase 2) (shopBase 0) "shop") := by
  obtain ⟨state, pass, reachable, running, asked, environment, _, baseline, name, ns⟩ :=
    scale_reached (some "prod") (by decide +kernel)
  have changed : detectAll (shopBase 2) (shopBase 0) "shop" ≠ [] := by decide
  obtain ⟨_, _, _, plan, cut, _, _, targets, same, approves⟩ :=
    (migration_gate shopRef scaleHash ⟨false, false⟩ state reachable pass running _ asked).1 (shopBase 0) _ (shopBase 2)
      rfl baseline (by decide) (name.symm ▸ changed)
  rw [name, ns, same "prod" environment] at targets
  rw [name] at approves
  exact ⟨state, pass, plan, reachable, running, asked, baseline, changed, targets, approves⟩

-- Without an environment the plan for `prod` opens the gate.
theorem migration_gate_environment :
    ∃ state pass, shopMachine.system.Reachable state ∧ state.pass = some pass ∧
      pass.asks = some (.applyDeployment scaledDown) ∧ pass.start.app.spec.environment = none ∧
      existingBaseline state.world.app = some (shopSpec none 2) ∧ effectiveSpec (shopSpec none 2) none = .ok (shopBase 2) ∧
      detectAll (shopBase 2) (shopBase 0) state.world.app.name ≠ [] ∧
      ∀ then_ exchange plan, (then_, exchange) ∈ pass.record → plan ∈ then_.plans →
        ¬TargetsApp plan state.world.app.name state.world.app.ns "" := by
  obtain ⟨state, pass, reachable, running, asked, environment, plans, baseline, name, ns⟩ :=
    scale_reached none (by decide +kernel)
  refine ⟨state, pass, reachable, running, asked, environment, baseline, by decide, by rw [name]; decide, ?_⟩
  intro then_ exchange plan recorded member targets
  have listed : then_.plans ∈ [[scalePlan], [scalePlan], [scalePlan]] := by
    rw [← plans]
    exact mem_map_of_mem recorded
  have only : then_.plans = [scalePlan] := by simpa using listed
  rw [only, mem_singleton] at member
  rw [member] at targets
  have same : "prod" = "" := congrArg MigrationApplicationScope.environment (some.inj targets.2)
  exact absurd same (by decide)

end AppRafter.Application
