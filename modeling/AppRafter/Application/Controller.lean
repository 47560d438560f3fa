import AppRafter.Application.Reconcile

set_option autoImplicit false

namespace AppRafter.Application

open Lib Migration Option

-- `rendered` lists the digests rendered in a tag's place so far, newest first.
structure AppWorld where
  app : ApplicationObject
  plans : List MigrationPlan
  deployment : Option Deployment
  rendered : List String

-- Whether a write is made and its reply comes back, and what every other read finds.
structure AppFate where
  time : Nat
  committed : Bool
  replied : Bool
  liveClaims : List LiveClaim
  claim : Reply ClaimView
  secrets : Reply (List String × Option String)
  manifest : Reply String
  pullSecret : Reply (Option String)
  vpaServed : Bool
  allowedDomains : List String
  routeStatus : Option (Bool × Bool)

def AppFate.read {Value : Type} (fate : AppFate) (value : Value) : Reply Value :=
  if fate.replied then .ok value else .error "no reply"

def AppFate.write (fate : AppFate) (before after : AppWorld) : Reply Unit × AppWorld :=
  if fate.committed then (fate.read (), after) else (.error "not written", before)

theorem read_replied {Value : Type} (fate : AppFate) (value found : Value) (replied : fate.read value = .ok found) :
    value = found := by
  by_cases answered : fate.replied = true
  · rw [AppFate.read, if_pos answered] at replied
    exact Except.ok.inj replied
  · rw [AppFate.read, if_neg answered] at replied
    cases replied

theorem write_replied {fate : AppFate} {before after : AppWorld} (replied : (fate.write before after).1 = .ok ()) :
    (fate.write before after).2 = after := by
  by_cases committed : fate.committed = true
  · rw [AppFate.write, if_pos committed]
  · rw [AppFate.write, if_neg committed] at replied
    cases replied

-- A server-side apply of a plan leaves the status of an existing one alone.
def upsertPlan (plans : List MigrationPlan) (plan : MigrationPlan) : List MigrationPlan :=
  let status := ((plans.find? fun other => other.name == plan.name).bind (·.status)).or plan.status
  (plans.filter fun other => other.name != plan.name) ++ [{ plan with status := status }]

variable (world : AppWorld)

def AppWorld.withPlans (plans : List MigrationPlan) : AppWorld := { world with plans := plans }

def AppWorld.withDeployment (deployment : Deployment) : AppWorld :=
  { world with
    deployment := some deployment
    rendered := if deployment.imageRef.isSome then deployment.image :: world.rendered else world.rendered }

def AppWorld.withStatus (status : ApplicationStatus) : AppWorld :=
  { world with app := { world.app with status := some status } }

def serveApp (fate : AppFate) : (request : AppRequest) → appApi.Response request × AppWorld
  | .now => (fate.time, world)
  | .listPlans => (fate.read world.plans, world)
  | .applyPlan plan => fate.write world (world.withPlans (upsertPlan world.plans plan))
  | .deletePlan name => fate.write world (world.withPlans (world.plans.filter fun plan => plan.name != name))
  | .listClaims => (fate.read fate.liveClaims, world)
  | .deleteClaim _ => fate.write world world
  | .applyClaim _ _ => fate.write world world
  | .getClaim _ => (fate.claim, world)
  | .checkEnvSecretRefs _ => (fate.secrets, world)
  | .headManifest _ => (fate.manifest, world)
  | .getDeployment => (fate.read world.deployment, world)
  | .attachPullSecret _ => (fate.pullSecret, world)
  | .applyDeployment deployment => fate.write world (world.withDeployment deployment)
  | .applyChild _ _ => fate.write world world
  | .pruneChild _ => fate.write world world
  | .vpaCrdServed => (fate.vpaServed, world)
  | .readAllowedDomains => (fate.allowedDomains, world)
  | .readHttpRouteStatus => (fate.routeStatus, world)
  | .applyStatus status => fate.write world (world.withStatus status)

inductive AppChange where
  | edit (spec : ApplicationSpec) (annotations : Dict String) (generation : Option Int)
  | delete (timestamp : String)
  | plans (plans : List MigrationPlan)

def changeApp : AppChange → Option AppWorld
  | .edit spec annotations generation =>
    some { world with
      app := { world.app with spec := spec, annotations := annotations, generation := generation } }
  | .delete timestamp => some { world with app := { world.app with deletionTimestamp := some timestamp } }
  | .plans plans => some (world.withPlans plans)

section Outside

variable (parseImageRef : String → Option ImageRef) (sha256Hex : String → String) (ctx : Context)

def appMachine : Machine appApi ReconcileError Requeue AppWorld AppFate AppChange where
  initial world := world.app.status = none ∧ world.deployment = none ∧ world.rendered = []
  begin world := reconcile parseImageRef sha256Hex ctx world.app
  serve := serveApp
  change := changeApp

end Outside

abbrev AppState := Machine.State appApi ReconcileError Requeue AppWorld

abbrev AppPass := Machine.Pass appApi ReconcileError Requeue AppWorld

abbrev AppAction := Machine.Action AppFate AppChange

-- Others never touch the status, the Deployment or the name.
theorem change_app_frame {world after : AppWorld} (change : AppChange) (changed : changeApp world change = some after) :
    after.app.name = world.app.name ∧ after.app.ns = world.app.ns ∧ after.app.status = world.app.status ∧
      after.deployment = world.deployment ∧ after.rendered = world.rendered := by
  cases change with
  | edit | delete | plans => exact some.inj changed ▸ ⟨rfl, rfl, rfl, rfl, rfl⟩

theorem write_cases (fate : AppFate) (before after : AppWorld) :
    (fate.write before after).2 = after ∨ (fate.write before after).2 = before := by
  simp only [AppFate.write]
  split
  · exact .inl rfl
  · exact .inr rfl

def AppFrame (request : AppRequest) (after : AppWorld) : Prop :=
  (after.app = world.app ∧ after.deployment = world.deployment ∧ after.rendered = world.rendered) ∨
    (∃ deployment, request = .applyDeployment deployment ∧ after = world.withDeployment deployment) ∨
    ∃ status, request = .applyStatus status ∧ after = world.withStatus status

theorem write_app_frame (fate : AppFate) {request : AppRequest} {after : AppWorld} (made : AppFrame world request after) :
    AppFrame world request (fate.write world after).2 := by
  rcases write_cases fate world after with written | lost
  · rw [written]
    exact made
  · rw [lost]
    exact .inl ⟨rfl, rfl, rfl⟩

theorem serve_app_frame (fate : AppFate) (request : AppRequest) : AppFrame world request (serveApp world fate request).2 := by
  cases request with
  | applyDeployment deployment => exact write_app_frame world fate (.inr (.inl ⟨deployment, rfl, rfl⟩))
  | applyStatus status => exact write_app_frame world fate (.inr (.inr ⟨status, rfl, rfl⟩))
  | applyPlan | deletePlan | deleteClaim | applyClaim | applyChild | pruneChild =>
    exact write_app_frame world fate (.inl ⟨rfl, rfl, rfl⟩)
  | _ => exact .inl ⟨rfl, rfl, rfl⟩

-- Every write is made and answered, and the registry sends `manifest`.
def shopWorld (spec : ApplicationSpec) : AppWorld :=
  { app := { name := "shop", ns := "default", uid := some "7c1f", generation := some 1, spec := spec }
    plans := []
    deployment := none
    rendered := [] }

def answering (time : Nat) (manifest : Reply String) : AppFate :=
  { time := time
    committed := true
    replied := true
    liveClaims := []
    claim := .error "not found"
    secrets := .ok ([], none)
    manifest := manifest
    pullSecret := .ok none
    vpaServed := false
    allowedDomains := []
    routeStatus := none }

end AppRafter.Application
