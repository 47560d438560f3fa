import AppRafter.Migration.Plan
import AppRafter.Lib.Machine
import AppRafter.Application.Status

set_option autoImplicit false

namespace AppRafter.Application

open Migration List Option

variable (plan : MigrationPlan) (appName appNs : String) (environment : Option String)

def planScopeMatches : Bool :=
  if plan.spec.scope.type = .application then
    match plan.spec.scope.application with
    | none => false
    | some scope =>
      if scope.ref.name ≠ appName ∨ scope.ref.ns ≠ appNs then false
      else
        match environment with
        | some env => scope.environment == env
        | none => true
  else false

variable (plans : List MigrationPlan)

def pickAnyKeyPlan (appName appNs : String) (environment : Option String) : Option MigrationPlan :=
  plans.find? fun plan => planScopeMatches plan appName appNs environment

def gatesKey (appName env : String) : Bool :=
  if plan.spec.scope.type = .application then
    match plan.spec.scope.application with
    | none => false
    | some scope => scope.ref.name == appName && scope.environment == env
  else false

def plansToDelete (appName env : String) (keep : Option String) : List String :=
  ((plans.filter fun plan => gatesKey plan appName env).map (·.name)).filter fun name => some name ≠ keep

def TargetsApp (appName appNs environment : String) : Prop :=
  plan.spec.scope.type = .application ∧ plan.spec.scope.application = some ⟨⟨appName, appNs⟩, environment⟩

theorem plan_scope_matches_iff :
    planScopeMatches plan appName appNs environment = true ↔
      ∃ env, TargetsApp plan appName appNs env ∧ ∀ wanted ∈ environment, env = wanted := by
  simp only [planScopeMatches, TargetsApp]
  by_cases typed : plan.spec.scope.type = .application
  · rw [if_pos typed]
    cases target : plan.spec.scope.application with
    | none => simp
    | some scope =>
      obtain ⟨⟨name, ns⟩, env⟩ := scope
      cases environment with
      | none => simp [typed]
      | some wanted => simp [typed]
  · simp [typed]

theorem gates_key_iff (appName env : String) :
    gatesKey plan appName env = true ↔ ∃ ns, TargetsApp plan appName ns env := by
  simp only [gatesKey, TargetsApp]
  by_cases typed : plan.spec.scope.type = .application
  · rw [if_pos typed]
    cases target : plan.spec.scope.application with
    | none => simp
    | some scope =>
      obtain ⟨⟨name, ns⟩, other⟩ := scope
      simp [typed]
  · simp [typed]

def remainingPlans (deleted : List String) : List MigrationPlan :=
  plans.filter fun plan => !deleted.contains plan.name

def ConsumedOnce : Prop :=
  (∀ plan ∈ plans, planScopeMatches plan appName appNs environment = true →
    plan.name ∈ plansToDelete plans appName (environment.getD "") none) ∧
  pickAnyKeyPlan (remainingPlans plans (plansToDelete plans appName (environment.getD "") none)) appName appNs environment = none

theorem plans_to_delete_iff {plans : List MigrationPlan} (appName env : String)
    (unique : (plans.map (·.name)).Nodup) {plan : MigrationPlan} (listed : plan ∈ plans) :
    plan.name ∈ plansToDelete plans appName env none ↔ gatesKey plan appName env = true := by
  constructor
  · intro deleted
    obtain ⟨other, member, same⟩ := mem_map.mp (mem_filter.mp deleted).1
    obtain ⟨otherListed, gates⟩ := mem_filter.mp member
    rw [← inj_on_of_nodup_map unique otherListed listed same]
    exact gates
  · intro gates
    refine mem_filter.mpr ⟨mem_map_of_mem (mem_filter.mpr ⟨listed, gates⟩), ?_⟩
    simp

theorem consumed_once_iff (unique : (plans.map (·.name)).Nodup) :
    ConsumedOnce appName appNs environment plans ↔
      environment.isSome = true ∨ ∀ plan ∈ plans, ∀ env, TargetsApp plan appName appNs env → env = "" := by
  constructor
  · intro ⟨covered, _⟩
    cases environment with
    | some env => exact .inl rfl
    | none =>
      refine .inr ?_
      intro plan listed env targets
      have found : planScopeMatches plan appName appNs none = true :=
        (plan_scope_matches_iff plan appName appNs none).mpr ⟨env, targets, nofun⟩
      have gates := (plans_to_delete_iff appName _ unique listed).mp (covered plan listed found)
      obtain ⟨ns, same⟩ := (gates_key_iff plan appName _).mp gates
      have scopes := some.inj (targets.2.symm.trans same.2)
      exact congrArg MigrationApplicationScope.environment scopes
  · intro condition
    have covered : ∀ plan ∈ plans, planScopeMatches plan appName appNs environment = true →
        plan.name ∈ plansToDelete plans appName (environment.getD "") none := by
      intro plan listed found
      rw [plans_to_delete_iff appName _ unique listed, gates_key_iff]
      obtain ⟨env, targets, wanted⟩ := (plan_scope_matches_iff plan appName appNs environment).mp found
      refine ⟨appNs, ?_⟩
      cases environment with
      | some named => rwa [getD_some, ← wanted named rfl]
      | none =>
        cases condition with
        | inl set => exact nomatch set
        | inr unset => rwa [getD_none, ← unset plan listed env targets]
    refine ⟨covered, ?_⟩
    rw [pickAnyKeyPlan, find?_eq_none]
    intro plan left found
    obtain ⟨listed, kept⟩ := mem_filter.mp left
    have deleted := covered plan listed found
    simp [deleted] at kept

def sharedPlan (environment : String) : MigrationPlan :=
  { name := "shop-migration-1"
    ns := "default"
    spec :=
      { scope := { type := .application, application := some ⟨⟨"shop", "default"⟩, environment⟩ }
        trigger := { type := "needs-removal", field := "needs.pg", approvedSpecHash := some "f00d" } }
    status := some { phase := some .completed } }

theorem consumed_once_default : ConsumedOnce "shop" "default" none [sharedPlan ""] :=
  (consumed_once_iff "shop" "default" none [sharedPlan ""] (by decide)).mpr (.inr (by
    intro plan listed env targets
    rw [mem_singleton.mp listed] at targets
    exact (congrArg MigrationApplicationScope.environment (some.inj targets.2)).symm))

-- The lookup takes a plan for `prod`, the delete looks for the empty environment.
theorem consumed_again :
    ¬ConsumedOnce "shop" "default" none [sharedPlan "prod"] ∧
    pickAnyKeyPlan (remainingPlans [sharedPlan "prod"] (plansToDelete [sharedPlan "prod"] "shop" "" none)) "shop"
      "default" none = some (sharedPlan "prod") := by
  have left : pickAnyKeyPlan (remainingPlans [sharedPlan "prod"] (plansToDelete [sharedPlan "prod"] "shop" "" none))
      "shop" "default" none = some (sharedPlan "prod") := by decide
  refine ⟨?_, left⟩
  intro once
  exact nomatch left.symm.trans once.2

open Lib

inductive ReconcileError where
  | kube (why : String)
  | missingUid (name : String)
  | panic (why : String)

inductive ChildKind where
  | service
  | networkPolicy
  | httpRoute
  | vpa
deriving DecidableEq

-- One request for each await that can change or decide something, in the order of the source.
inductive AppRequest where
  | now
  | listPlans
  | applyPlan (plan : MigrationPlan)
  | deletePlan (name : String)
  | listClaims
  | deleteClaim (name : String)
  | applyClaim (effective : ApplicationBaseSpec) (payload : ClaimPayload)
  | getClaim (name : String)
  | checkEnvSecretRefs (env : Dict EnvValue)
  | headManifest (image : ImageRef)
  | getDeployment
  | attachPullSecret (image : String)
  | applyDeployment (deployment : Deployment)
  | applyChild (kind : ChildKind) (effective : ApplicationBaseSpec)
  | pruneChild (kind : ChildKind)
  | vpaCrdServed
  | readAllowedDomains
  | readHttpRouteStatus
  | applyStatus (status : ApplicationStatus)
deriving DecidableEq

abbrev Reply (Value : Type) := Except String Value

-- A delete answered 404 counts as done.
abbrev appApi : Api where
  Request := AppRequest
  Response
    | .now => Nat
    | .listPlans => Reply (List MigrationPlan)
    | .applyPlan _ => Reply Unit
    | .deletePlan _ => Reply Unit
    | .listClaims => Reply (List LiveClaim)
    | .deleteClaim _ => Reply Unit
    | .applyClaim _ _ => Reply Unit
    | .getClaim _ => Reply ClaimView
    | .checkEnvSecretRefs _ => Reply (List String × Option String)
    | .headManifest _ => Reply String
    | .getDeployment => Reply (Option Deployment)
    | .attachPullSecret _ => Reply (Option String)
    | .applyDeployment _ => Reply Unit
    | .applyChild _ _ => Reply Unit
    | .pruneChild _ => Reply Unit
    | .vpaCrdServed => Bool
    | .readAllowedDomains => List String
    | .readHttpRouteStatus => Option (Bool × Bool)
    | .applyStatus _ => Reply Unit

inductive Requeue where
  | awaitChange
  | seconds (n : Nat)

abbrev AppProg := Prog appApi ReconcileError

def ask (asked : AppRequest) : AppProg (appApi.Response asked) := .call asked .done

-- `.await?`: an error ends the pass.
def try_ {Value : Type} (reply : Reply Value) : AppProg Value :=
  match reply with
  | .ok value => .done value
  | .error why => .fail (.kube why)

def applyStatus (status : ApplicationStatus) : AppProg Unit := .call (.applyStatus status) try_

def pause (status : Nat → ApplicationStatus) (after : Nat) : AppProg Requeue := do
  let now ← ask .now
  applyStatus (status now)
  pure (.seconds after)

structure Context where
  ciliumAvailable : Bool
  gatewayApiAvailable : Bool

def deletePlans : List String → AppProg Unit
  | [] => pure ()
  | name :: rest => do
      .call (.deletePlan name) try_
      deletePlans rest

def deleteAllKeyPlansExcept (appName env : String) (keep : Option String) : AppProg Unit := do
  let plans ← .call .listPlans try_
  deletePlans (plansToDelete plans appName env keep)

def planName (app env : String) (now : Nat) : String :=
  let raw := if env.toList.isEmpty then app ++ "-migration-" ++ toString now
    else app ++ "-" ++ env ++ "-migration-" ++ toString now
  String.ofList (trimDashes ((foldText raw).take 63))

variable (effective : ApplicationBaseSpec)

def hasNeeds : Bool := effective.needs.any fun needs => !needs.entries.isEmpty

variable (app : ApplicationObject)

def claimPayloads (effective : ApplicationBaseSpec) : List ClaimPayload :=
  if hasNeeds effective then generateResourceClaims effective app.name (app.uid.getD "") app.ns else []

-- A failed delete is recorded as a problem and does not end the pass.
def deleteClaims : List String → AppProg Unit
  | [] => pure ()
  | name :: rest => .call (.deleteClaim name) fun _ => deleteClaims rest

def pruneOrphanedClaims (desired : List String) : AppProg Unit :=
  if (app.uid.getD "").toList.isEmpty then pure ()
  else do
    let live ← .call .listClaims try_
    deleteClaims (claimsToPrune live (app.uid.getD "") desired)

def applyClaims (effective : ApplicationBaseSpec) : List ClaimPayload → AppProg Unit
  | [] => pure ()
  | payload :: rest => do
      .call (.applyClaim effective payload) try_
      applyClaims effective rest

def getClaims : List ClaimPayload → AppProg (List ClaimView)
  | [] => pure []
  | payload :: rest => do
      let found ← ask (.getClaim payload.name)
      let others ← getClaims rest
      match found with
      | .ok claim => pure (claim :: others)
      | .error _ => pure others

-- `inl` is a pass that paused here.
def claimSection (effective : ApplicationBaseSpec) : AppProg (Requeue ⊕ List ClaimView) := do
  let payloads := claimPayloads app effective
  pruneOrphanedClaims app (payloads.map (·.name))
  if hasNeeds effective then
    applyClaims effective payloads
    let current ← getClaims payloads
    let unready := unreadyClaimNames current
    if !unready.isEmpty || current.length != payloads.length then
      let names := if unready.isEmpty then payloads.map (·.name) else unready
      let paused ← pause (buildResourceClaimPausedStatus app names) 30
      pure (.inl paused)
    else pure (.inr current)
  else pure (.inr [])

def envSection (effective : ApplicationBaseSpec) : AppProg (Requeue ⊕ Option String) :=
  match effective.env with
  | none => pure (.inr none)
  | some env => do
      let checked ← .call (.checkEnvSecretRefs env) try_
      if checked.1.isEmpty then pure (.inr checked.2)
      else
        let paused ← pause (buildEnvSecretMissingStatus app checked.1) 30
        pure (.inl paused)

structure ImageDecision where
  status : Option StatusImage
  condition : Option ImageResolvedState
  resolved : Option String

section Outside

-- The OCI reference grammar and SHA-256 come from libraries.
variable (parseImageRef : String → Option ImageRef) (sha256Hex : String → String)

-- A registry's answer is checked before it is used.
def checkedDigest (image : ImageRef) (reply : Reply String) : Except String String :=
  match reply with
  | .error why => .error why
  | .ok digest =>
    if isValidSha256Digest digest then .ok (digestReference image digest)
    else .error "registry returned a malformed Docker-Content-Digest"

-- A digest reference needs no lookup.
def resolveDigest (tag : String) : AppProg (Except String String) :=
  match parseImageRef tag with
  | none => pure (.error (invalidReference tag))
  | some image =>
    if image.isDigest then pure (.ok (digestReference image image.reference))
    else do
      let reply ← ask (.headManifest image)
      pure (checkedDigest image reply)

def runningOnFailure (attempt : Except String String) : AppProg (Option Deployment) :=
  match attempt with
  | .ok _ => pure none
  | .error _ => .call .getDeployment try_

def attemptResolution (prior : Option StatusImage) (tag : String) : AppProg ResolutionOutcome := do
  let attempt ← resolveDigest parseImageRef tag
  let running ← runningOnFailure attempt
  let now ← ask .now
  pure (resolutionOutcome parseImageRef prior running tag attempt now)

def pinnedImage (tag : Option String) (pin : String) : ImageDecision :=
  { status := some
      { tag := tag
        resolved := some pin
        resolvedAt := none
        previous := (existingImage app).bind (·.previous)
        pinned := some { resolved := some pin, placedAt := app.annotations.get annImagePinnedAt } }
    condition := some (.pinned pin (tag.getD "its tag") app.name)
    resolved := some pin }

def verbatimImage (tag : Option String) : ImageDecision :=
  { status := ((existingImage app).bind (·.previous)).map fun previous => { tag := tag, previous := some previous }
    condition := none
    resolved := none }

def resolvedState (outcome : ResolutionOutcome) : ImageResolvedState :=
  match outcome.failure with
  | none => .resolved
  | some error => .resolveFailed error outcome.rendered

def followTag (app : ApplicationObject) (tag : String) : AppProg ImageDecision := do
  let now ← ask .now
  match existingImage app, shouldResolveImage (existingImage app) tag now minImageResolveIntervalSecs with
  | some prior, false => pure { status := some prior, condition := some .resolved, resolved := prior.resolved }
  | _, _ =>
    let outcome ← attemptResolution parseImageRef (existingImage app) tag
    pure { status := some outcome.status, condition := some (resolvedState outcome), resolved := outcome.rendered }

def imageSection (app : ApplicationObject) (effective : ApplicationBaseSpec) : AppProg ImageDecision :=
  match readPin parseImageRef app.annotations effective, effective.image with
  | some (.ok pin), tag => pure (pinnedImage app tag pin)
  | some (.error why), some tag =>
    if imageResolutionEnabled effective then do
      let outcome ← attemptResolution parseImageRef (existingImage app) tag
      pure { status := some outcome.status, condition := some (.pinRejected why tag), resolved := outcome.rendered }
    else pure (verbatimImage app effective.image)
  | none, some tag =>
    if imageResolutionEnabled effective then followTag parseImageRef app tag else pure (verbatimImage app effective.image)
  | _, none => pure (verbatimImage app effective.image)

def renderDeployment (claims : List ClaimView) (resolved : Option String) : Deployment :=
  { effective := effective
    claims := claims
    image := resolved.getD (effective.image.getD "") }

def stampImageRef (deployment : Deployment) (effective : ApplicationBaseSpec) (resolved : Option String) : Deployment :=
  match resolved, effective.image with
  | some _, some reference => { deployment with imageRef := some reference }
  | _, _ => deployment

def publicHostnames : List String :=
  match effective.expose with
  | none => []
  | some expose =>
    if expose.network = some "public" then (expose.hostname.map OneOrMany.intoVec).getD [] else []

def endpointUrl (effective : ApplicationBaseSpec) : Option String :=
  match publicHostnames effective with
  | first :: _ => some ("https://" ++ first ++ "/")
  | [] => effective.expose.map fun _ => "http://" ++ app.name ++ "." ++ app.ns ++ ".svc.cluster.local:80"

-- A child is applied where the spec asks for it and else removed.
def applyOrPrune (kind : ChildKind) (effective : ApplicationBaseSpec) (wanted : Bool) : AppProg Unit :=
  if wanted then .call (.applyChild kind effective) try_ else .call (.pruneChild kind) try_

-- Where the cluster does not serve the kind, neither is done.
def settleChild (served : Bool) (kind : ChildKind) (effective : ApplicationBaseSpec) (wanted : Bool) : AppProg Unit :=
  if served then applyOrPrune kind effective wanted else pure ()

variable (ctx : Context)

def applyChildren (effective : ApplicationBaseSpec) : AppProg Unit := do
  settleChild true .service effective effective.expose.isSome
  settleChild ctx.ciliumAvailable .networkPolicy effective true
  settleChild ctx.gatewayApiAvailable .httpRoute effective (!(publicHostnames effective).isEmpty)
  let vpaServed ← ask .vpaCrdServed
  settleChild vpaServed .vpa effective effective.resources.isNone

def publicRouteConditions (app : ApplicationObject) (effective : ApplicationBaseSpec) (now : Nat) :
    AppProg (List ApplicationCondition) :=
  if (publicHostnames effective).isEmpty then pure []
  else do
    let domains ← ask .readAllowedDomains
    let route ← if ctx.gatewayApiAvailable then ask .readHttpRouteStatus else pure none
    pure [publicRouteReadyCondition (publicHostnames effective) domains route (previousConditions app) now]

def renderedStatus (effective : ApplicationBaseSpec) (image : ImageDecision)
    (envDigest : Option String) (routeConditions : List ApplicationCondition) (now : Nat) : ApplicationStatus :=
  let ready := readyCondition "True" "ReconcileSucceeded" "Reconcile completed; child Deployment and Service applied."
    (previousConditions app) now
  let resolved := image.condition.toList.map fun state => imageResolvedCondition state (previousConditions app) now
  let status := buildStatus app "Ready" (ready :: resolved ++ routeConditions) (endpointUrl app effective)
  withStampedBaseline (withEnvConfig app { status with image := image.status } envDigest now) app.spec

def applySection (app : ApplicationObject) (effective : ApplicationBaseSpec) (claims : List ClaimView)
    (envDigest : Option String) (consume : Bool) : AppProg Requeue := do
  let image ← imageSection parseImageRef app effective
  let rendered := stampImageRef (renderDeployment effective claims image.resolved) effective image.resolved
  let pullSecret ← .call (.attachPullSecret rendered.image) try_
  .call (.applyDeployment { rendered with pullSecret := pullSecret }) try_
  applyChildren ctx effective
  let now ← ask .now
  let routeConditions ← publicRouteConditions ctx app effective now
  applyStatus (renderedStatus app effective image envDigest routeConditions now)
  if consume then deleteAllKeyPlansExcept app.name (app.spec.environment.getD "") none
  pure (.seconds 60)

def renderSection (app : ApplicationObject) (effective : ApplicationBaseSpec) (consume : Bool) :
    AppProg Requeue := do
  match ← claimSection app effective with
  | .inl paused => pure paused
  | .inr claims =>
    match ← envSection app effective with
    | .inl paused => pure paused
    | .inr envDigest => applySection parseImageRef ctx app effective claims envDigest consume

def createGatingPlan (app : ApplicationObject) (candidates : List DestructiveChange) : AppProg Requeue := do
  let now ← ask .now
  match app.uid with
  | none => .fail (.missingUid app.name)
  | some uid =>
    let env := app.spec.environment.getD ""
    match createPlanFor sha256Hex candidates (planName app.name env now) app.ns app.name env uid with
    | none => .fail (.panic "plan_body called with >=1 candidate")
    | some plan =>
      .call (.applyPlan plan) try_
      pause (buildPausedStatus app app.ns plan.name) 30

-- The baseline was rendered once, so it has an effective spec; the source panics without one.
def gateCandidates (effective : ApplicationBaseSpec) : Option (List DestructiveChange) :=
  match existingBaseline app with
  | none => some []
  | some baseline =>
    match effectiveSpec baseline baseline.environment with
    | .error _ => none
    | .ok old => some (detectAll old effective app.name)

def gatePlanState (plan : Option MigrationPlan) (candidates : List DestructiveChange) : PlanState :=
  match candidates.head? with
  | some change => planState sha256Hex plan change candidates
  | none => planStateNoChange plan

def gateSection (app : ApplicationObject) (effective : ApplicationBaseSpec)
    (candidates : List DestructiveChange) : AppProg Requeue := do
  let plans ← .call .listPlans try_
  let plan := pickAnyKeyPlan plans app.name app.ns app.spec.environment
  let lingering := (plan.map (·.name)).getD ""
  match decideMigration candidates.head?.isSome (gatePlanState sha256Hex plan candidates) with
  | .render => renderSection parseImageRef ctx app effective false
  | .createPlan => createGatingPlan sha256Hex app candidates
  | .noOp => pause (buildPausedStatus app app.ns lingering) 30
  | .deleteThenCreate =>
    deleteAllKeyPlansExcept app.name (app.spec.environment.getD "") none
    createGatingPlan sha256Hex app candidates
  | .consumeApply => renderSection parseImageRef ctx app effective true
  | .deleteThenRender =>
    deleteAllKeyPlansExcept app.name (app.spec.environment.getD "") none
    renderSection parseImageRef ctx app effective false
  | .blockFailed => pause (buildMigrationFailedStatus app lingering) 30

def reconcile (app : ApplicationObject) : AppProg Requeue :=
  if app.deletionTimestamp.isSome then pure .awaitChange
  else
    match effectiveSpec app.spec app.spec.environment with
    | .error why => pause (buildInvalidEffectiveSpecStatus app why.text) 60
    | .ok effective =>
      match gateCandidates app effective with
      | none => .fail (.panic "stamped baseline was effective_spec-validated before being written to status")
      | some candidates => gateSection parseImageRef sha256Hex ctx app effective candidates

end Outside

end AppRafter.Application
