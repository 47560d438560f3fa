import AppRafter.Application.Controller

set_option autoImplicit false

namespace AppRafter.Application

open Lib Lib.Prog Migration List

inductive Mark where
  | looked (image : ImageRef) (reply : Reply String)
  | read (reply : Reply (Option Deployment))
  | applied (deployment : Deployment) (reply : Reply Unit)
  | wrote

def mark : Exchange appApi → Option Mark
  | ⟨.headManifest image, reply⟩ => some (.looked image reply)
  | ⟨.getDeployment, reply⟩ => some (.read reply)
  | ⟨.applyDeployment deployment, reply⟩ => some (.applied deployment reply)
  | ⟨.applyStatus _, _⟩ => some .wrote
  | _ => none

def marks (history : List (Exchange appApi)) : List Mark := history.filterMap mark

variable (history : List (Exchange appApi))

theorem marks_snoc (exchange : Exchange appApi) : marks (history ++ [exchange]) = marks history ++ (mark exchange).toList := by
  simp only [marks]
  cases found : mark exchange with
  | none => simp [found]
  | some _ => simp [found]

def calm : AppRequest → Bool
  | .headManifest _ => false
  | .getDeployment => false
  | .applyDeployment _ => false
  | .applyStatus _ => false
  | _ => true

theorem marks_calm (asked : AppRequest) (response : appApi.Response asked)
    (quiet : calm asked = true) : marks (history ++ [⟨asked, response⟩]) = marks history := by
  rw [marks_snoc]
  cases asked <;> first | exact append_nil _ | exact absurd quiet Bool.false_ne_true

section Outside

variable (parseImageRef : String → Option ImageRef) (sha256Hex : String → String)

-- The marks a lookup left, its outcome, and the Deployment read back where it failed.
inductive Looked (tag : String) : List Mark → Except String String → Option Deployment → Prop where
  | unreadable (running : Option Deployment) (unread : parseImageRef tag = none) :
      Looked tag [.read (.ok running)] (.error (invalidReference tag)) running
  | digest (image : ImageRef) (parsed : parseImageRef tag = some image) (fixed : image.isDigest = true) :
      Looked tag [] (.ok (digestReference image image.reference)) none
  | answered (image : ImageRef) (digest : String) (parsed : parseImageRef tag = some image)
      (moving : image.isDigest = false) (valid : isValidSha256Digest digest = true) :
      Looked tag [.looked image (.ok digest)] (.ok (digestReference image digest)) none
  | failed (image : ImageRef) (reply : Reply String) (why : String) (running : Option Deployment)
      (parsed : parseImageRef tag = some image) (moving : image.isDigest = false)
      (broken : checkedDigest image reply = .error why) :
      Looked tag [.looked image reply, .read (.ok running)] (.error why) running

inductive ImageDecided (app : ApplicationObject) (effective : ApplicationBaseSpec) : List Mark → ImageDecision → Prop where
  | pinned (pin : String) (honoured : readPin parseImageRef app.annotations effective = some (.ok pin)) :
      ImageDecided app effective [] (pinnedImage app effective.image pin)
  | verbatim (off : effective.image = none ∨ imageResolutionEnabled effective = false) :
      ImageDecided app effective [] (verbatimImage app effective.image)
  | cached (tag digest : String) (prior : StatusImage) (named : effective.image = some tag)
      (found : existingImage app = some prior) (same : prior.tag = some tag) (known : prior.resolved = some digest) :
      ImageDecided app effective [] ⟨some prior, some .resolved, some digest⟩
  | attempted (tag : String) (trail : List Mark) (attempt : Except String String) (running : Option Deployment)
      (now : Nat) (condition : Option ImageResolvedState) (named : effective.image = some tag)
      (looked : Looked parseImageRef tag trail attempt running) :
      ImageDecided app effective trail
        ⟨some (resolutionOutcome parseImageRef (existingImage app) running tag attempt now).status, condition,
          (resolutionOutcome parseImageRef (existingImage app) running tag attempt now).rendered⟩

def Approves (plan : MigrationPlan) (changes : List DestructiveChange) : Prop :=
  plan.phase = .completed ∧
    ∃ hash, plan.spec.trigger.approvedSpecHash = some hash ∧ hash ≠ "" ∧ hash = changeHash sha256Hex changes

variable (app : ApplicationObject)

def GateOpen (history : List (Exchange appApi)) (effective : ApplicationBaseSpec) : Prop :=
  ∀ baseline old, existingBaseline app = some baseline → effectiveSpec baseline baseline.environment = .ok old →
    detectAll old effective app.name ≠ [] → ∃ plans plan, (⟨.listPlans, .ok plans⟩ : Exchange appApi) ∈ history ∧ plan ∈ plans ∧
        planScopeMatches plan app.name app.ns app.spec.environment = true ∧
        Approves sha256Hex plan (detectAll old effective app.name)

def Renders (history : List (Exchange appApi)) (effective : ApplicationBaseSpec) : Prop :=
  effectiveSpec app.spec app.spec.environment = .ok effective ∧ GateOpen sha256Hex app history effective ∧ .wrote ∉ marks history

def Shows (deployment : Deployment) (decision : ImageDecision) : Prop :=
  deployment.image = decision.resolved.getD (deployment.effective.image.getD "") ∧
    deployment.imageRef = decision.resolved.bind fun _ => deployment.effective.image

def Carries (status : ApplicationStatus) : Prop :=
  status.lastAppliedSpec = existingBaseline app ∧ status.image = existingImage app

def Stamps (trail : List Mark) (status : ApplicationStatus) : Prop :=
  status.lastAppliedSpec = some app.spec ∧ ∃ before deployment decision, trail = before ++ [.applied deployment (.ok ())] ∧
    ImageDecided parseImageRef app deployment.effective before decision ∧ Shows deployment decision ∧
    status.image = decision.status ∧ effectiveSpec app.spec app.spec.environment = .ok deployment.effective

def appAllowed (history : List (Exchange appApi)) : AppRequest → Prop
  | .applyClaim effective _ => Renders sha256Hex app history effective
  | .applyChild _ effective => Renders sha256Hex app history effective
  | .deleteClaim _ => ∃ effective, Renders sha256Hex app history effective
  | .pruneChild _ => ∃ effective, Renders sha256Hex app history effective
  | .getDeployment => ∀ mark ∈ marks history, ∃ image reply, mark = .looked image reply
  | .applyDeployment deployment => Renders sha256Hex app history deployment.effective ∧
      ∃ decision, ImageDecided parseImageRef app deployment.effective (marks history) decision ∧ Shows deployment decision
  | .applyStatus status =>
    (marks history = [] ∧ Carries app status) ∨ Stamps parseImageRef app (marks history) status
  | _ => True

def plain : AppRequest → Prop
  | .now => True
  | .listPlans => True
  | .applyPlan _ => True
  | .deletePlan _ => True
  | _ => False

def ofSpec (effective : ApplicationBaseSpec) : AppRequest → Prop
  | .applyClaim rendered _ => rendered = effective
  | .applyChild _ rendered => rendered = effective
  | asked => calm asked = true

variable {asked : AppRequest} {effective : ApplicationBaseSpec} {app : ApplicationObject}
  {history : List (Exchange appApi)} {trail : List Mark} {Value : Type}

theorem plain_calm (bare : plain asked) : calm asked = true := by
  cases asked <;> first | rfl | exact False.elim bare

theorem plain_of_spec (effective : ApplicationBaseSpec) (asked : AppRequest) (bare : plain asked) : ofSpec effective asked := by
  cases asked <;> first | rfl | exact False.elim bare

theorem of_spec_calm (own : ofSpec effective asked) : calm asked = true := by
  cases asked <;> first | rfl | exact own

theorem plain_allowed (app : ApplicationObject) (history : List (Exchange appApi))
    (bare : plain asked) : appAllowed parseImageRef sha256Hex app history asked := by
  cases asked <;> trivial

theorem of_spec_allowed (renders : Renders sha256Hex app history effective) (own : ofSpec effective asked) :
    appAllowed parseImageRef sha256Hex app history asked := by
  cases asked with
  | applyClaim rendered payload | applyChild kind rendered => exact (show rendered = effective from own) ▸ renders
  | deleteClaim | pruneChild => exact ⟨effective, renders⟩
  | getDeployment | applyDeployment | applyStatus => exact absurd own Bool.false_ne_true
  | _ => trivial

theorem gate_open_snoc (exchange : Exchange appApi) (opened : GateOpen sha256Hex app history effective) :
    GateOpen sha256Hex app (history ++ [exchange]) effective := by
  intro baseline old stamped rendered changed
  obtain ⟨plans, plan, listed, rest⟩ := opened baseline old stamped rendered changed
  exact ⟨plans, plan, mem_append_left _ listed, rest⟩

def Underway (app : ApplicationObject) (effective : ApplicationBaseSpec) (trail : List Mark)
    (history : List (Exchange appApi)) : Prop :=
  Renders sha256Hex app history effective ∧ marks history = trail

theorem underway_calm (response : appApi.Response asked)
    (underway : Underway sha256Hex app effective trail history) (quiet : calm asked = true) :
    Underway sha256Hex app effective trail (history ++ [⟨asked, response⟩]) := by
  obtain ⟨⟨rendered, opened, unwritten⟩, trailed⟩ := underway
  have same := marks_calm history asked response quiet
  exact ⟨⟨rendered, gate_open_snoc _ _ opened, same ▸ unwritten⟩, same.trans trailed⟩

theorem underway_mark (app : ApplicationObject) (trail : List Mark) (exchange : Exchange appApi) {left : Mark}
    (underway : Underway sha256Hex app effective trail history) (marked : mark exchange = some left)
    (unwritten : left ≠ .wrote) : Underway sha256Hex app effective (trail ++ [left]) (history ++ [exchange]) := by
  obtain ⟨⟨rendered, opened, before⟩, trailed⟩ := underway
  have grown : marks (history ++ [exchange]) = trail ++ [left] := by rw [marks_snoc, marked, trailed]; rfl
  refine ⟨⟨rendered, gate_open_snoc _ _ opened, ?_⟩, grown⟩
  rw [grown, ← trailed, mem_append, mem_singleton]
  intro found
  cases found with
  | inl earlier => exact before earlier
  | inr last => exact unwritten last.symm

theorem runs_of_spec {prog : AppProg Value} (asks : Asks (ofSpec effective) prog)
    (underway : Underway sha256Hex app effective trail history) :
    Runs (appAllowed parseImageRef sha256Hex app) (fun later _ => Underway sha256Hex app effective trail later) history prog := by
  refine runs_asks history _ _ prog ?_ ?_ ?_ underway asks
  · intro later asked response kept own
    exact underway_calm _ response kept (of_spec_calm own)
  · intro later asked kept own
    exact of_spec_allowed parseImageRef _ kept.1 own
  · intro later value kept
    exact kept

theorem runs_plain (app : ApplicationObject) {prog : AppProg Value} (asks : Asks plain prog) (trailed : marks history = trail) :
    Runs (appAllowed parseImageRef sha256Hex app) (fun later _ => marks later = trail) history prog := by
  refine runs_asks history (fun later => marks later = trail) plain prog ?_ ?_ ?_ trailed asks
  · intro later asked response kept bare
    exact (marks_calm later asked response (plain_calm bare)).trans kept
  · intro later asked _ bare
    exact plain_allowed parseImageRef sha256Hex app later bare
  · intro later value kept
    exact kept

end Outside

section Calls

variable {Value : Type} (allowed : List (Exchange appApi) → AppRequest → Prop)

theorem runs_try {returned : List (Exchange appApi) → Value → Prop} {history : List (Exchange appApi)} (reply : Reply Value)
    (holds : ∀ value, reply = .ok value → returned history value) : Runs allowed returned history (try_ reply) := by
  cases reply with
  | ok value => exact holds value rfl
  | error why => trivial

theorem runs_ask (returned : List (Exchange appApi) → Value → Prop) (history : List (Exchange appApi)) {asked : AppRequest}
    (rest : appApi.Response asked → AppProg Value) :
    Runs allowed returned history (ask asked >>= rest) ↔
      allowed history asked ∧ ∀ response, Runs allowed returned (history ++ [⟨asked, response⟩]) (rest response) :=
  Iff.rfl

theorem asks_try (may : AppRequest → Prop) (reply : Reply Value) : (try_ reply).Asks may := by
  cases reply with
  | ok value => trivial
  | error why => trivial

theorem asks_delete_plans (names : List String) : (deletePlans names).Asks plain := by
  induction names with
  | nil => trivial
  | cons name rest ih =>
    refine asks_bind ⟨trivial, ?_⟩ fun _ => ih
    intro reply
    exact asks_try plain reply

theorem asks_delete_all (appName env : String) (keep : Option String) :
    (deleteAllKeyPlansExcept appName env keep).Asks plain := by
  refine asks_bind ⟨trivial, ?_⟩ ?_
  · intro reply
    exact asks_try plain reply
  · intro plans
    exact asks_delete_plans _

variable (effective : ApplicationBaseSpec)

theorem asks_delete_claims (names : List String) : (deleteClaims names).Asks (ofSpec effective) := by
  induction names with
  | nil => trivial
  | cons name rest ih => exact ⟨rfl, fun _ => ih⟩

theorem asks_prune_orphaned_claims (app : ApplicationObject) (desired : List String) :
    (pruneOrphanedClaims app desired).Asks (ofSpec effective) := by
  simp only [pruneOrphanedClaims]
  split
  · trivial
  · refine asks_bind ⟨rfl, ?_⟩ ?_
    · intro reply
      exact asks_try _ reply
    · intro live
      exact asks_delete_claims effective _

variable (payloads : List ClaimPayload)

theorem asks_apply_claims : (applyClaims effective payloads).Asks (ofSpec effective) := by
  induction payloads with
  | nil => trivial
  | cons payload rest ih =>
    refine asks_bind ⟨rfl, ?_⟩ fun _ => ih
    intro reply
    exact asks_try _ reply

theorem asks_get_claims : (getClaims payloads).Asks (ofSpec effective) := by
  induction payloads with
  | nil => trivial
  | cons payload rest ih =>
    refine asks_bind ⟨rfl, fun _ => trivial⟩ ?_
    intro found
    refine asks_bind ih ?_
    intro others
    cases found with
    | ok claim => trivial
    | error why => trivial

theorem asks_apply_or_prune (kind : ChildKind) (wanted : Bool) :
    (applyOrPrune kind effective wanted).Asks (ofSpec effective) := by
  cases wanted with
  | true | false => exact ⟨rfl, fun reply => asks_try _ reply⟩

theorem asks_settle_child (served : Bool) (kind : ChildKind) (wanted : Bool) :
    (settleChild served kind effective wanted).Asks (ofSpec effective) := by
  cases served with
  | true => exact asks_apply_or_prune effective kind wanted
  | false => trivial

theorem asks_apply_children (ctx : Context) : (applyChildren ctx effective).Asks (ofSpec effective) := by
  refine asks_bind (asks_settle_child effective true .service _) fun _ => ?_
  refine asks_bind (asks_settle_child effective _ .networkPolicy true) fun _ => ?_
  refine asks_bind (asks_settle_child effective _ .httpRoute _) fun _ => ?_
  refine asks_bind ⟨rfl, fun _ => trivial⟩ ?_
  intro served
  exact asks_settle_child effective served .vpa _

theorem asks_public_route_conditions (ctx : Context) (app : ApplicationObject) (now : Nat) :
    (publicRouteConditions ctx app effective now).Asks (ofSpec effective) := by
  simp only [publicRouteConditions]
  split
  · trivial
  · refine asks_bind ⟨rfl, fun _ => trivial⟩ ?_
    intro domains
    cases ctx.gatewayApiAvailable with
    | true => exact ⟨rfl, fun _ => trivial⟩
    | false => trivial

end Calls

section Reconcile

variable (parseImageRef : String → Option ImageRef) (sha256Hex : String → String) (app : ApplicationObject)

theorem runs_pause (history : List (Exchange appApi)) (status : Nat → ApplicationStatus) (after : Nat)
    (returned : List (Exchange appApi) → Requeue → Prop) (unmarked : marks history = [])
    (carries : ∀ now, Carries app (status now)) (holds : ∀ later value, returned later value) :
    Runs (appAllowed parseImageRef sha256Hex app) returned history (pause status after) := by
  refine ⟨trivial, fun now => ⟨.inl ⟨?_, carries now⟩, fun reply => ?_⟩⟩
  · exact (marks_calm history .now now rfl).trans unmarked
  · cases reply with
    | ok _ => exact holds _ _
    | error why => trivial

variable (effective : ApplicationBaseSpec) {history : List (Exchange appApi)} {tag : String}

variable (underway : Underway sha256Hex app effective [] history)

include underway in
theorem runs_claim_section : Runs (appAllowed parseImageRef sha256Hex app)
      (fun later outcome => outcome.isRight = true → Underway sha256Hex app effective [] later) history
      (claimSection app effective) := by
  simp only [claimSection]
  rw [runs_bind]
  refine runs_mono _ ?_ (runs_of_spec parseImageRef sha256Hex (asks_prune_orphaned_claims effective app _) underway)
  intro pruned _ underway
  by_cases needed : hasNeeds effective = true
  · rw [if_pos needed, runs_bind]
    refine runs_mono _ ?_ (runs_of_spec parseImageRef sha256Hex (asks_apply_claims effective _) underway)
    intro applied _ underway
    rw [runs_bind]
    refine runs_mono _ ?_ (runs_of_spec parseImageRef sha256Hex (asks_get_claims effective _) underway)
    intro fetched current underway
    split
    · rw [runs_bind]
      refine runs_pause parseImageRef sha256Hex app fetched _ 30 _ underway.2 (fun _ => ⟨rfl, rfl⟩) ?_
      intro later paused right
      exact absurd right Bool.false_ne_true
    · exact fun _ => underway
  · rw [if_neg needed]
    exact fun _ => underway

include underway in
theorem runs_env_section : Runs (appAllowed parseImageRef sha256Hex app)
      (fun later outcome => outcome.isRight = true → Underway sha256Hex app effective [] later) history
      (envSection app effective) := by
  simp only [envSection]
  cases effective.env with
  | none => exact fun _ => underway
  | some env =>
    refine ⟨trivial, ?_⟩
    intro reply
    have later := underway_calm _ reply underway rfl
    change Runs _ _ _ (try_ reply >>= _)
    rw [runs_bind]
    refine runs_try _ reply ?_
    intro checked _
    split
    · exact fun _ => later
    · rw [runs_bind]
      refine runs_pause parseImageRef sha256Hex app _ _ 30 _ later.2 (fun _ => ⟨rfl, rfl⟩) ?_
      intro later paused right
      exact absurd right Bool.false_ne_true

-- The end of an attempt: the Deployment is read back only where it failed.
theorem runs_read_back {trail : List Mark}
    {attempt : Except String String} (underway : Underway sha256Hex app effective trail history)
    (lookups : ∀ left ∈ trail, ∃ image reply, left = .looked image reply)
    (found : ∀ digest, attempt = .ok digest → Looked parseImageRef tag trail attempt none)
    (lost : ∀ why running, attempt = .error why → Looked parseImageRef tag (trail ++ [.read (.ok running)]) attempt running) :
    Runs (appAllowed parseImageRef sha256Hex app) (fun later running => ∃ full, Looked parseImageRef tag full attempt running ∧
        Underway sha256Hex app effective full later) history (runningOnFailure attempt) := by
  cases attempt with
  | ok digest => exact ⟨trail, found digest rfl, underway⟩
  | error why =>
    refine ⟨?_, fun reply => runs_try _ reply ?_⟩
    · intro left member
      exact lookups left (underway.2 ▸ member)
    · intro running same
      refine ⟨trail ++ [.read (.ok running)], lost why running rfl, ?_⟩
      rw [same]
      exact underway_mark _ app trail _ underway rfl Mark.noConfusion

theorem runs_resolve_digest (tag : String) (underway : Underway sha256Hex app effective [] history) :
    Runs (appAllowed parseImageRef sha256Hex app) (fun later attempt => Runs (appAllowed parseImageRef sha256Hex app)
        (fun last running => ∃ full, Looked parseImageRef tag full attempt running ∧
          Underway sha256Hex app effective full last) later (runningOnFailure attempt))
      history (resolveDigest parseImageRef tag) := by
  simp only [resolveDigest]
  cases parsed : parseImageRef tag with
  | none =>
    refine runs_read_back parseImageRef _ app _ underway (by simp) (by simp) ?_
    intro why running _
    exact .unreadable running parsed
  | some image =>
    by_cases fixed : image.isDigest = true
    · simp only [if_pos fixed]
      refine runs_read_back parseImageRef _ app _ underway (by simp) ?_ (by simp)
      intro digest same
      exact .digest image parsed fixed
    · simp only [if_neg fixed]
      have moving : image.isDigest = false := by simpa using fixed
      refine ⟨trivial, ?_⟩
      intro reply
      refine runs_read_back parseImageRef sha256Hex app effective
        (underway_mark _ app [] _ underway rfl Mark.noConfusion) ?_ ?_ ?_
      · intro left member
        exact ⟨image, reply, mem_singleton.mp member⟩
      · intro digest checked
        cases reply with
        | error why => exact nomatch checked
        | ok answer =>
          by_cases valid : isValidSha256Digest answer = true
          · rw [checkedDigest, if_pos valid]
            exact .answered image answer parsed moving valid
          · rw [checkedDigest, if_neg valid] at checked
            exact nomatch checked
      · intro why running broken
        rw [broken]
        exact .failed image reply why running parsed moving broken

theorem runs_attempt_resolution (prior : Option StatusImage) (tag : String)
    (underway : Underway sha256Hex app effective [] history) :
    Runs (appAllowed parseImageRef sha256Hex app)
      (fun later outcome => ∃ trail attempt running now, Looked parseImageRef tag trail attempt running ∧
        Underway sha256Hex app effective trail later ∧
        outcome = resolutionOutcome parseImageRef prior running tag attempt now) history
      (attemptResolution parseImageRef prior tag) := by
  simp only [attemptResolution]
  rw [runs_bind]
  refine runs_mono _ ?_ (runs_resolve_digest parseImageRef _ app _ tag underway)
  intro resolved attempt reads
  rw [runs_bind]
  refine runs_mono _ ?_ reads
  intro settled running looked
  obtain ⟨trail, looked, underway⟩ := looked
  refine ⟨trivial, fun now => ⟨trail, attempt, running, now, looked, ?_, rfl⟩⟩
  exact underway_calm _ now underway rfl

def Settled (later : List (Exchange appApi)) (decision : ImageDecision) : Prop :=
  ∃ trail, ImageDecided parseImageRef app effective trail decision ∧ Underway sha256Hex app effective trail later

theorem runs_attempted (condition : ResolutionOutcome → Option ImageResolvedState) (named : effective.image = some tag)
    (underway : Underway sha256Hex app effective [] history) :
    Runs (appAllowed parseImageRef sha256Hex app) (Settled parseImageRef sha256Hex app effective) history
      (attemptResolution parseImageRef (existingImage app) tag >>= fun outcome =>
        pure ⟨some outcome.status, condition outcome, outcome.rendered⟩) := by
  rw [runs_bind]
  refine runs_mono _ ?_ (runs_attempt_resolution parseImageRef _ app _ (existingImage app) tag underway)
  intro later outcome found
  obtain ⟨trail, attempt, running, now, looked, underway, same⟩ := found
  refine ⟨trail, ?_, underway⟩
  rw [same]
  exact .attempted tag trail attempt running now _ named looked

theorem should_resolve_cached {prior : StatusImage} {now : Nat} {interval : Int}
    (throttled : shouldResolveImage (some prior) tag now interval = false) :
    prior.tag = some tag ∧ ∃ digest, prior.resolved = some digest := by
  by_cases same : prior.tag = some tag
  · cases recorded : prior.resolved with
    | none => simp [shouldResolveImage, same, recorded] at throttled
    | some digest => exact ⟨same, digest, rfl⟩
  · simp [shouldResolveImage, same] at throttled

theorem runs_follow_tag (named : effective.image = some tag) (underway : Underway sha256Hex app effective [] history) :
    Runs (appAllowed parseImageRef sha256Hex app) (Settled parseImageRef sha256Hex app effective) history
      (followTag parseImageRef app tag) := by
  refine (runs_ask _ _ _ _).mpr ⟨trivial, ?_⟩
  intro now
  have asked := underway_calm _ now underway rfl
  have attempted := runs_attempted parseImageRef sha256Hex app effective (fun outcome => some (resolvedState outcome)) named asked
  cases found : existingImage app with
  | none => simpa only [found] using attempted
  | some prior =>
    cases throttled : shouldResolveImage (some prior) tag now _ with
    | true => simpa only [found, throttled] using attempted
    | false =>
      obtain ⟨same, digest, known⟩ := should_resolve_cached throttled
      refine ⟨[], ?_, asked⟩
      rw [known]
      exact .cached tag digest prior named found same known

include underway in
theorem runs_image_section : Runs (appAllowed parseImageRef sha256Hex app) (Settled parseImageRef sha256Hex app effective) history
      (imageSection parseImageRef app effective) := by
  simp only [imageSection]
  cases pinned : readPin parseImageRef app.annotations effective with
  | none =>
    cases named : effective.image with
    | none => exact ⟨[], named ▸ .verbatim (.inl named), underway⟩
    | some tag =>
      by_cases enabled : imageResolutionEnabled effective = true
      · simp only [if_pos enabled]
        exact runs_follow_tag parseImageRef _ app _ named underway
      · simp only [if_neg enabled]
        exact ⟨[], named ▸ .verbatim (.inr (by simpa using enabled)), underway⟩
  | some verdict =>
    cases verdict with
    | ok pin => exact ⟨[], .pinned pin pinned, underway⟩
    | error why =>
      cases named : effective.image with
      | none => exact ⟨[], named ▸ .verbatim (.inl named), underway⟩
      | some tag =>
        by_cases enabled : imageResolutionEnabled effective = true
        · simp only [if_pos enabled]
          exact runs_attempted parseImageRef _ app _ _ named underway
        · simp only [if_neg enabled]
          exact ⟨[], named ▸ .verbatim (.inr (by simpa using enabled)), underway⟩

variable (claims : List ClaimView)

theorem shows_rendered (decision : ImageDecision) (pullSecret : Option String) :
    Shows { stampImageRef (renderDeployment effective claims decision.resolved) effective decision.resolved with
      pullSecret := pullSecret } decision := by
  simp only [stampImageRef, renderDeployment, Shows]
  cases decision.resolved with
  | none => exact ⟨rfl, rfl⟩
  | some digest =>
    cases named : effective.image with
    | none | some => exact ⟨rfl, by rw [named]; rfl⟩

theorem rendered_effective (resolved pullSecret : Option String) :
    ({ stampImageRef (renderDeployment effective claims resolved) effective resolved with
      pullSecret := pullSecret } : Deployment).effective = effective := by
  simp only [stampImageRef]
  split <;> rfl

theorem rendered_status_stamps (image : ImageDecision) (envDigest : Option String)
    (routeConditions : List ApplicationCondition) (now : Nat) :
    (renderedStatus app effective image envDigest routeConditions now).lastAppliedSpec = some app.spec ∧
      (renderedStatus app effective image envDigest routeConditions now).image = image.status := by
  cases envDigest with
  | none | some => exact ⟨rfl, rfl⟩

variable (ctx : Context)

theorem runs_apply_section (claims : List ClaimView) (envDigest : Option String)
    (consume : Bool) (underway : Underway sha256Hex app effective [] history) :
    Runs (appAllowed parseImageRef sha256Hex app) (fun _ _ => True) history
      (applySection parseImageRef ctx app effective claims envDigest consume) := by
  unfold applySection
  rw [runs_bind]
  refine runs_mono _ ?_ (runs_image_section parseImageRef _ app _ underway)
  intro settled decision found
  obtain ⟨trail, decided, underway⟩ := found
  extract_lets rendered
  refine ⟨trivial, fun attached => ?_⟩
  change Runs _ _ _ (try_ attached >>= _)
  rw [runs_bind]
  refine runs_try _ attached ?_
  intro pullSecret _
  have attachedLater := underway_calm sha256Hex attached underway rfl
  have same := rendered_effective effective claims decision.resolved pullSecret
  have shown := shows_rendered effective claims decision pullSecret
  refine ⟨⟨same.symm ▸ attachedLater.1, decision, ?_, shown⟩, fun applied => ?_⟩
  · rw [same, attachedLater.2]
    exact decided
  change Runs _ _ _ (try_ applied >>= _)
  rw [runs_bind]
  refine runs_try _ applied ?_
  intro _ made
  have marked := underway_mark _ app trail ⟨.applyDeployment { rendered with pullSecret := pullSecret },
    applied⟩ attachedLater rfl Mark.noConfusion
  rw [runs_bind]
  refine runs_mono _ ?_ (runs_of_spec parseImageRef sha256Hex (asks_apply_children effective ctx) marked)
  intro childrenApplied _ childrenLater
  refine (runs_ask _ _ _ _).mpr ⟨trivial, fun now => ?_⟩
  rw [runs_bind]
  refine runs_mono _ ?_ (runs_of_spec parseImageRef sha256Hex (asks_public_route_conditions effective ctx app now)
    (underway_calm _ now childrenLater rfl))
  intro conditioned routeConditions last
  obtain ⟨stamped, imaged⟩ := rendered_status_stamps app effective decision envDigest routeConditions now
  refine ⟨.inr ⟨stamped, trail, _, decision, ?_, ?_, shown, imaged, ?_⟩, fun written => ?_⟩
  · rw [last.2, made]
  · rw [same]
    exact decided
  · rw [same]
    exact underway.1.1
  change Runs _ _ _ (try_ written >>= _)
  rw [runs_bind]
  refine runs_try _ written ?_
  intro _ _
  cases consume with
  | false => trivial
  | true =>
    change Runs _ _ _ (deleteAllKeyPlansExcept app.name (app.spec.environment.getD "") none >>= _)
    rw [runs_bind]
    refine runs_mono _ ?_ (runs_plain parseImageRef sha256Hex app (asks_delete_all _ _ none) rfl)
    intro _ _ _
    trivial

theorem runs_render_section (consume : Bool) (underway : Underway sha256Hex app effective [] history) :
    Runs (appAllowed parseImageRef sha256Hex app) (fun _ _ => True) history
      (renderSection parseImageRef ctx app effective consume) := by
  simp only [renderSection]
  rw [runs_bind]
  refine runs_mono _ ?_ (runs_claim_section parseImageRef _ app _ underway)
  intro claimed outcome claimedLater
  cases outcome with
  | inl paused => trivial
  | inr claims =>
    rw [runs_bind]
    refine runs_mono _ ?_ (runs_env_section parseImageRef _ app _ (claimedLater rfl))
    intro checked outcome checkedLater
    cases outcome with
    | inl paused => trivial
    | inr envDigest =>
      exact runs_apply_section parseImageRef sha256Hex app effective ctx claims envDigest consume (checkedLater rfl)

theorem runs_create_gating_plan (history : List (Exchange appApi)) (candidates : List DestructiveChange)
    (unmarked : marks history = []) :
    Runs (appAllowed parseImageRef sha256Hex app) (fun _ _ => True) history (createGatingPlan sha256Hex app candidates) := by
  refine (runs_ask _ _ _ _).mpr ⟨trivial, fun now => ?_⟩
  cases app.uid with
  | none => trivial
  | some uid =>
    simp only
    cases createPlanFor sha256Hex candidates (planName app.name (app.spec.environment.getD "") now) app.ns app.name
      (app.spec.environment.getD "") uid with
    | none => trivial
    | some plan =>
      refine ⟨trivial, fun reply => ?_⟩
      change Runs _ _ _ (try_ reply >>= _)
      rw [runs_bind]
      refine runs_try _ reply ?_
      intro _ _
      refine runs_pause parseImageRef sha256Hex app _ _ 30 _ ?_ (fun _ => ⟨rfl, rfl⟩) (fun _ _ => trivial)
      rw [marks_calm _ _ _ rfl, marks_calm _ _ _ rfl]
      exact unmarked

-- Nothing destructive changed, or the plan the lookup picked approves exactly these changes.
theorem gate_open_decided (history : List (Exchange appApi)) {candidates : List DestructiveChange}
    (plans : List MigrationPlan) (found : gateCandidates app effective = some candidates)
    (listed : (⟨.listPlans, .ok plans⟩ : Exchange appApi) ∈ history)
    (renders : decideMigration candidates.head?.isSome (gatePlanState sha256Hex
        (pickAnyKeyPlan plans app.name app.ns app.spec.environment) candidates) = .render ∨
      decideMigration candidates.head?.isSome (gatePlanState sha256Hex
        (pickAnyKeyPlan plans app.name app.ns app.spec.environment) candidates) = .deleteThenRender ∨
      decideMigration candidates.head?.isSome (gatePlanState sha256Hex
        (pickAnyKeyPlan plans app.name app.ns app.spec.environment) candidates) = .consumeApply) :
    GateOpen sha256Hex app history effective := by
  intro baseline old stamped rendered changed
  have same : detectAll old effective app.name = candidates := by
    rw [gateCandidates, stamped] at found
    simp only [rendered] at found
    exact Option.some.inj found
  rw [same] at changed ⊢
  cases first : candidates.head? with
  | none => exact absurd (head?_eq_none_iff.mp first) changed
  | some change =>
    rw [first] at renders
    cases decide_renders true _ renders with
    | inl none => exact nomatch none
    | inr state =>
      simp only [gatePlanState, first] at state
      obtain ⟨plan, picked, completed, hash⟩ := plan_state_completed change candidates state
      have matched : planScopeMatches plan app.name app.ns app.spec.environment = true := by
        simpa using find?_some (show List.find? _ plans = some plan from picked)
      exact ⟨plans, plan, listed, mem_of_find?_eq_some picked, matched, completed, hash⟩

theorem runs_gate_section (candidates : List DestructiveChange)
    (valid : effectiveSpec app.spec app.spec.environment = .ok effective)
    (found : gateCandidates app effective = some candidates) :
    Runs (appAllowed parseImageRef sha256Hex app) (fun _ _ => True) []
      (gateSection parseImageRef sha256Hex ctx app effective candidates) := by
  refine ⟨trivial, fun reply => ?_⟩
  change Runs _ _ _ (try_ reply >>= _)
  rw [runs_bind]
  refine runs_try _ reply ?_
  intro plans same
  have unmarked : marks [⟨.listPlans, reply⟩] = [] := rfl
  have listed : (⟨.listPlans, .ok plans⟩ : Exchange appApi) ∈ [(⟨.listPlans, reply⟩ : Exchange appApi)] := by
    rw [same]
    exact mem_singleton_self _
  have underway : GateOpen sha256Hex app [⟨.listPlans, reply⟩] effective →
      Underway sha256Hex app effective [] [⟨.listPlans, reply⟩] := by
    intro opened
    exact ⟨⟨valid, opened, by simp [unmarked]⟩, unmarked⟩
  have gate := gate_open_decided sha256Hex app _ [⟨.listPlans, reply⟩] plans found listed
  have paused : ∀ status : Nat → ApplicationStatus, (∀ now, Carries app (status now)) →
      Runs (appAllowed parseImageRef sha256Hex app) (fun _ _ => True) [⟨.listPlans, reply⟩] (pause status 30) := by
    intro status carries
    exact runs_pause parseImageRef sha256Hex app _ status 30 _ unmarked carries (fun _ _ => trivial)
  dsimp only
  cases decided : decideMigration candidates.head?.isSome
      (gatePlanState sha256Hex (pickAnyKeyPlan plans app.name app.ns app.spec.environment) candidates) with
  | render =>
    exact runs_render_section parseImageRef sha256Hex app effective ctx false (underway (gate (.inl decided)))
  | createPlan => exact runs_create_gating_plan parseImageRef sha256Hex app _ candidates unmarked
  | noOp => exact paused _ fun _ => ⟨rfl, rfl⟩
  | deleteThenCreate =>
    rw [runs_bind]
    refine runs_mono _ ?_ (runs_plain parseImageRef sha256Hex app (asks_delete_all _ _ none) unmarked)
    intro deleted _ unmarked
    exact runs_create_gating_plan parseImageRef sha256Hex app deleted candidates unmarked
  | consumeApply =>
    exact runs_render_section parseImageRef sha256Hex app effective ctx true (underway (gate (.inr (.inr decided))))
  | deleteThenRender =>
    rw [runs_bind]
    have asks : (deleteAllKeyPlansExcept app.name (app.spec.environment.getD "") none).Asks (ofSpec effective) :=
      asks_mono (plain_of_spec effective) (asks_delete_all _ _ none)
    refine runs_mono _ ?_ (runs_of_spec parseImageRef sha256Hex asks (underway (gate (.inr (.inl decided)))))
    intro deleted _ later
    exact runs_render_section parseImageRef sha256Hex app effective ctx false later
  | blockFailed => exact paused _ fun _ => ⟨rfl, rfl⟩

theorem reconcile_runs :
    Runs (appAllowed parseImageRef sha256Hex app) (fun _ _ => True) [] (reconcile parseImageRef sha256Hex ctx app) := by
  simp only [reconcile]
  by_cases deleted : app.deletionTimestamp.isSome = true
  · rw [if_pos deleted]
    trivial
  · rw [if_neg deleted]
    cases valid : effectiveSpec app.spec app.spec.environment with
    | error why => exact runs_pause parseImageRef sha256Hex app [] _ 60 _ rfl (fun _ => ⟨rfl, rfl⟩) (fun _ _ => trivial)
    | ok effective =>
      cases found : gateCandidates app effective with
      | none =>
        simp only [found]
        trivial
      | some candidates =>
        simp only [found]
        exact runs_gate_section parseImageRef sha256Hex app effective ctx candidates valid found

end Reconcile

end AppRafter.Application
