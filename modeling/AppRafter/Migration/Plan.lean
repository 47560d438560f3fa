import AppRafter.Application.Claims
import AppRafter.Migration.Detect

set_option autoImplicit false

namespace AppRafter.Migration

open Lib Application

def phaseNames : List String := ["pending-approval", "approved", "executing", "completed", "failed", "rejected"]

-- status.phase; `other` is a text outside the declared vocabulary.
inductive Phase where
  | pendingApproval
  | approved
  | executing
  | completed
  | failed
  | rejected
  | other (text : String) (outside : text ∉ phaseNames)
deriving DecidableEq

def scopeNames : List String := ["application", "platform", "sourcecredential"]

inductive ScopeType where
  | application
  | platform
  | sourcecredential
  | other (text : String) (outside : text ∉ scopeNames)
deriving DecidableEq

structure MigrationApplicationRef where
  name : String
  ns : String
deriving DecidableEq

structure MigrationApplicationScope where
  ref : MigrationApplicationRef
  environment : String
deriving DecidableEq

structure MigrationPlatformScope where
  components : List String
deriving DecidableEq

structure MigrationSourceCredentialRef where
  name : String
  ns : String
deriving DecidableEq

structure MigrationSourceCredentialScope where
  ref : MigrationSourceCredentialRef
deriving DecidableEq

structure MigrationPlanScope where
  type : ScopeType
  application : Option MigrationApplicationScope := none
  platform : Option MigrationPlatformScope := none
  sourcecredential : Option MigrationSourceCredentialScope := none
deriving DecidableEq

structure MigrationTrigger where
  type : String
  field : String
  before : Option String := none
  after : Option String := none
  approvedSpecHash : Option String := none
deriving DecidableEq

structure MigrationChange where
  trigger : String
  field : String
  classification : String
  severity : Nat
  before : Option String
  after : Option String
deriving DecidableEq

structure MigrationRisks where
  classification : String
  classifications : Option (List String)
deriving DecidableEq

structure MigrationStep where
  step : Nat
  action : String
  estimatedDuration : Option String := none
  reversible : Option Bool := none
deriving DecidableEq

structure MigrationPlanSpec where
  scope : MigrationPlanScope
  trigger : MigrationTrigger
  risks : Option MigrationRisks := none
  changes : Option (List MigrationChange) := none
  plan : Option (List MigrationStep) := none
  approvers : Option (List String) := none
deriving DecidableEq

inductive StepResult where
  | succeeded
  | failed
  | skipped
deriving DecidableEq

structure ExecutedStep where
  step : Nat
  startedAt : Nat
  finishedAt : Option Nat
  outcome : StepResult
  message : Option String
deriving DecidableEq

structure MigrationPlanStatus where
  phase : Option Phase := none
  approvedAt : Option String := none
  approvedBy : Option String := none
  executedSteps : Option (List ExecutedStep) := none
  rejectedAt : Option Nat := none
deriving DecidableEq

structure MigrationPlan where
  name : String
  ns : String
  labels : List (String × String) := []
  ownerReferences : List OwnerReference := []
  spec : MigrationPlanSpec
  status : Option MigrationPlanStatus := none
deriving DecidableEq

variable (plan : MigrationPlan)

def MigrationPlan.phase : Phase := (plan.status.bind (·.phase)).getD .pendingApproval

def planIsBlocking : Bool := !(plan.phase == .completed || plan.phase == .rejected)

inductive PlanState where
  | none
  | blockingMatch
  | blockingMismatch
  | failed
  | completedMatch
  | relic
deriving DecidableEq

inductive MigrationDecision where
  | render
  | createPlan
  | noOp
  | deleteThenCreate
  | consumeApply
  | deleteThenRender
  | blockFailed
deriving DecidableEq

def decideMigration (hasChange : Bool) (state : PlanState) : MigrationDecision :=
  match hasChange, state with
  | false, .none => .render
  | false, _ => .deleteThenRender
  | true, .none => .createPlan
  | true, .blockingMatch => .noOp
  | true, .blockingMismatch => .deleteThenCreate
  | true, .failed => .blockFailed
  | true, .completedMatch => .consumeApply
  | true, .relic => .deleteThenCreate

def planHashMatches (currentHash : String) : Bool :=
  match plan.spec.trigger.approvedSpecHash with
  | some hash => if hash.toList.isEmpty then false else hash == currentHash
  | none => false

def triggerMatches (current : DestructiveChange) : Bool :=
  plan.spec.trigger.type == current.triggerType.text && plan.spec.trigger.field == current.field

theorem plan_hash_matches {plan : MigrationPlan} {currentHash : String} (matched : planHashMatches plan currentHash = true) :
    ∃ hash, plan.spec.trigger.approvedSpecHash = some hash ∧ hash ≠ "" ∧ hash = currentHash := by
  cases stamped : plan.spec.trigger.approvedSpecHash with
  | none => simp [planHashMatches, stamped] at matched
  | some hash =>
    by_cases empty : hash.toList.isEmpty = true
    · simp [planHashMatches, stamped, empty] at matched
    · refine ⟨hash, rfl, ?_, by simpa [planHashMatches, stamped, empty] using matched⟩
      intro blank
      rw [blank] at empty
      exact empty (by decide)

section Hash

variable (sha256Hex : String → String)

def planState (plan : Option MigrationPlan) (current : DestructiveChange) (currentChanges : List DestructiveChange) :
    PlanState :=
  match plan with
  | none => .none
  | some plan =>
    if plan.phase = .failed then .failed
    else if planIsBlocking plan then
      if triggerMatches plan current then .blockingMatch else .blockingMismatch
    else if plan.phase = .completed ∧ triggerMatches plan current = true then
      if planHashMatches plan (changeHash sha256Hex currentChanges) then .completedMatch else .relic
    else .relic

def planStateNoChange (plan : Option MigrationPlan) : PlanState :=
  match plan with
  | none => .none
  | some _ => .relic

-- A text order on classifications: severity down, then the name up.
def classificationOrder (a b : Classification) : Prop :=
  classificationSeverity b < classificationSeverity a ∨
    (classificationSeverity b = classificationSeverity a ∧ a.text ≤ b.text)

instance : DecidableRel classificationOrder := fun _ _ =>
  inferInstanceAs (Decidable (_ < _ ∨ (_ = _ ∧ _ ≤ _)))

variable (candidates : List DestructiveChange)

def distinctClassifications : List Classification :=
  ((candidates.foldl
    (fun seen change => if seen.contains change.classification then seen else seen ++ [change.classification])
    []).insertionSort classificationOrder)

def migrationChange (change : DestructiveChange) : MigrationChange :=
  { trigger := change.triggerType.text
    field := change.field
    classification := change.classification.text
    severity := classificationSeverity change.classification
    before := change.before
    after := change.after }

-- `none` is the source's panic on an empty candidate set.
def planBody : Option (MigrationTrigger × MigrationRisks × List MigrationChange) :=
  (pickPrimary candidates).map fun primary =>
    let distinct := (distinctClassifications candidates).map Classification.text
    ({ type := primary.triggerType.text
       field := primary.field
       before := primary.before
       after := primary.after
       approvedSpecHash := some (changeHash sha256Hex candidates) },
      { classification := primary.classification.text
        classifications := if distinct.isEmpty then none else some distinct },
      (sortCandidates candidates).map migrationChange)

def createPlanFor (planName applicationNs applicationName environment appUid : String) :
    Option MigrationPlan :=
  (planBody sha256Hex candidates).map fun body =>
    { name := planName
      ns := applicationNs
      labels := [("apprafter.io/scope", "application"), ("apprafter.io/application", applicationName),
          ("apprafter.io/application-namespace", applicationNs), ("apprafter.io/environment", environment)]
      ownerReferences := [applicationOwner applicationName appUid]
      spec :=
        { scope :=
            { type := .application
              application := some { ref := ⟨applicationName, applicationNs⟩, environment := environment } }
          trigger := body.1
          risks := some body.2.1
          changes := some body.2.2 } }

variable {sha256Hex}

-- The only state that lets a changed spec through, and all that it requires.
theorem plan_state_completed {plan : Option MigrationPlan} (current : DestructiveChange)
    (changes : List DestructiveChange) (state : planState sha256Hex plan current changes = .completedMatch) :
    ∃ approved, plan = some approved ∧ approved.phase = .completed ∧
      ∃ hash, approved.spec.trigger.approvedSpecHash = some hash ∧ hash ≠ "" ∧ hash = changeHash sha256Hex changes := by
  cases plan with
  | none => exact PlanState.noConfusion state
  | some approved =>
    by_cases failed : approved.phase = .failed
    · simp [planState, failed] at state
    · by_cases blocking : planIsBlocking approved = true
      · by_cases gating : triggerMatches approved current = true
        · simp [planState, failed, blocking, gating] at state
        · simp [planState, failed, blocking, gating] at state
      · by_cases terminal : approved.phase = .completed ∧ triggerMatches approved current = true
        · by_cases matched : planHashMatches approved (changeHash sha256Hex changes) = true
          · exact ⟨approved, rfl, terminal.1, plan_hash_matches matched⟩
          · simp [planState, blocking, terminal, matched] at state
        · simp [planState, failed, blocking, terminal] at state

end Hash

theorem decide_renders (hasChange : Bool) (state : PlanState)
    (renders : decideMigration hasChange state = .render ∨ decideMigration hasChange state = .deleteThenRender ∨
      decideMigration hasChange state = .consumeApply) :
    hasChange = false ∨ state = .completedMatch := by
  cases hasChange with
  | false => exact .inl rfl
  | true =>
    refine .inr ?_
    cases state <;> first | rfl | exact absurd renders (by decide)

open List

def hideLiteral : EnvValue → EnvValue
  | .literal _ => .literal ""
  | .ref target => .ref target

def hideLiterals (spec : ApplicationBaseSpec) : ApplicationBaseSpec := { spec with env := spec.env.map (Dict.map · hideLiteral) }

theorem env_of_hidden (spec : ApplicationBaseSpec) : envOf (hideLiterals spec) = (envOf spec).map hideLiteral := by
  cases held : spec.env with
  | none => simp [envOf, hideLiterals, held, Dict.empty, Dict.map]
  | some env => simp [envOf, hideLiterals, held]

variable (old new : ApplicationBaseSpec)

theorem env_ref_removals_hidden : detectEnvRefRemovals (hideLiterals old) (hideLiterals new) = detectEnvRefRemovals old new := by
  rw [detectEnvRefRemovals, env_of_hidden, env_of_hidden, Dict.keys_map, Dict.entries_map, flatMap_map]
  congr 1
  funext entry
  cases entry.2 with
  | literal value => rfl
  | ref target => rfl

theorem env_value_hidden (key : String) (old : Option EnvValue) (new : EnvValue) :
    detectEnvValue key (old.map hideLiteral) (hideLiteral new) = detectEnvValue key old new := by
  cases old with
  | none =>
    cases new with
    | literal value => rfl
    | ref target => rfl
  | some held =>
    cases held with
    | literal value =>
      cases new with
      | literal other => rfl
      | ref target => cases target <;> rfl
    | ref held =>
      cases new with
      | literal other => cases held <;> rfl
      | ref target => rfl

theorem env_refs_hidden : detectEnvRefs (hideLiterals old) (hideLiterals new) = detectEnvRefs old new := by
  rw [detectEnvRefs, env_of_hidden, env_of_hidden, Dict.entries_map, flatMap_map]
  congr 1
  funext entry
  rw [Dict.get_map]
  exact env_value_hidden entry.1 _ entry.2

theorem detect_all_hidden (appName : String) :
    detectAll (hideLiterals old) (hideLiterals new) appName = detectAll old new appName := by
  have candidates : detectCandidates (hideLiterals old) (hideLiterals new) appName = detectCandidates old new appName := by
    rw [detectCandidates, env_ref_removals_hidden, env_refs_hidden]
    rfl
  rw [detectAll, detectAll, candidates]

-- The candidates, the plan cut for them and its hash do not see literal env values.
theorem literal_values_unseen (sha256Hex : String → String) (old new otherOld otherNew : ApplicationBaseSpec)
    (appName : String) (sameOld : hideLiterals old = hideLiterals otherOld)
    (sameNew : hideLiterals new = hideLiterals otherNew) :
    detectAll old new appName = detectAll otherOld otherNew appName ∧
      planBody sha256Hex (detectAll old new appName) = planBody sha256Hex (detectAll otherOld otherNew appName) ∧
      changeHash sha256Hex (detectAll old new appName) = changeHash sha256Hex (detectAll otherOld otherNew appName) := by
  have same : detectAll old new appName = detectAll otherOld otherNew appName := by
    rw [← detect_all_hidden old new, ← detect_all_hidden otherOld otherNew, sameOld, sameNew]
  exact ⟨same, by rw [same], by rw [same]⟩

def tokenSpec (token : EnvValue) : ApplicationBaseSpec :=
  { image := some "ghcr.io/acme/shop:1.4", env := some ⟨[("TOKEN", token)], pairwise_singleton _ _⟩ }

theorem literal_values_unseen_token :
    detectAll (tokenSpec (.ref (.secret "vault/token"))) (tokenSpec (.literal "hunter2")) "shop" =
        detectAll (tokenSpec (.ref (.secret "vault/token"))) (tokenSpec (.literal "letmein")) "shop" ∧
      detectAll (tokenSpec (.ref (.secret "vault/token"))) (tokenSpec (.literal "hunter2")) "shop" ≠ [] :=
  ⟨(literal_values_unseen id _ _ _ _ "shop" rfl (by decide)).1, by decide⟩

end AppRafter.Migration
