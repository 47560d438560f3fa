import AppRafter.Lib.Machine
import AppRafter.Webhook.Phase

set_option autoImplicit false

namespace AppRafter.Migration

open Lib

inductive StepOutcome where
  | succeeded
  | failed (message : String)
  | skipped (reason : String)

inductive MigrationError where
  | kube (why : String)
  | noSnapshot (plan : String)
  | snapshotShape (plan why : String)
  | backend (why : String)

inductive ExecutionError where
  | kube (why : String)
  | strategy (why : MigrationError)
  | unknownScope (text : String)
  | unknownPhase (text : String)

-- What a reconcile asks for: the clock, its strategy, one status write.
inductive ExecutionRequest where
  | now
  | executeStep (step : MigrationStep)
  | reject
  | writeStatus (status : MigrationPlanStatus)

def executionApi : Api where
  Request := ExecutionRequest
  Response
    | .now => Nat
    | .executeStep _ => Except MigrationError StepOutcome
    | .reject => Except MigrationError Unit
    | .writeStatus _ => Except String Unit

inductive RequeueAfter where
  | awaitChange
  | seconds (n : Nat)

abbrev Execution := Prog executionApi ExecutionError RequeueAfter

inductive StrategyKey where
  | application
  | platform
  | sourceCredential

def pickStrategyKey : ScopeType → Except ExecutionError StrategyKey
  | .application => .ok .application
  | .platform => .ok .platform
  | .sourcecredential => .ok .sourceCredential
  | .other text _ => .error (.unknownScope text)

def withPhase (prior : Option MigrationPlanStatus) (phase : Phase) : MigrationPlanStatus :=
  { prior.getD {} with phase := some phase }

def writeStatus (status : MigrationPlanStatus) (action : RequeueAfter) : Execution :=
  .call (.writeStatus status) fun
    | .ok _ => .done action
    | .error why => .fail (.kube why)

def recordOutcome : StepOutcome → StepResult × Option String
  | .succeeded => (.succeeded, none)
  | .failed message => (.failed, some message)
  | .skipped reason => (.skipped, some reason)

variable (plan : MigrationPlan)

def executedSteps : List ExecutedStep := (plan.status.bind (·.executedSteps)).getD []

def planSteps : List MigrationStep := plan.spec.plan.getD []

def recordStep (step : MigrationStep) (startedAt finishedAt : Nat) (outcome : StepOutcome) : ExecutedStep :=
  { step := step.step
    startedAt := startedAt
    finishedAt := some finishedAt
    outcome := (recordOutcome outcome).1
    message := (recordOutcome outcome).2 }

def nextPhase (steps executed : Nat) : StepOutcome → Phase
  | .failed _ => .failed
  | _ => if executed ≥ steps then .completed else .executing

def executeNextStep : Execution :=
  match (planSteps plan)[(executedSteps plan).length]? with
  | none => writeStatus (withPhase plan.status .completed) .awaitChange
  | some step =>
    .call .now fun startedAt =>
      .call (.executeStep step) fun
        | .error why => .fail (.strategy why)
        | .ok outcome =>
          .call .now fun finishedAt =>
            let executed := executedSteps plan ++ [recordStep step startedAt finishedAt outcome]
            let next := nextPhase (planSteps plan).length executed.length outcome
            writeStatus { plan.status.getD {} with phase := some next, executedSteps := some executed }
              (if next = .executing then .seconds 1 else .awaitChange)

def rejectOnce : Execution :=
  if (plan.status.bind (·.rejectedAt)).isSome then .done .awaitChange else
    .call .reject fun
      | .error why => .fail (.strategy why)
      | .ok _ => .call .now fun now =>
        writeStatus { plan.status.getD {} with rejectedAt := some now } .awaitChange

def reconcile : Execution :=
  match pickStrategyKey plan.spec.scope.type with
  | .error why => .fail why
  | .ok _ =>
    match plan.phase with
    | .pendingApproval => .done .awaitChange
    | .approved => writeStatus (withPhase plan.status .executing) (.seconds 1)
    | .executing => executeNextStep plan
    | .rejected => rejectOnce plan
    | .completed => .done .awaitChange
    | .failed => .done .awaitChange
    | .other text _ => .fail (.unknownPhase text)

-- `rejects` counts the runs of the strategy's reject effect.
structure PlanWorld where
  plan : MigrationPlan
  rejects : Nat

-- The time, what the strategy does, and whether the write and its reply arrive.
structure PlanFate where
  time : Nat
  outcome : Except MigrationError StepOutcome
  rejected : Except MigrationError Unit
  committed : Bool
  replied : Bool

variable (world : PlanWorld)

def PlanWorld.phase : Option Phase := world.plan.status.bind (·.phase)

def PlanWorld.scope : ScopeType := world.plan.spec.scope.type

def PlanWorld.setStatus (status : MigrationPlanStatus) : PlanWorld :=
  { world with plan := { world.plan with status := some status } }

-- A forced apply writes the status whole, if the webhook admits its phase.
def serve (fate : PlanFate) : (request : ExecutionRequest) → executionApi.Response request × PlanWorld
  | .now => (fate.time, world)
  | .executeStep _ => (fate.outcome, world)
  | .reject => (fate.rejected, { world with rejects := world.rejects + 1 })
  | .writeStatus status =>
    if Webhook.phaseAdmitted world.phase status.phase world.scope && fate.committed then
      (if fate.replied then .ok () else .error "no reply", world.setStatus status)
    else (.error "not written", world)

-- Edits keep the scope and the steps, and the outcomes are the controller's own.
inductive PlanChange where
  | phase (phase : Phase) (approvedAt approvedBy : Option String)
  | edit (spec : MigrationPlanSpec)

def change : PlanChange → Option PlanWorld
  | .phase phase approvedAt approvedBy =>
    if Webhook.phaseAdmitted world.phase (some phase) world.scope = true ∧ phase ≠ .completed ∧ phase ≠ .failed then
      some (world.setStatus
        { world.plan.status.getD {} with phase := some phase, approvedAt := approvedAt, approvedBy := approvedBy })
    else none
  | .edit spec =>
    if spec.scope = world.plan.spec.scope ∧ spec.plan = world.plan.spec.plan then
      some { world with plan := { world.plan with spec := spec } }
    else none

def freshPlan : Prop :=
  executedSteps world.plan = [] ∧ world.plan.status.bind (·.rejectedAt) = none ∧
    world.phase ≠ some .completed ∧ world.phase ≠ some .failed

def planMachine : Machine executionApi ExecutionError RequeueAfter PlanWorld PlanFate PlanChange where
  initial := freshPlan
  begin world := reconcile world.plan
  serve := serve
  change := change

end AppRafter.Migration
