import AppRafter.Platform.Reconcile

set_option autoImplicit false

namespace AppRafter.Platform

open Lib

def reconcileDeadlineSecs : Nat := 120

def stalledWording (afterSecs : Nat) : Wording :=
  { status := "True"
    reason := "ReconcileTimedOut"
    message := "the last reconcile did not finish within " ++ toString afterSecs ++
      "s and was abandoned; the other conditions are from the last reconcile that finished" }

section Stall

variable (stack : PlatformStack) (clock : PassClock)

def stalledCondition : PlatformStackCondition :=
  condition condReconcileStalled (stalledWording reconcileDeadlineSecs) stack.conditions (clock.built condReconcileStalled)

-- A write that fails is given up, and the pass is over all the same.
def setStalled : StackProg Unit := .call (.applyStalled [stalledCondition stack clock]) fun _ => .done ()

def markWrites : StackProg Unit :=
  if ownsListWhole stack stallFieldManager then
    .call (.applyStalled []) fun reply =>
      match reply with
      | .error _ => .done ()
      | .ok _ => setStalled stack clock
  else setStalled stack clock

def mark : StackProg Unit :=
  if stack.name ≠ "default" ∨ markMayWrite stack = false then .done () else
    .call .crdMergesConditions fun reply =>
      match reply with
      | .ok true => markWrites stack clock
      | _ => .done ()

-- One left behind that nobody owns is adopted, and let go of again.
def adoptAndRelease (left : PlatformStackCondition) : StackProg Unit :=
  .call (.applyStalled [left]) fun reply =>
    match reply with
    | .error _ => .done ()
    | .ok _ => .call (.applyStalled []) fun _ => .done ()

def afterRelease (released : PlatformStack) : StackProg Unit :=
  match stalled released with
  | none => .done ()
  | some left => if otherHolders released = [] then adoptAndRelease left else .done ()

def remove : StackProg Unit :=
  .call .crdMergesConditions fun reply =>
    match reply with
    | .ok true =>
      .call (.applyStalled []) fun reply =>
        match reply with
        | .error _ => .done ()
        | .ok released => afterRelease released
    | _ => .done ()

def clear : StackProg Unit :=
  if stack.name ≠ "default" ∨ stalled stack = none ∨ controllerOwnsConditionsByKey stack = false then .done () else remove

variable (time : Rfc3339)

def closing : Option Unit → StackProg Unit
  | some _ => clear stack
  | none => mark stack clock

-- How many answers come before the cut, and whether its next request is out by then.
def reconcileWithDeadline (deadline : Option (Nat × Bool)) : StackProg Unit :=
  match deadline with
  | none => do
      reconcile time stack clock
      clear stack
  | some (left, sent) => do
      let finished ← (reconcile time stack clock).within left sent
      closing stack clock finished

end Stall

structure StackWorld where
  live : PlatformStack
  cached : PlatformStack
  parent : Parent := {}
  plans : List PlatformPlan := []
  unrecorded : List VersionHistoryEntry := []
  clock : PassClock
  deadline : Option (Nat × Bool) := none

-- `compatibility` is the document at the target, `parent` the rest of it after a patch.
structure StackFate where
  lands : Bool := true
  answer : Reply Unit := .ok ()
  latest : Reply Resolved := .error "unreachable"
  compatibility : Reply CompatibilityDoc := .error "unreachable"
  parent : Parent := {}
  backup : Verdict × Verdict := (.absent, .absent)
  sample : Option Wording := none
  merges : Bool := true

def StackFate.landed (fate : StackFate) : Bool := fate.lands || fate.answer.isOk

def StackFate.read {Value : Type} (fate : StackFate) (value : Value) : Reply Value := fate.answer.map fun _ => value

def StackFate.write (fate : StackFate) (world after : StackWorld) : StackWorld := if fate.landed then after else world

variable (world : StackWorld)

def serveStatus (fate : StackFate) (status : PlatformStackStatus) : Reply Unit × StackWorld :=
  match applyStatus world.live status with
  | none => (.error "Invalid", world)
  | some live => (fate.answer, fate.write world { world with live := live })

def serveStalled (fate : StackFate) (sent : List PlatformStackCondition) : Reply PlatformStack × StackWorld :=
  match applyStalled world.live sent with
  | none => (.error "Invalid", world)
  | some live => (fate.read live, fate.write world { world with live := live })

def serveCreate (fate : StackFate) (plan : PlatformPlan) : Reply Unit × StackWorld :=
  if (findPlan world.plans plan.name).isSome then (.error "AlreadyExists", world)
  else (fate.answer, fate.write world { world with plans := world.plans ++ [plan] })

def serveStack (fate : StackFate) : (request : stackApi.Request) → stackApi.Response request × StackWorld
  | .channelLatest _ _ => (fate.latest, world)
  | .getParent => (fate.read world.parent, world)
  | .assessBackupHealth => (fate.backup, world)
  | .getPlan name => (fate.read (findPlan world.plans name), world)
  | .pathMaxChangeClass _ source target => (fate.compatibility.map fun doc => pathMaxChangeClass doc source target, world)
  | .getAnchor => ((), world)
  | .createPlan plan => serveCreate world fate plan
  | .listPlans => (fate.read world.plans, world)
  | .deletePlan name => ((), fate.write world { world with plans := world.plans.filter fun plan => plan.name != name })
  | .reconcileAnchorHealth _ => ((), world)
  | .publish _ _ => ((), world)
  | .patchApplication target _ _ =>
    (fate.answer, fate.write world { world with parent := { fate.parent with targetRevision := target } })
  | .noteBump entry => ((), { world with unrecorded := noteBump world.unrecorded entry })
  | .sampleNode => (fate.sample, world)
  | .unrecordedBumps => (world.unrecorded, world)
  | .getStatus => (fate.read (world.live.prior.versionHistory.getD []), world)
  | .applyStatus status => serveStatus world fate status
  | .forgetBumps recorded => ((), { world with unrecorded := forgetBumps world.unrecorded recorded })
  | .crdMergesConditions => (fate.read fate.merges, world)
  | .applyStalled sent => serveStalled world fate sent

inductive StackChange where
  | live (stack : PlatformStack)
  | cache (stack : PlatformStack)
  | parent (parent : Parent)
  | plans (plans : List PlatformPlan)
  | clock (clock : PassClock)
  | deadline (deadline : Option (Nat × Bool))

structure Others where
  stack : PlatformStack → PlatformStack → Bool := fun _ _ => true
  plans : List PlatformPlan → List PlatformPlan → Bool := fun _ _ => true

def changeStack (others : Others) (world : StackWorld) : StackChange → Option StackWorld
  | .live stack => if others.stack world.live stack then some { world with live := stack } else none
  | .cache stack => some { world with cached := stack }
  | .parent parent =>
    if parent.targetRevision = world.parent.targetRevision then some { world with parent := parent } else none
  | .plans plans => if others.plans world.plans plans then some { world with plans := plans } else none
  | .clock clock => some { world with clock := clock }
  | .deadline deadline => some { world with deadline := deadline }

abbrev StackMachine := Machine stackApi String Unit StackWorld StackFate StackChange

def stackMachine (time : Rfc3339) (others : Others) (initial : StackWorld → Prop) : StackMachine where
  initial := initial
  begin world := reconcileWithDeadline world.cached world.clock time world.deadline
  serve := serveStack
  change := changeStack others

section Serve

variable (world : StackWorld) (fate : StackFate)

inductive Leaves (world : StackWorld) : StackRequest → StackWorld → Prop where
  | same (request : StackRequest) : Leaves world request world
  | created (plan : PlatformPlan) (free : findPlan world.plans plan.name = none) :
      Leaves world (.createPlan plan) { world with plans := world.plans ++ [plan] }
  | deleted (name : String) :
      Leaves world (.deletePlan name) { world with plans := world.plans.filter fun plan => plan.name != name }
  | patched (target values : String) (pending : Option PendingUpgrade) (parent : Parent) (revision : parent.targetRevision = target) :
      Leaves world (.patchApplication target values pending) { world with parent := parent }
  | noted (request : StackRequest) (unrecorded : List VersionHistoryEntry) : Leaves world request { world with unrecorded := unrecorded }
  | status (status : PlatformStackStatus) (live : PlatformStack) (applied : applyStatus world.live status = some live) :
      Leaves world (.applyStatus status) { world with live := live }
  | stalled (sent : List PlatformStackCondition) (live : PlatformStack) (applied : applyStalled world.live sent = some live) :
      Leaves world (.applyStalled sent) { world with live := live }

theorem served_write {request : StackRequest} {after : StackWorld} (served : Leaves world request after) :
    Leaves world request (fate.write world after) := by
  rw [StackFate.write]
  split
  · exact served
  · exact .same request

theorem serve_served (request : StackRequest) : Leaves world request (serveStack world fate request).2 := by
  cases request with
  | createPlan plan =>
    change Leaves world _ (serveCreate world fate plan).2
    cases taken : findPlan world.plans plan.name with
    | some other =>
      rw [serveCreate, taken]
      exact .same _
    | none =>
      rw [serveCreate, taken]
      exact served_write world fate (.created plan taken)
  | deletePlan name => exact served_write world fate (.deleted name)
  | patchApplication target values pending => exact served_write world fate (.patched target values pending _ rfl)
  | noteBump | forgetBumps => exact .noted _ _
  | applyStatus status =>
    change Leaves world _ (serveStatus world fate status).2
    cases applied : applyStatus world.live status with
    | none =>
      rw [serveStatus, applied]
      exact .same _
    | some live =>
      rw [serveStatus, applied]
      exact served_write world fate (.status status live applied)
  | applyStalled sent =>
    change Leaves world _ (serveStalled world fate sent).2
    cases applied : applyStalled world.live sent with
    | none =>
      rw [serveStalled, applied]
      exact .same _
    | some live =>
      rw [serveStalled, applied]
      exact served_write world fate (.stalled sent live applied)
  | _ => exact .same _

end Serve

end AppRafter.Platform
