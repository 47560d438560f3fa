import AppRafter.Lib.Machine
import AppRafter.Platform.Plans
import AppRafter.Platform.Status
import AppRafter.Platform.Resolve

set_option autoImplicit false

namespace AppRafter.Platform

open Lib Lib.Semver

-- As the clock library writes and reads them. An instant counts nanoseconds.
structure Rfc3339 where
  write : Int → String
  read : String → Option Int

def minOciPollIntervalSecs : Int := 60

-- The whole seconds of a duration, cut toward zero.
def numSeconds (duration : Int) : Int := duration.tdiv 1000000000

def forceRecheck (priorLastCheck recheckRequested : Option Int) : Bool :=
  recheckRequested.any fun requested => priorLastCheck.all fun last => decide (last < requested)

def shouldPollOci (priorLastCheck : Option Int) (priorAvailable : Option String) (recheckRequested : Option Int) (now : Int) :
    Bool :=
  forceRecheck priorLastCheck recheckRequested || match priorLastCheck with
    | some last => priorAvailable.isNone || decide (minOciPollIntervalSecs ≤ numSeconds (now - last))
    | none => true

def degradeOnResolutionFailure (pinned : Bool) (priorAvailable : Option String) : Option String :=
  if pinned then some (priorAvailable.getD "") else priorAvailable

structure ManagedEntry where
  manager : Option String
  source : Option (List String)
deriving DecidableEq

-- What the pass reads of the parent Application; `helmValues` is "null" where it has none.
structure Parent where
  targetRevision : String := ""
  helmValues : String := "null"
  syncStatus : String := ""
  operationPhase : String := ""
  health : String := ""
  annotations : List (String × String) := []
  managedFields : List ManagedEntry := []
deriving DecidableEq

structure PendingUpgrade where
  source : String
  target : String
  change : String
  plan : String
deriving DecidableEq

variable (parent : Parent)

def isInFlight : Bool := parent.syncStatus == "OutOfSync" || parent.operationPhase == "Running"

def platformControllerOwnsSource : Bool :=
  parent.managedFields.any fun entry => entry.manager == some fieldManager && entry.source.isSome

def whitelistedFieldManagers : List String := [fieldManager, "argocd-application-controller", "apprafter-cli"]

-- An entry without a manager ends the search.
def outsideWriter : List ManagedEntry → Option String
  | [] => none
  | entry :: rest =>
    match entry.manager with
    | none => none
    | some manager =>
      if whitelistedFieldManagers.contains manager then outsideWriter rest
      else if entry.source.any fun keys => keys.contains "f:targetRevision" || keys.contains "f:helm" then some manager
      else outsideWriter rest

def detectOutsideWriter : Option String := outsideWriter parent.managedFields

def pendingUpgradeAnnotationsDiffer (pending : Option PendingUpgrade) : Bool :=
  match pending with
  | some upgrade =>
    parent.annotations.lookup "apprafter.io/upgrade-pending" != some "true" ||
      parent.annotations.lookup "apprafter.io/upgrade-from" != some upgrade.source ||
      parent.annotations.lookup "apprafter.io/upgrade-to" != some upgrade.target ||
      parent.annotations.lookup "apprafter.io/upgrade-class" != some upgrade.change ||
      parent.annotations.lookup "apprafter.io/upgrade-plan" != some upgrade.plan
  | none => (parent.annotations.lookup "apprafter.io/upgrade-pending").isSome

structure PlatformPlan extends MigrationPlan where
  classification : Option String := none
deriving DecidableEq

def findPlan (plans : List PlatformPlan) (name : String) : Option PlatformPlan := plans.find? fun plan => plan.name == name

def supersededPlatformPlanNames (plans : List PlatformPlan) (keep : String) : List String :=
  ((plans.filter fun plan => plan.scopeType == "platform").filter fun plan =>
    plan.name != keep && plan.phaseText != "approved" && plan.phaseText != "executing").map (·.name)

def changeClassToString : ChangeClass → String
  | .safe => "safe"
  | .requiresRestart => "requires-restart"
  | .dataMigration => "data-migration"
  | .breaking => "breaking"

def buildPlatformMigrationPlan (name : String) (change : ChangeClass) : PlatformPlan :=
  { name := name, scopeType := "platform", classification := some (changeClassToString change) }

-- One request for each await that can change something, or whose answer decides something.
inductive StackRequest where
  | channelLatest (upstream : String) (channel : Channel)
  | getParent
  | assessBackupHealth
  | getPlan (name : String)
  | pathMaxChangeClass (upstream source target : String)
  | getAnchor
  | createPlan (plan : PlatformPlan)
  | listPlans
  | deletePlan (name : String)
  | reconcileAnchorHealth (pending : Option PendingUpgrade)
  | publish (reason note : String)
  | patchApplication (target helmValues : String) (pending : Option PendingUpgrade)
  | noteBump (entry : VersionHistoryEntry)
  | sampleNode
  | unrecordedBumps
  | getStatus
  | applyStatus (status : PlatformStackStatus)
  | forgetBumps (recorded : List VersionHistoryEntry)
  | crdMergesConditions
  | applyStalled (conditions : List PlatformStackCondition)
deriving DecidableEq

abbrev Reply (Value : Type) : Type := Except String Value

-- A best-effort call answers nothing: whether it failed is not looked at.
abbrev stackApi : Api where
  Request := StackRequest
  Response
    | .channelLatest _ _ => Reply Resolved
    | .getParent => Reply Parent
    | .assessBackupHealth => Verdict × Verdict
    | .getPlan _ => Reply (Option PlatformPlan)
    | .pathMaxChangeClass _ _ _ => Reply ChangeClass
    | .getAnchor => Unit
    | .createPlan _ => Reply Unit
    | .listPlans => Reply (List PlatformPlan)
    | .deletePlan _ => Unit
    | .reconcileAnchorHealth _ => Unit
    | .publish _ _ => Unit
    | .patchApplication _ _ _ => Reply Unit
    | .noteBump _ => Unit
    | .sampleNode => Option Wording
    | .unrecordedBumps => List VersionHistoryEntry
    | .getStatus => Reply (List VersionHistoryEntry)
    | .applyStatus _ => Reply Unit
    | .forgetBumps _ => Unit
    | .crdMergesConditions => Reply Bool
    | .applyStalled _ => Reply PlatformStack

abbrev StackProg := Prog stackApi String

def try_ {Value : Type} (reply : Reply Value) : StackProg Value :=
  match reply with
  | .ok value => .done value
  | .error why => .fail why

-- Its first reading, and the text of the reading for each condition it builds.
structure PassClock where
  now : Int
  built : String → String

structure Latest where
  version : String
  asked : Bool
  polled : Bool
  doc : Option CompatibilityDoc
  error : Option String

def PlatformStack.prior (stack : PlatformStack) : PlatformStackStatus := stack.status.getD {}

section Pass

variable (time : Rfc3339) (stack : PlatformStack) (clock : PassClock)

def lastCheck : Option Int := stack.prior.lastUpstreamCheck.bind time.read

def pollsOci : Bool :=
  shouldPollOci (lastCheck time stack) stack.prior.availableVersion (stack.recheckRequested.bind time.read) clock.now

def specChannel : Channel := (Channel.parse stack.spec.channel).getD .stable

def degraded (why : String) : StackProg Latest :=
  match degradeOnResolutionFailure stack.spec.pin.isSome stack.prior.availableVersion with
  | some version => .done { version := version, asked := true, polled := false, doc := none, error := some why }
  | none => .fail why

def cached : StackProg Latest :=
  match stack.prior.availableVersion with
  | some version => .done { version := version, asked := false, polled := false, doc := none, error := none }
  | none => .fail "called Option::unwrap() on a None value"

def resolveLatest : StackProg Latest :=
  if pollsOci time stack clock then
    .call (.channelLatest stack.spec.upstream (specChannel stack)) fun reply =>
      match reply with
      | .ok resolved => .done { version := resolved.1, asked := true, polled := true, doc := resolved.2, error := none }
      | .error why => degraded stack why
  else cached stack

variable (latest : Latest)

def policyTarget : String := stack.spec.pin.getD latest.version

def allowsBump : Bool := stack.spec.pin.isSome || stack.spec.autoUpgrade

structure MigrationPendingState where
  classification : String
  planName : String

-- The version patched in, the gate it waits at, the plan it rides on, the error.
structure Decision where
  target : String
  pending : Option MigrationPendingState := none
  authorising : Option String := none
  error : Option String := none

def decideByPlan (plan : PlatformPlan) (current wanted : String) : Decision :=
  if plan.phaseText = "completed" then { target := wanted, authorising := some (synthesizePlatformPlanName current wanted) }
  else
    { target := current
      pending := some ⟨plan.classification.getD "unknown", synthesizePlatformPlanName current wanted⟩ }

variable (current wanted : String)

def raiseGate (change : ChangeClass) : StackProg Decision :=
  .call .getAnchor fun _ =>
    .call (.createPlan (buildPlatformMigrationPlan (synthesizePlatformPlanName current wanted) change)) fun reply =>
      match reply with
      | .error why => .fail why
      | .ok _ => .done
          { target := current
            pending := some ⟨changeClassToString change, synthesizePlatformPlanName current wanted⟩ }

def decideByClass : StackProg Decision :=
  .call (.pathMaxChangeClass stack.spec.upstream current wanted) fun reply =>
    match reply with
    | .error why => .done { target := current, error := some why }
    | .ok change => if change = .safe then .done { target := wanted } else raiseGate current wanted change

def decideTarget : StackProg Decision :=
  if current ≠ wanted ∧ allowsBump stack = true then
    .call (.getPlan (synthesizePlatformPlanName current wanted)) fun reply =>
      match reply with
      | .error why => .fail why
      | .ok (some plan) => .done (decideByPlan plan current wanted)
      | .ok none => decideByClass stack current wanted
  else .done { target := current }

def deletePlans : List String → StackProg Unit
  | [] => .done ()
  | name :: rest => .call (.deletePlan name) fun _ => deletePlans rest

variable (decision : Decision)

def Decision.keep : String := ((decision.pending.map (·.planName)).or decision.authorising).getD ""

def collectPlans : StackProg Unit :=
  .call .listPlans fun reply =>
    match reply with
    | .error _ => .done ()
    | .ok plans => deletePlans (supersededPlatformPlanNames plans decision.keep)

def pendingUpgrade : Option PendingUpgrade :=
  decision.pending.map fun gate => ⟨current, wanted, gate.classification, gate.planName⟩

def targetChanged (wanted : String) : Bool := parent.targetRevision != wanted

def valuesChanged (parent : Parent) : Bool := parent.helmValues != stack.spec.helmValues

def patchesThisCycle (parent : Parent) (wanted : String) (decision : Decision) : Bool :=
  targetChanged parent wanted || valuesChanged stack parent || !platformControllerOwnsSource parent ||
    pendingUpgradeAnnotationsDiffer parent (pendingUpgrade parent.targetRevision wanted decision)

def quoted (text : String) : String := "\"" ++ text ++ "\""

def publishDetection (foreign : Option String) (decision : Decision) : StackProg Unit :=
  match foreign with
  | none => .done ()
  | some manager =>
    .call (.publish "ForeignFieldManager" ("detected external write to spec.source on parent Application argocd/platform by field manager " ++
      quoted manager ++ "; PlatformController is force-reapplying desired state (target=" ++ decision.target ++ ")")) .done

def publishReverted (foreign : Option String) (decision : Decision) : StackProg Unit :=
  if foreign.isSome then
    .call (.publish "SourceReverted"
      ("parent Application spec.source restored to PlatformController desired state (target=" ++ decision.target ++ ")")) .done
  else .done ()

def noteLanded (parent : Parent) (decision : Decision) : StackProg Unit :=
  if decision.target ≠ parent.targetRevision then
    .call (.noteBump { version := decision.target, appliedAt := time.write clock.now, outcome := "succeeded" }) .done
  else .done ()

def enforce (parent : Parent) (wanted : String) (decision : Decision) : StackProg Unit :=
  if patchesThisCycle stack parent wanted decision || (detectOutsideWriter parent).isSome then do
    publishDetection (detectOutsideWriter parent) decision
    .call (.patchApplication decision.target stack.spec.helmValues (pendingUpgrade parent.targetRevision wanted decision)) try_
    noteLanded time clock parent decision
    publishReverted (detectOutsideWriter parent) decision
  else .done ()

def semverGt (a b : String) : Bool :=
  match parse a with
  | some newer => (parse b).any fun older => decide (older < newer)
  | none => false

def upgradeWording : Wording :=
  if semverGt latest.version decision.target then
    match decision.pending with
    | some gate =>
      { status := "True"
        reason := "BlockedByMigrationPlan"
        message := "channel " ++ stack.spec.channel ++ " latest is " ++ latest.version ++ "; deployed target is " ++ decision.target ++
          "; blocked by MigrationPlan apprafter-system/" ++ gate.planName ++ " awaiting approval" }
    | none =>
      { status := "True"
        reason := "ManualApprovalRequired"
        message := "channel " ++ stack.spec.channel ++ " latest is " ++ latest.version ++ "; deployed target is " ++ decision.target ++
          "; set spec.autoUpgrade=true or spec.pin to advance" }
  else
    { status := "False"
      reason := "UpToDate"
      message := "deployed target " ++ decision.target ++ " is the latest in channel " ++ stack.spec.channel }

def migrationWording : Wording :=
  match decision.pending with
  | some gate =>
    { status := "True"
      reason := gate.classification
      message := "change from " ++ current ++ " → " ++ wanted ++ " classified as " ++ gate.classification ++
        "; manual approval required — see MigrationPlan apprafter-system/" ++ gate.planName }
  | none => { status := "False", reason := "Clean", message := "no destructive diff pending" }

def syncedWording (parent : Parent) (wanted : String) (decision : Decision) : Wording :=
  if patchesThisCycle stack parent wanted decision then
    { status := "True"
      reason := "Patched"
      message := "PlatformController patched parent Application (target=" ++ decision.target ++ "); values_changed=" ++
        toString (valuesChanged stack parent) ++ ", target_changed=" ++ toString (targetChanged parent wanted) }
  else
    { status := "True", reason := "Reconciled", message := "parent Application matches PlatformStack desired state" }

def unauthorizedWording : Wording :=
  match detectOutsideWriter parent with
  | some manager =>
    { status := "True"
      reason := "ForeignFieldManager"
      message := "detected external write to spec.source by field manager " ++ quoted manager ++
        "; PlatformController force-reverted" }
  | none => { status := "False", reason := "Clean", message := "no foreign writer detected on spec.source" }

def readyWording : Wording :=
  if parent.health = "Healthy" then
    { status := "True", reason := "Healthy", message := "parent platform Application reports Healthy" }
  else
    { status := "False"
      reason := "ParentNotHealthy"
      message := "parent platform Application health is " ++ quoted parent.health ++ " (target " ++ decision.target ++
        "); platform reconciling or degraded" }

def yankedWording (doc : CompatibilityDoc) (decision : Decision) : Wording :=
  match (doc.get decision.target).filter (·.yanked) with
  | some record =>
    { status := "True"
      reason := "Yanked"
      message := "currentVersion " ++ decision.target ++ " is yanked: " ++
        record.yankedReason.getD "(no reason supplied — see compatibility.yaml)" }
  | none =>
    { status := "False"
      reason := "NotYanked"
      message := "currentVersion is not marked yanked in compatibility metadata" }

variable (verdicts : Verdict × Verdict)

def earlyUpdates : List Update :=
  upstreamUpdate latest.asked latest.error ++
    [verdictUpdate condBackupHealthy verdicts.1, verdictUpdate condBackupRetention verdicts.2]

def lateUpdates (parent : Parent) (wanted : String) (decision : Decision) (sample : Option Wording) :
    List Update :=
  [.upsert condUpgradeAvailable (upgradeWording stack latest decision)] ++
    upstreamUpdate latest.asked (latest.error.or decision.error) ++
    [.upsert condMigrationPending (migrationWording parent.targetRevision wanted decision),
      .upsert condSynced (syncedWording stack parent wanted decision),
      .upsert condUnauthorizedSourceModification (unauthorizedWording parent),
      .upsert condReady (readyWording parent decision)] ++
    (sample.map (Update.upsert condNodeDiskPressure)).toList ++
    (latest.doc.map fun doc => Update.upsert condYankedVersion (yankedWording doc decision)).toList

def skeleton : PlatformStackStatus :=
  if latest.polled then
    { stack.prior with
      lastUpstreamCheck := some (time.write clock.now)
      availableVersion := some latest.version }
  else stack.prior

def earlyStatus : PlatformStackStatus :=
  runUpdates stack.conditions clock.built (skeleton time stack clock latest) (earlyUpdates latest verdicts)

def inFlightStatus (parent : Parent) : PlatformStackStatus :=
  { earlyStatus time stack clock latest verdicts with
    targetVersion := some parent.targetRevision
    currentVersion := some parent.targetRevision }

def recordBump (history : Option (List VersionHistoryEntry)) (entry : VersionHistoryEntry) : Option (List VersionHistoryEntry) :=
  if history.any (·.contains entry) then history else some (appendVersionHistory (history.getD []) entry)

def finalStatus (parent : Parent) (decision : Decision) (sample : Option Wording)
    (bumps : List VersionHistoryEntry) : PlatformStackStatus :=
  let settled := runUpdates stack.conditions clock.built (earlyStatus time stack clock latest verdicts)
    (lateUpdates stack latest parent (policyTarget stack latest) decision sample)
  { settled with
    versionHistory := bumps.foldl recordBump settled.versionHistory
    currentVersion := some decision.target
    targetVersion := some decision.target }

variable (new : PlatformStackStatus)

def writeStatus : StackProg Unit :=
  .call .getStatus fun reply =>
    match reply with
    | .error why => .fail why
    | .ok server =>
      .call (.applyStatus (platformControllerView
        { new with versionHistory := some (mergeVersionHistory server (new.versionHistory.getD [])) })) try_

def statusUnchanged : Bool :=
  decide (withoutReconcileStalled stack.prior = platformControllerView new)

def writeStatusIfChanged : StackProg Unit :=
  if statusUnchanged stack new && !controllerMustReapply stack then .done ()
  else if controllerMustAdoptFirst stack new then do
    writeStatus (withoutReconcileStalled stack.prior)
    if statusUnchanged stack new then .done () else writeStatus new
  else writeStatus new

def report (parent : Parent) (decision : Decision) : StackProg Unit :=
  .call .sampleNode fun sample =>
    .call .unrecordedBumps fun bumps => do
      writeStatusIfChanged stack (finalStatus time stack clock latest verdicts parent decision sample bumps)
      .call (.forgetBumps bumps) .done

def settle (parent : Parent) : StackProg Unit := do
  let decision ← decideTarget stack parent.targetRevision (policyTarget stack latest)
  collectPlans decision
  .call (.reconcileAnchorHealth (pendingUpgrade parent.targetRevision (policyTarget stack latest) decision)) .done
  enforce time stack clock parent (policyTarget stack latest) decision
  report time stack clock latest verdicts parent decision

def pass : StackProg Unit :=
  .call .getParent fun reply =>
    match reply with
    | .error why => .fail why
    | .ok parent =>
      .call .assessBackupHealth fun verdicts =>
        if (targetChanged parent (policyTarget stack latest) || valuesChanged stack parent) && isInFlight parent then
          writeStatusIfChanged stack (inFlightStatus time stack clock latest verdicts parent)
        else settle time stack clock latest verdicts parent

def reconcile : StackProg Unit :=
  if stack.name ≠ "default" then .done () else do
    let latest ← resolveLatest time stack clock
    pass time stack clock latest

end Pass

end AppRafter.Platform
