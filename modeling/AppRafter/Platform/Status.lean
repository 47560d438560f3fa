import AppRafter.Platform.History
import AppRafter.Lib.Table

set_option autoImplicit false

namespace AppRafter.Platform

structure PlatformStackCondition where
  type : String
  status : String
  reason : Option String := none
  message : Option String := none
  lastTransitionTime : String
deriving DecidableEq

structure PlatformStackComponent where
  name : String
  version : String
  ready : Bool
deriving DecidableEq

structure PlatformStackStatus where
  currentVersion : Option String := none
  targetVersion : Option String := none
  availableVersion : Option String := none
  lastUpstreamCheck : Option String := none
  components : Option (List PlatformStackComponent) := none
  versionHistory : Option (List VersionHistoryEntry) := none
  conditions : Option (List PlatformStackCondition) := none
deriving DecidableEq

def condSynced : String := "Synced"

def condUpgradeAvailable : String := "UpgradeAvailable"

def condMigrationPending : String := "MigrationPending"

def condUnauthorizedSourceModification : String := "UnauthorizedSourceModification"

def condReady : String := "Ready"

def condYankedVersion : String := "YankedVersion"

def condUpstreamReachable : String := "UpstreamReachable"

def condNodeDiskPressure : String := "NodeDiskPressure"

def condBackupHealthy : String := "BackupHealthy"

def condBackupRetention : String := "BackupRetention"

def condReconcileStalled : String := "ReconcileStalled"

structure Wording where
  status : String
  reason : String
  message : String
deriving DecidableEq

def findCondition (conditions : List PlatformStackCondition) (type : String) : Option PlatformStackCondition :=
  conditions.find? fun c => c.type == type

-- `now` is the clock as the condition is built; an unchanged status keeps its time.
def condition (type : String) (wording : Wording) (prior : List PlatformStackCondition) (now : String) :
    PlatformStackCondition :=
  { type := type
    status := wording.status
    reason := some wording.reason
    message := some wording.message
    lastTransitionTime :=
      (((findCondition prior type).filter fun c => c.status == wording.status).map (·.lastTransitionTime)).getD now }

def upsertList (c : PlatformStackCondition) : List PlatformStackCondition → List PlatformStackCondition
  | [] => [c]
  | held :: rest => if held.type = c.type then c :: rest else held :: upsertList c rest

variable (status : PlatformStackStatus)

def PlatformStackStatus.conds : List PlatformStackCondition := status.conditions.getD []

def upsertCondition (c : PlatformStackCondition) : PlatformStackStatus :=
  { status with conditions := some (upsertList c status.conds) }

def dropStalled (conditions : List PlatformStackCondition) : List PlatformStackCondition :=
  conditions.filter fun c => c.type != condReconcileStalled

def firstOfEach (seen : List String) : List PlatformStackCondition → List PlatformStackCondition
  | [] => []
  | c :: rest => if c.type ∈ seen then firstOfEach seen rest else c :: firstOfEach (c.type :: seen) rest

def withoutReconcileStalled : PlatformStackStatus :=
  { status with conditions := status.conditions.map dropStalled }

def platformControllerView : PlatformStackStatus :=
  { status with conditions := (status.conditions.map dropStalled).map (firstOfEach []) }

inductive Verdict where
  | absent
  | condition (wording : Wording)
deriving DecidableEq

def upstreamWording : Option String → Wording
  | some err =>
    { status := "False"
      reason := "PollFailed"
      message := "could not resolve channel-latest from upstream (" ++ err ++
        "); availableVersion is stale — pinned / last-known target still enforced" }
  | none =>
    { status := "True", reason := "Reachable", message := "channel-latest resolved from the OCI upstream" }

inductive Update where
  | upsert (type : String) (wording : Wording)
  | retire (type : String)
deriving DecidableEq

def Update.type : Update → String
  | .upsert type _ => type
  | .retire type => type

def Update.run (prior : List PlatformStackCondition) (now : String → String) (status : PlatformStackStatus) :
    Update → PlatformStackStatus
  | .upsert type wording => upsertCondition status (condition type wording prior (now type))
  | .retire type => { status with conditions := status.conditions.map fun held => held.filter fun c => c.type != type }

def verdictUpdate (type : String) : Verdict → Update
  | .absent => .retire type
  | .condition wording => .upsert type wording

def upstreamUpdate (shouldPoll : Bool) (pollError : Option String) : List Update :=
  if shouldPoll || pollError.isSome then [.upsert condUpstreamReachable (upstreamWording pollError)] else []

def runUpdates (prior : List PlatformStackCondition) (now : String → String) (status : PlatformStackStatus)
    (updates : List Update) : PlatformStackStatus :=
  updates.foldl (Update.run prior now) status

-- What the status already says: the update would leave it as it is.
def Update.Holds : Update → Prop
  | .upsert type wording => ∃ time, findCondition status.conds type = some
      { type := type, status := wording.status, reason := some wording.reason, message := some wording.message,
        lastTransitionTime := time }
  | .retire type => findCondition status.conds type = none
open Lib

-- `helmValues` is the JSON that the values, overrides and backup of the spec are rendered to.
structure PlatformStackSpec where
  pin : Option String := none
  autoUpgrade : Bool := false
  channel : String := "stable"
  upstream : String := ""
  helmValues : String := "\x7b\x7d"

-- `statusOwners` are the managers with an f:conditions; no types is all of the list.
structure PlatformStack where
  name : String := "default"
  spec : PlatformStackSpec
  status : Option PlatformStackStatus := none
  recheckRequested : Option String := none
  statusOwners : List (String × List String) := []

def fieldManager : String := "platform-controller"

def stallFieldManager : String := "apprafter-reconcile-deadline"

variable (stack : PlatformStack)

def PlatformStack.conditions : List PlatformStackCondition := (stack.status.getD {}).conds

abbrev ConditionMap : Type := ListMap String PlatformStackCondition String

def PlatformStack.conditionMap : ConditionMap := ⟨stack.conditions, stack.statusOwners⟩

def ownedConditions (manager : String) : Option (List String) := stack.conditionMap.owned manager

def ownsListWhole (manager : String) : Bool := (ownedConditions stack manager).any (·.isEmpty)

def controllerOwnsListWhole : Bool := ownsListWhole stack fieldManager

def held (type : String) : Bool := stack.statusOwners.any fun owner => owner.2.contains type

def anyOwnsWhole : Bool := stack.statusOwners.any fun owner => owner.2.isEmpty

def controllerMustAdoptFirst (new : PlatformStackStatus) : Bool :=
  if controllerOwnsListWhole stack then true
  else if (ownedConditions stack fieldManager).isNone || anyOwnsWhole stack then false
  else
    (((stack.conditions.map (·.type)).filter fun type =>
      type != condReconcileStalled && !(new.conds.map (·.type)).contains type)).any fun type => !held stack type

def controllerOwnsConditionsByKey : Bool :=
  (ownedConditions stack fieldManager).any fun owned => !owned.isEmpty && !owned.contains condReconcileStalled

def markMayWrite : Bool := !ownsListWhole stack stallFieldManager || controllerOwnsConditionsByKey stack

def controllerMustReapply : Bool :=
  (ownedConditions stack fieldManager).any fun owned => owned.isEmpty || owned.contains condReconcileStalled

def otherHolders : List String :=
  ((stack.statusOwners.filter fun owner => owner.1 != stallFieldManager).filter fun owner =>
    owner.2.isEmpty || owner.2.contains condReconcileStalled).map Prod.fst

def stalled : Option PlatformStackCondition := findCondition stack.conditions condReconcileStalled

def applyStalled (sent : List PlatformStackCondition) : Option PlatformStack :=
  (stack.conditionMap.apply (·.type) stallFieldManager sent).map fun after =>
    { stack with
      status := some { (stack.status.getD {}) with conditions := some after.live }
      statusOwners := after.owners }

def applyStatus (sent : PlatformStackStatus) : Option PlatformStack :=
  (stack.conditionMap.apply (·.type) fieldManager sent.conds).map fun after =>
    { stack with
      status := some { sent with conditions := if sent.conditions.isNone && after.live.isEmpty then none else some after.live }
      statusOwners := after.owners }

end AppRafter.Platform
