import AppRafter.Provisioner.Names

set_option autoImplicit false

namespace AppRafter.Provisioner

open Lib Application

structure Condition where
  type : String
  status : String
  reason : Option String := none
deriving DecidableEq

structure ResourceClaimStatus where
  provider : Option String := none
  connectionSecretRef : Option String := none
  ready : Option Bool := none
  conditions : List Condition := []
  inst : Option String := none
  dbnum : Option Nat := none
deriving DecidableEq

structure ResourceClaim where
  key : ClaimKey
  deletionTimestamp : Option Nat := none
  finalizers : List String := []
  spec : ResourceClaimSpec
  status : Option ResourceClaimStatus := none
deriving DecidableEq

structure RetainedClaim where
  name : String
  claimRef : ClaimKey
  provider : String := ""
  backend : String := ""
  cnpgCluster : Option String := none
  inst : Option String := none
  dbnum : Option Nat := none
  aclUser : Option String := none
  retainUntil : Nat
deriving DecidableEq

structure SharedDatabaseSpec where
  type : String
  persistent : Option Bool := none
deriving DecidableEq

structure SharedDatabaseStatus where
  ready : Option Bool := none
  database : Option String := none
  inst : Option String := none
  dbnum : Option Nat := none
  conditions : List Condition := []
deriving DecidableEq

structure SharedDatabase where
  ns : String
  name : String
  deletionTimestamp : Option Nat := none
  finalizers : List String := []
  spec : SharedDatabaseSpec
  status : Option SharedDatabaseStatus := none
deriving DecidableEq

-- The config keys the provisioner reads, where set.
structure ServiceProvider where
  ns : String
  name : String
  backend : String
  cluster : Option String := none
  configNs : Option String := none
  dbnum : Option Nat := none

inductive Backend where
  | cloudnativepg
  | dragonfly
  | disk
  | sharedDisk
  | nats
deriving DecidableEq

def Backend.fromSpecBackend (backend : String) : Option Backend :=
  match backend with
  | "cloudnative-pg" => some .cloudnativepg
  | "dragonfly" => some .dragonfly
  | "disk" => some .disk
  | "shared-disk" => some .sharedDisk
  | "nats" => some .nats
  | _ => none

def defaultCnpgCluster : String := "platform-postgres"

def ServiceProvider.cnpgCluster (provider : ServiceProvider) : String := provider.cluster.getD defaultCnpgCluster

-- Providers are looked up by bare name, the first in list order.
def findProvider (providers : List ServiceProvider) (name : String) : Option ServiceProvider :=
  providers.find? fun provider => provider.name == name

def provisionerFinalizer : String := "apprafter.io/resourceclaim-provisioner"

def sdFinalizer : String := "apprafter.io/shareddatabase-cleanup"

inductive PoolClass where
  | ephemeral
  | persistent
deriving DecidableEq

def PoolClass.of (persistent : Bool) : PoolClass := if persistent then .persistent else .ephemeral

def PoolClass.text : PoolClass → String
  | .ephemeral => "ephemeral"
  | .persistent => "persistent"

def pad3 (index : Nat) : String :=
  let digits := toString index
  String.ofList (List.replicate (3 - digits.toList.length) '0' ++ digits.toList)

def poolInstanceName (persistent : Bool) (index : Nat) : String :=
  "platform-redis-" ++ (PoolClass.of persistent).text ++ "-" ++ pad3 index

def poolInstanceIndex : Nat := 0

def classOfInstance (name : String) : Option PoolClass :=
  if "platform-redis-".toList.isPrefixOf name.toList then
    match Text.rsplitOnce '-' (name.toList.drop "platform-redis-".toList.length) with
    | none => none
    | some (cls, index) =>
      if index.isEmpty || !index.all Char.isDigit then none
      else if cls = "ephemeral".toList then some .ephemeral
      else if cls = "persistent".toList then some .persistent
      else none
  else none

-- A numbered logical database of a pool instance.
abbrev Slot := String × Nat

def slotOf (inst : Option String) (dbnum : Option Nat) : Option Slot := inst.bind fun i => dbnum.map fun n => (i, n)

def ResourceClaim.slot (claim : ResourceClaim) : Option Slot := claim.status.bind fun status => slotOf status.inst status.dbnum

def RetainedClaim.slot (snapshot : RetainedClaim) : Option Slot := slotOf snapshot.inst snapshot.dbnum

def SharedDatabase.slot (sd : SharedDatabase) : Option Slot := sd.status.bind fun status => slotOf status.inst status.dbnum

def SharedDatabase.key (sd : SharedDatabase) : ClaimKey := ⟨sd.ns, sd.name⟩

-- The object a FLUSHDB is run for. A claim's own snapshot counts as the claim.
inductive DbnumOwner where
  | claim (key : ClaimKey)
  | shared (key : ClaimKey)
deriving DecidableEq

def asU16 (n : Nat) : Option Nat := if n < 65536 then some n else none

variable (live : List ResourceClaim) (retained : List RetainedClaim) (shared : List SharedDatabase)

def usedDbnums (inst : String) : List Nat :=
  live.filterMap (fun claim => claim.status.bind fun status => if status.inst = some inst then status.dbnum else none) ++
    retained.filterMap (fun snapshot => if snapshot.inst = some inst then snapshot.dbnum else none) ++
    shared.filterMap fun sd =>
      sd.status.bind fun status => if status.inst = some inst then status.dbnum.bind asU16 else none

variable (slot : Slot)

def claimHolders (me : DbnumOwner) : List String :=
  (live.filter fun claim => claim.slot == some slot && DbnumOwner.claim claim.key != me).map fun claim =>
    "ResourceClaim " ++ claim.key.ns ++ "/" ++ claim.key.name

def retainedHolders (me : DbnumOwner) : List String :=
  (retained.filter fun snapshot => snapshot.slot == some slot && DbnumOwner.claim snapshot.claimRef != me).map fun snapshot =>
      "RetainedClaim " ++ snapshot.name ++ " (of " ++ snapshot.claimRef.ns ++ "/" ++ snapshot.claimRef.name ++ ")"

def sharedHolders (me : DbnumOwner) : List String :=
  (shared.filter fun sd => sd.slot == some slot && DbnumOwner.shared sd.key != me).map fun sd =>
    "SharedDatabase " ++ sd.ns ++ "/" ++ sd.name

def otherDbnumHolders (me : DbnumOwner) : List String :=
  claimHolders live slot me ++ retainedHolders retained slot me ++ sharedHolders shared slot me

def allocateDbnum (used : List Nat) (max : Nat) : Option Nat := (List.range max).find? fun n => !used.contains n

inductive Resolution where
  | reattach (dbnum : Nat) (skipFlush : Bool)
  | fresh (dbnum : Nat)
  | insufficient

def resolveAllocation (existing : Option Nat) (persistent : Bool) (used : List Nat) (max : Nat) : Resolution :=
  match existing with
  | some dbnum => .reattach dbnum persistent
  | none =>
    match allocateDbnum used max with
    | some dbnum => .fresh dbnum
    | none => .insufficient

def ServiceProvider.dbnumMax (provider : ServiceProvider) : Nat := (provider.dbnum.getD 1024) % 65536

def condReady : String := "Ready"

def condScheduled : String := "Scheduled"

def reasonAwaitingKeyspace : String := "AwaitingKeyspace"

def reasonDbnumConflict : String := "DbnumConflict"

def readyCondition (status reason : String) : Condition := { type := condReady, status := status, reason := some reason }

variable (status : Option ResourceClaimStatus)

-- An apply replaces all its manager owns; the scheduler's fields stay.
def checkpointed (slot : Slot) : ResourceClaimStatus :=
  { provider := status.bind (·.provider)
    conditions := ((status.map (·.conditions)).getD []).filter fun cond => cond.type != condReady
    inst := some slot.1
    dbnum := some slot.2 }

def statusApplied (cond : Condition) (secret : Option String)
    (allocation : Option Slot) : ResourceClaimStatus :=
  { provider := status.bind (·.provider)
    connectionSecretRef := secret
    ready := some (cond.status == "True")
    conditions := (((status.map (·.conditions)).getD []).filter fun cond => cond.type != condReady) ++ [cond]
    inst := allocation.map Prod.fst
    dbnum := allocation.map Prod.snd }

def scheduled (provider : String) : ResourceClaimStatus :=
  { status.getD {} with
    provider := some provider
    conditions := (((status.map (·.conditions)).getD []).filter fun cond => cond.type != condScheduled) ++
      [{ type := condScheduled, status := "True" }] }

def shouldProvision : Bool :=
  match status with
  | none => false
  | some status =>
    if status.ready = some true then false
    else if (status.provider.getD "").isEmpty then false
    else status.conditions.any fun cond => cond.type == condScheduled && cond.status == "True"

def allocationUnfinished (conditions : List Condition) : Bool :=
  conditions.any fun cond =>
    cond.type == condReady && cond.status == "False" && cond.reason == some reasonAwaitingKeyspace

def SharedDatabase.unfinished (sd : SharedDatabase) : Bool := allocationUnfinished ((sd.status.map (·.conditions)).getD [])

structure Backing where
  database : Option String := none
  inst : Option String := none
  dbnum : Option Nat := none

def Backing.redis : Backing := { inst := some slot.1, dbnum := some slot.2 }

def backingOf (sd : SharedDatabase) : Backing :=
  match sd.status with
  | none => {}
  | some status =>
    if allocationUnfinished status.conditions then { database := status.database }
    else { database := status.database, inst := status.inst, dbnum := status.dbnum }

def sdStatus (ready : Bool) (backing : Backing) (cond : Condition) : SharedDatabaseStatus :=
  { ready := some ready
    database := backing.database
    inst := backing.inst
    dbnum := backing.dbnum
    conditions := [cond] }

def gracePeriod : Nat := 7 * 24 * 60 * 60

-- Only the dragonfly shape names an allocation; a shared-disk claim has no snapshot.
def snapshotOf (claim : ResourceClaim) (deletion : Nat) (provider : Option ServiceProvider) : Option RetainedClaim :=
  let plain : RetainedClaim :=
    { name := k8sName claim.key
      claimRef := claim.key
      provider := (claim.status.bind (·.provider)).getD ""
      backend := (provider.map (·.backend)).getD ""
      retainUntil := deletion + gracePeriod }
  match provider.bind fun provider => Backend.fromSpecBackend provider.backend with
  | some .sharedDisk => none
  | some .dragonfly =>
    let slot := claim.slot.getD ("", 0)
    some { plain with
        backend := "dragonfly", inst := some slot.1, dbnum := some slot.2, aclUser := some (aclUser claim.key) }
  | some .disk => some plain
  | some .nats => some plain
  | _ => some { plain with cnpgCluster := some ((provider.map ServiceProvider.cnpgCluster).getD defaultCnpgCluster) }

def shouldGc (retainUntil now : Nat) : Bool := decide (retainUntil ≤ now)

def claimIsLive (claim : ResourceClaim) : Bool := claim.deletionTimestamp.isNone

def reattachInProgress (snapshot : RetainedClaim) (claim : ResourceClaim) : Bool :=
  if Backend.fromSpecBackend snapshot.backend != some .dragonfly then false
  else
    match snapshot.slot with
    | none => false
    | some slot =>
      if classOfInstance slot.1 != some .persistent then false
      else if claim.status.bind (·.ready) = some true then false
      else
        match claim.slot with
        | none => true
        | some held => held == slot

structure DragonflyReclaim where
  inst : String
  dbnum : Option Nat
  aclUser : String

def dragonflyReclaimTarget (snapshot : RetainedClaim) : Option DragonflyReclaim :=
  (snapshot.inst.filter fun inst => inst != "").bind fun inst =>
    (snapshot.aclUser.filter fun user => user != "").map fun user =>
      { inst := inst, dbnum := snapshot.dbnum, aclUser := user }

end AppRafter.Provisioner
