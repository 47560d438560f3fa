import AppRafter.Lib.Fleet
import AppRafter.Provisioner.Objects

set_option autoImplicit false

namespace AppRafter.Provisioner

open Lib Application Option

-- Calls whose only effect here is that they may fail.
inductive Outside where
  | ensureInstance (persistent : Bool)
  | readAdminPassword (inst : String)
  | aclSetuser (user : String) (slot : Slot)
  | aclDeluser (user : String) (inst : String)
  | applyConnectionSecret (key : ClaimKey)
  | deleteConnectionSecret (key : ClaimKey)
  | redisNamespace
  | revokeConsumer (key : ClaimKey)

inductive PoolRequest where
  | listClaims
  | listRetained
  | listShared
  | getClaim (key : ClaimKey)
  | getRetained (name : String)
  | findProvider (name : String)
  | selectProvider
  | listBinders (key : ClaimKey)
  | outside (call : Outside)
  | claimFinalizers (key : ClaimKey) (keep : Bool)
  | sharedFinalizers (key : ClaimKey) (keep : Bool)
  | checkpoint (key : ClaimKey) (slot : Slot)
  | claimStatus (key : ClaimKey) (cond : Condition) (secret : Option String) (allocation : Option Slot)
  | sharedStatus (key : ClaimKey) (status : SharedDatabaseStatus)
  | createRetained (snapshot : RetainedClaim)
  | deleteRetained (name : String)
  | flushdb (slot : Slot)

-- Where a call can fail the answer is an option, or a success flag.
def poolApi : Api where
  Request := PoolRequest
  Response
    | .listClaims => Option (List ResourceClaim)
    | .listRetained => Option (List RetainedClaim)
    | .listShared => Option (List SharedDatabase)
    | .getClaim _ => Option (Option ResourceClaim)
    | .getRetained _ => Option (Option RetainedClaim)
    | .findProvider _ => Option (Option ServiceProvider)
    | .selectProvider => Option (Option ServiceProvider)
    | .listBinders _ => Option Nat
    | _ => Bool

inductive PoolError where
  | call
  | provisioning (message : String)

-- A pass ends with the seconds until the next one, or with none to await a change.
abbrev PoolProg := Prog poolApi PoolError (Option Nat)

def attempt (call : Outside) (next : PoolProg) : PoolProg :=
  .call (.outside call) fun ok => match ok with
    | true => next
    | false => .fail .call

def readSources (next : List ResourceClaim → List RetainedClaim → List SharedDatabase → PoolProg) : PoolProg :=
  .call .listClaims fun live => match live with
    | none => .fail .call
    | some live =>
      .call .listRetained fun retained => match retained with
        | none => .fail .call
        | some retained =>
          .call .listShared fun shared => match shared with
            | none => .fail .call
            | some shared => next live retained shared

def dbnumHoldersBesides (slot : Slot) (me : DbnumOwner) (next : List String → PoolProg) : PoolProg :=
  readSources fun live retained shared => next (otherDbnumHolders live retained shared slot me)

def heldMessage (slot : Slot) (others : List String) (outcome : String) : String :=
  "dragonfly " ++ slot.1 ++ " $" ++ toString slot.2 ++ " is also held by " ++ String.intercalate ", " others ++ "; " ++ outcome

def connectionSecretName (key : ClaimKey) : String := key.name ++ "-conn"

section Claim

variable (claim : ResourceClaim)

def conflictStatus (slot : Slot) (reason : String) (allocation : Option Slot) (others : List String) (outcome : String) :
    PoolProg :=
  .call (.claimStatus claim.key (readyCondition "False" reason) none allocation) fun ok => match ok with
    | true => .fail (.provisioning (heldMessage slot others outcome))
    | false => .fail .call

-- A number about to be flushed is let go; the retained data of a reattach is not.
def yieldSlot (slot : Slot) (skipFlush reattached : Bool) (others : List String) : PoolProg :=
  if skipFlush then
    conflictStatus claim slot reasonDbnumConflict (some slot) others
      ("it holds the data this claim is re-attaching to, so the claim keeps it " ++
        "and stays not ready; nothing was flushed and no ACL user was created on it")
  else
    let release := conflictStatus claim slot reasonAwaitingKeyspace none others
      "this claim had not used it yet, so it released it and takes another number on its next attempt"
    if reattached then
      .call (.deleteRetained (k8sName claim.key)) fun ok => match ok with
        | true => release
        | false => .fail .call
    else release

-- The snapshot is cancelled last, and a failure there is only logged.
def publishClaim (slot : Slot) : PoolProg :=
  attempt (.aclSetuser (aclUser claim.key) slot) <|
  attempt (.applyConnectionSecret claim.key) <|
  .call (.claimStatus claim.key (readyCondition "True" "Provisioned") (some (connectionSecretName claim.key)) (some slot))
    fun ok => match ok with
    | false => .fail .call
    | true => .call (.deleteRetained (k8sName claim.key)) fun _ => .done (some 300)

def useSlot (slot : Slot) (skipFlush : Bool) : PoolProg :=
  if skipFlush then publishClaim claim slot else
    .call (.flushdb slot) fun ok => match ok with
      | true => publishClaim claim slot
      | false => .fail (.provisioning "dragonfly FLUSHDB")

def takeSlot (slot : Slot) (skipFlush reattached : Bool) : PoolProg :=
  .call (.checkpoint claim.key slot) fun ok => match ok with
    | false => .fail .call
    | true =>
      attempt (.readAdminPassword slot.1) <|
      dbnumHoldersBesides slot (.claim claim.key) fun others =>
        if others.isEmpty then useSlot claim slot skipFlush else yieldSlot claim slot skipFlush reattached others

def ownSnapshot (retained : List RetainedClaim) (inst : String) : Option Nat :=
  (retained.find? fun snapshot => snapshot.name == k8sName claim.key && snapshot.inst == some inst).bind (·.dbnum)

def existingAlloc (status : Option Slot) (inst : String) : Option Nat :=
  status.bind fun slot => if slot.1 = inst then some slot.2 else none

def provisionDragonfly (provider : ServiceProvider) : PoolProg :=
  let persistent := claim.spec.persistent.getD false
  let inst := poolInstanceName persistent poolInstanceIndex
  attempt (.ensureInstance persistent) <|
  match existingAlloc claim.slot inst with
  | some n =>
    .call (.getRetained (k8sName claim.key)) fun found => match found with
      | none => .fail .call
      | some found =>
        let own := found.any fun snapshot => snapshot.slot == some (inst, n)
        takeSlot claim (inst, n) (persistent && own) own
  | none =>
    readSources fun live retained shared =>
      match resolveAllocation (ownSnapshot claim retained inst) persistent (usedDbnums live retained shared inst)
        provider.dbnumMax with
      | .reattach n skipFlush => takeSlot claim (inst, n) skipFlush true
      | .fresh n => takeSlot claim (inst, n) false false
      | .insufficient => .done (some 60)

-- Binding to a shared database and the other backends are not this arm's.
def provisionClaim : PoolProg :=
  if shouldProvision claim.status then
    .call (.findProvider ((claim.status.bind (·.provider)).getD "")) fun found => match found with
      | none => .fail .call
      | some none => .done (some 60)
      | some (some provider) =>
        if claim.spec.sharedRef.isSome then .done (some 300)
        else
          match Backend.fromSpecBackend provider.backend with
          | some .dragonfly => provisionDragonfly claim provider
          | _ => .done (some 300)
  else .done (some 60)

def dropClaimFinalizer : PoolProg :=
  .call (.claimFinalizers claim.key false) fun ok => match ok with
    | true => .done none
    | false => .fail .call

def retireClaim (deletion : Nat) : PoolProg :=
  if claim.spec.sharedRef.isSome then
    .call (.outside (.revokeConsumer claim.key)) fun ok => match ok with
      | true => dropClaimFinalizer claim
      | false => .done (some 15)
  else
    .call (.findProvider ((claim.status.bind (·.provider)).getD "")) fun found => match found with
      | none => .fail .call
      | some provider =>
        match snapshotOf claim deletion provider with
        | none => dropClaimFinalizer claim
        | some snapshot =>
          .call (.getRetained snapshot.name) fun already => match already with
            | none => .fail .call
            | some (some _) => dropClaimFinalizer claim
            | some none =>
              .call (.createRetained snapshot) fun ok => match ok with
                | true => dropClaimFinalizer claim
                | false => .fail .call

def reconcileClaim : PoolProg :=
  match claim.deletionTimestamp with
  | some deletion => if claim.finalizers.contains provisionerFinalizer then retireClaim claim deletion else .done none
  | none =>
    if claim.finalizers.contains provisionerFinalizer then provisionClaim claim
    else
      .call (.claimFinalizers claim.key true) fun ok => match ok with
        | true => provisionClaim claim
        | false => .fail .call

end Claim

section Shared

variable (sd : SharedDatabase)

def writeSdStatus (ready : Bool) (backing : Backing) (status reason : String) (next : PoolProg) : PoolProg :=
  .call (.sharedStatus sd.key (sdStatus ready backing (readyCondition status reason))) fun ok => match ok with
    | true => next
    | false => .fail .call

def publishShared (slot : Slot) : PoolProg := writeSdStatus sd true (.redis slot) "True" "Provisioned" (.done (some 300))

-- An allocation not yet provisioned is checked and flushed before first use.
def firstUse (slot : Slot) : PoolProg :=
  dbnumHoldersBesides slot (.shared sd.key) fun others =>
    if others.isEmpty then
      attempt (.readAdminPassword slot.1) <|
      .call (.flushdb slot) fun ok => match ok with
        | true => publishShared sd slot
        | false => .fail (.provisioning "flushdb")
    else
      writeSdStatus sd false {} "False" reasonAwaitingKeyspace (.fail (.provisioning (heldMessage slot others
          "this database had not used it yet, so it released it and takes another number on its next attempt")))

def existingShared (inst : String) : Option Nat := sd.slot.bind fun slot => if slot.1 = inst then asU16 slot.2 else none

def allocateShared (provider : ServiceProvider) (inst : String) : PoolProg :=
  readSources fun live retained shared =>
    match allocateDbnum (usedDbnums live retained shared inst) provider.dbnumMax with
    | none => writeSdStatus sd false (backingOf sd) "False" "InsufficientCapacity" (.done (some 120))
    | some n => writeSdStatus sd false (.redis (inst, n)) "False" reasonAwaitingKeyspace (firstUse sd (inst, n))

def countBinders (next : Nat → PoolProg) : PoolProg :=
  .call (.listBinders sd.key) fun count => match count with
    | none => .fail .call
    | some count => next count

def reconcileRedis : PoolProg :=
  .call .selectProvider fun found => match found with
    | none => .fail .call
    | some none =>
      countBinders sd fun _ => writeSdStatus sd false (backingOf sd) "False" "NoProvider" (.done (some 60))
    | some (some provider) =>
      let persistent := sd.spec.persistent.getD false
      let inst := poolInstanceName persistent poolInstanceIndex
      attempt (.ensureInstance persistent) <|
      countBinders sd fun _ =>
        match existingShared sd inst with
        | some n => if sd.unfinished then firstUse sd (inst, n) else publishShared sd (inst, n)
        | none => allocateShared sd provider inst

def dropSharedFinalizer : PoolProg :=
  .call (.sharedFinalizers sd.key false) fun ok => match ok with
    | true => .done none
    | false => .fail .call

-- The keyspace is flushed where this database still holds it alone.
def dropBacking : PoolProg :=
  .call .selectProvider fun found => match found with
    | none => .fail .call
    | some _ =>
      match sd.slot.bind fun slot => (asU16 slot.2).map fun n => (slot.1, n) with
      | none => dropSharedFinalizer sd
      | some slot =>
        .call (.outside (.readAdminPassword slot.1)) fun readable => match readable with
          | false => dropSharedFinalizer sd
          | true =>
            dbnumHoldersBesides slot (.shared sd.key) fun others =>
              if others.isEmpty then .call (.flushdb slot) fun _ => dropSharedFinalizer sd
              else dropSharedFinalizer sd

-- The pg arm is not this one's.
def reconcileShared : PoolProg :=
  match sd.deletionTimestamp with
  | some _ =>
    if sd.finalizers.contains sdFinalizer then
      countBinders sd fun count =>
        if count = 0 then
          if sd.spec.type = "redis" then dropBacking sd else .done (some 15)
        else writeSdStatus sd false (backingOf sd) "False" "InUse" (.done (some 30))
    else .done none
  | none =>
    let provision := if sd.spec.type = "redis" then reconcileRedis sd else .done (some 300)
    if sd.finalizers.contains sdFinalizer then provision
    else
      .call (.sharedFinalizers sd.key true) fun ok => match ok with
        | true => provision
        | false => .fail .call

end Shared

section Gc

variable (snapshot : RetainedClaim)

def clampRequeue (raw : Nat) : Nat := min (max raw 60) 3600

def dropSnapshot : PoolProg :=
  .call (.outside (.deleteConnectionSecret snapshot.claimRef)) fun ok => match ok with
    | false => .fail .call
    | true =>
      .call (.deleteRetained snapshot.name) fun ok => match ok with
        | true => .done (some 300)
        | false => .fail .call

def revokeUser (target : DragonflyReclaim) : PoolProg :=
  .call (.outside (.aclDeluser target.aclUser target.inst)) fun _ => dropSnapshot snapshot

-- A flush that fails, or that somebody else's data forbids, does not hold up the rest.
def gcDropDragonfly : PoolProg :=
  match dragonflyReclaimTarget snapshot with
  | none => dropSnapshot snapshot
  | some target =>
    attempt .redisNamespace <|
    .call (.outside (.readAdminPassword target.inst)) fun readable => match readable with
      | false => dropSnapshot snapshot
      | true =>
        match target.dbnum with
        | none => revokeUser snapshot target
        | some n =>
          dbnumHoldersBesides (target.inst, n) (.claim snapshot.claimRef) fun others =>
            if others.isEmpty then .call (.flushdb (target.inst, n)) fun _ => revokeUser snapshot target
            else revokeUser snapshot target

-- The other backends' reclaims are not this one's.
def reconcileRetained (now : Nat) : PoolProg :=
  if shouldGc snapshot.retainUntil now then
    .call (.getClaim snapshot.claimRef) fun found => match found with
      | none => .fail .call
      | some found =>
        if found.any fun claim => claimIsLive claim && reattachInProgress snapshot claim then .done (some 60)
        else if found.any claimIsLive then
          .call (.deleteRetained snapshot.name) fun ok => match ok with
            | true => .done none
            | false => .fail .call
        else
          match Backend.fromSpecBackend snapshot.backend with
          | some .dragonfly => gcDropDragonfly snapshot
          | _ => .done (some 300)
  else .done (some (clampRequeue (snapshot.retainUntil - now)))

end Gc

-- An object that records slots; a snapshot goes by its uid and the claim it is of.
inductive Holder where
  | claim (key : ClaimKey)
  | retained (uid : Nat) (key : ClaimKey)
  | shared (key : ClaimKey)
deriving DecidableEq

def Holder.owner : Holder → DbnumOwner
  | .claim key => .claim key
  | .retained _ key => .claim key
  | .shared key => .shared key

-- With the versions since each last pass began, and what a run is judged by.
structure PoolWorld where
  now : Nat := 0
  nextUid : Nat := 0
  claims : List ResourceClaim := []
  retained : List (Nat × RetainedClaim) := []
  shared : List SharedDatabase := []
  seenClaims : List ResourceClaim := []
  seenRetained : List (Nat × RetainedClaim) := []
  seenShared : List SharedDatabase := []
  proven : Holder → Slot → Bool := fun _ _ => false
  redeemed : Nat → Bool := fun _ => false

namespace PoolWorld

variable (world : PoolWorld)

def records : Holder → Slot → Bool
  | .claim key, slot => world.claims.any fun claim => claim.key == key && claim.slot == some slot
  | .retained uid key, slot =>
    world.retained.any fun entry => entry.1 == uid && entry.2.claimRef == key && entry.2.slot == some slot
  | .shared key, slot => world.shared.any fun sd => sd.key == key && sd.slot == some slot

-- An unrecorded slot is not proven, and the objects join their versions.
def settled : PoolWorld :=
  { world with
    seenClaims := world.claims ++ world.seenClaims
    seenRetained := world.retained ++ world.seenRetained
    seenShared := world.shared ++ world.seenShared
    proven := fun holder slot => world.proven holder slot && world.records holder slot }

def setClaim (key : ClaimKey) (update : ResourceClaim → ResourceClaim) : PoolWorld :=
  { world with claims := world.claims.map fun claim => if claim.key = key then update claim else claim }

def setShared (key : ClaimKey) (update : SharedDatabase → SharedDatabase) : PoolWorld :=
  { world with shared := world.shared.map fun sd => if sd.key = key then update sd else sd }

def prove (holder : Holder) (slot : Slot) : PoolWorld :=
  { world with proven := fun other known => world.proven other known || (other == holder && known == slot) }

end PoolWorld

def withFinalizer (finalizers : List String) (finalizer : String) (keep : Bool) : List String :=
  if keep then if finalizers.contains finalizer then finalizers else finalizers ++ [finalizer]
  else finalizers.filter fun other => other != finalizer

-- An object under deletion goes with its last finalizer.
def claimGone (claim : ResourceClaim) : Bool := claim.deletionTimestamp.isSome && claim.finalizers.isEmpty

def sharedGone (sd : SharedDatabase) : Bool := sd.deletionTimestamp.isSome && sd.finalizers.isEmpty

namespace PoolWorld

variable (world : PoolWorld)

def removeClaim (key : ClaimKey) : PoolWorld :=
  { world with claims := world.claims.filter fun claim => claim.key != key || !claimGone claim }

def removeShared (key : ClaimKey) : PoolWorld :=
  { world with shared := world.shared.filter fun sd => sd.key != key || !sharedGone sd }

-- Whether the write finds what it is for. No finalizer is added under deletion.
def applies : PoolRequest → Bool
  | .claimFinalizers key keep => world.claims.any fun claim => claim.key == key && (!keep || claim.deletionTimestamp.isNone)
  | .sharedFinalizers key keep => world.shared.any fun sd => sd.key == key && (!keep || sd.deletionTimestamp.isNone)
  | .checkpoint key _ => world.claims.any fun claim => claim.key == key
  | .claimStatus key _ _ _ => world.claims.any fun claim => claim.key == key
  | .sharedStatus key _ => world.shared.any fun sd => sd.key == key
  | _ => true

def effect : PoolRequest → PoolWorld
  | .claimFinalizers key keep =>
    (world.setClaim key fun claim =>
      { claim with finalizers := withFinalizer claim.finalizers provisionerFinalizer keep }).removeClaim key
  | .sharedFinalizers key keep =>
    (world.setShared key fun sd =>
      { sd with finalizers := withFinalizer sd.finalizers sdFinalizer keep }).removeShared key
  | .checkpoint key slot => world.setClaim key fun claim => { claim with status := some (checkpointed claim.status slot) }
  | .claimStatus key cond secret allocation =>
    let written := world.setClaim key fun claim =>
      { claim with status := some (statusApplied claim.status cond secret allocation) }
    match allocation with
    | some slot =>
      if cond.status = "True" then
        { written.prove (.claim key) slot with
          redeemed := fun uid => world.redeemed uid || world.records (.retained uid key) slot }
      else written
    | none => written
  | .sharedStatus key status =>
    let written := world.setShared key fun sd => { sd with status := some status }
    match slotOf status.inst status.dbnum with
    | some slot => if status.ready = some true then written.prove (.shared key) slot else written
    | none => written
  | .createRetained snapshot =>
    if world.retained.any fun entry => entry.2.name == snapshot.name then world
    else
      { world with
        nextUid := world.nextUid + 1
        retained := world.retained ++ [(world.nextUid, snapshot)]
        proven := fun holder slot => world.proven holder slot ||
          (holder == .retained world.nextUid snapshot.claimRef && world.proven (.claim snapshot.claimRef) slot) }
  | .deleteRetained name => { world with retained := world.retained.filter fun entry => entry.2.name != name }
  | _ => world

end PoolWorld

-- How a request turns out: it may fail, or be done and its answer lost.
structure PoolFate where
  commits : Bool
  answered : Bool
  provider : Option ServiceProvider
  count : Nat

variable (world : PoolWorld)

def writePool (fate : PoolFate) (request : PoolRequest) : Bool × PoolWorld :=
  if fate.commits && world.applies request then (fate.answered, (world.effect request).settled) else (false, world)

def answered {α : Type} (fate : PoolFate) (value : α) : Option α := if fate.answered then some value else none

def servePool (fate : PoolFate) : (request : PoolRequest) → poolApi.Response request × PoolWorld
  | .listClaims => (answered fate world.claims, world)
  | .listRetained => (answered fate (world.retained.map Prod.snd), world)
  | .listShared => (answered fate world.shared, world)
  | .getClaim key => (answered fate (world.claims.find? fun claim => claim.key == key), world)
  | .getRetained name =>
    (answered fate ((world.retained.find? fun entry => entry.2.name == name).map Prod.snd), world)
  | .findProvider _ => (answered fate fate.provider, world)
  | .selectProvider => (answered fate fate.provider, world)
  | .listBinders _ => (answered fate fate.count, world)
  | .outside _ => (fate.answered, world)
  | .flushdb _ => (fate.answered, world)
  | .claimFinalizers key keep => writePool world fate (.claimFinalizers key keep)
  | .sharedFinalizers key keep => writePool world fate (.sharedFinalizers key keep)
  | .checkpoint key slot => writePool world fate (.checkpoint key slot)
  | .claimStatus key cond secret allocation => writePool world fate (.claimStatus key cond secret allocation)
  | .sharedStatus key status => writePool world fate (.sharedStatus key status)
  | .createRetained snapshot => writePool world fate (.createRetained snapshot)
  | .deleteRetained name => writePool world fate (.deleteRetained name)

inductive PoolChange where
  | tick (seconds : Nat)
  | createClaim (key : ClaimKey) (spec : ResourceClaimSpec)
  | editClaim (key : ClaimKey) (spec : ResourceClaimSpec)
  | schedule (key : ClaimKey) (provider : String)
  | deleteClaim (key : ClaimKey)
  | createShared (key : ClaimKey) (spec : SharedDatabaseSpec)
  | editShared (key : ClaimKey) (spec : SharedDatabaseSpec)
  | deleteShared (key : ClaimKey)

def changedPool : PoolChange → PoolWorld
  | .tick seconds => { world with now := world.now + seconds }
  | .createClaim key spec =>
    if world.claims.any fun claim => claim.key == key then world
    else { world with claims := world.claims ++ [{ key := key, spec := spec }] }
  | .editClaim key spec => world.setClaim key fun claim => { claim with spec := spec }
  | .schedule key provider =>
    world.setClaim key fun claim => { claim with status := some (scheduled claim.status provider) }
  | .deleteClaim key =>
    (world.setClaim key fun claim =>
      { claim with deletionTimestamp := some (claim.deletionTimestamp.getD world.now) }).removeClaim key
  | .createShared key spec =>
    if world.shared.any fun sd => sd.key == key then world
    else { world with shared := world.shared ++ [{ ns := key.ns, name := key.name, spec := spec }] }
  | .editShared key spec => world.setShared key fun sd => { sd with spec := spec }
  | .deleteShared key =>
    (world.setShared key fun sd =>
      { sd with deletionTimestamp := some (sd.deletionTimestamp.getD world.now) }).removeShared key

-- A pass and the version of its object that it acts on.
inductive PoolJob where
  | claim (version : ResourceClaim)
  | shared (version : SharedDatabase)
  | retained (uid : Nat) (version : RetainedClaim) (now : Nat)

inductive PoolKey where
  | claim (key : ClaimKey)
  | shared (key : ClaimKey)
  | retained (uid : Nat)
deriving DecidableEq

def PoolJob.key : PoolJob → PoolKey
  | .claim version => .claim version.key
  | .shared version => .shared version.key
  | .retained uid _ _ => .retained uid

def PoolJob.holder : PoolJob → Holder
  | .claim version => .claim version.key
  | .shared version => .shared version.key
  | .retained uid version _ => .retained uid version.claimRef

def beginPass : PoolJob → Option (PoolWorld × PoolProg)
  | .claim version =>
    if world.seenClaims.contains version then
      some ({ world with
            seenClaims := (world.seenClaims.filter fun other => other.key != version.key) ++
              world.claims.filter fun other => other.key == version.key },
          reconcileClaim version)
    else none
  | .shared version =>
    if world.seenShared.contains version then
      some ({ world with
            seenShared := (world.seenShared.filter fun other => other.key != version.key) ++
              world.shared.filter fun other => other.key == version.key },
          reconcileShared version)
    else none
  | .retained uid version now =>
    if world.seenRetained.contains (uid, version) && now == world.now then some (world, reconcileRetained version now)
    else none

inductive Begun (world : PoolWorld) : PoolJob → PoolWorld → PoolProg → Prop where
  | claim (version : ResourceClaim) (seen : List ResourceClaim) :
      Begun world (.claim version) { world with seenClaims := seen } (reconcileClaim version)
  | shared (version : SharedDatabase) (seen : List SharedDatabase) :
      Begun world (.shared version) { world with seenShared := seen } (reconcileShared version)
  | retained (uid : Nat) (version : RetainedClaim) (seen : (uid, version) ∈ world.seenRetained) :
      Begun world (.retained uid version world.now) world (reconcileRetained version world.now)

theorem pass_begun {world after : PoolWorld} {job : PoolJob} {prog : PoolProg}
    (begun : beginPass world job = some (after, prog)) : Begun world job after prog := by
  unfold beginPass at begun
  split at begun
  · split at begun
    · cases some.inj begun
      exact .claim _ _
    · cases begun
  · split at begun
    · cases some.inj begun
      exact .shared _ _
    · cases begun
  · split at begun
    · rename_i uid version now seen
      cases some.inj begun
      obtain ⟨known, same⟩ := (Bool.and_eq_true _ _).mp seen
      cases eq_of_beq same
      exact .retained uid version (List.contains_iff_mem.mp known)
    · cases begun

def isCheckpoint : PoolRequest → Bool
  | .checkpoint _ _ => true
  | .sharedStatus _ status => (slotOf status.inst status.dbnum).isSome && allocationUnfinished status.conditions
  | _ => false

def poolFleet : Fleet poolApi PoolError (Option Nat) PoolWorld PoolKey PoolJob PoolFate PoolChange where
  initial world := world = {}
  key := PoolJob.key
  begin := beginPass
  serve := servePool
  lingers := isCheckpoint
  change world made := some (changedPool world made).settled

abbrev PoolState := Fleet.State poolApi PoolError (Option Nat) PoolWorld PoolKey PoolJob

abbrev PoolAction := Fleet.Action PoolKey PoolJob PoolFate PoolChange

abbrev PoolEvent := Fleet.Event poolApi PoolJob PoolChange

end AppRafter.Provisioner
