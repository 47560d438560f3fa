import AppRafter.Lib.Solo
import AppRafter.Provisioner.Sweep
import AppRafter.Provisioner.Pool
import AppRafter.Provisioner.SharedGroups

set_option autoImplicit false

namespace AppRafter.Provisioner

open Lib Application

-- The cluster a pg backing lives on, and the namespace of its objects.
structure Place where
  ns : String
  cluster : String
deriving DecidableEq

def placeOf (provider : Option ServiceProvider) : Place :=
  { ns := (provider.bind (·.configNs)).getD defaultCnpgNamespace
    cluster := (provider.bind (·.cluster)).getD defaultCnpgCluster }

inductive ServerBound where
  | lock
  | statement

inductive PgFailure where
  | cancelled (bound : ServerBound)
  | timedOut
  | other

def platformRole : String := "apprafter_admin"

-- The Database is the one object there is in the namespace of a place.
inductive PgCall where
  | ensureCluster (place : Place)
  | ensurePlatformSecret (place : Place)
  | upsertPlatformRole (place : Place)
  | readPlatformPassword (place : Place)
  | execute (place : Place) (statements : List Statement)
  | applyDatabase (place : Place)
  | getDatabase (place : Place)
  | declareAbsent (place : Place)
  | probeExtensions (place : Place)

inductive SdRequest where
  | pool (request : PoolRequest)
  | pg (call : PgCall)

def sdApi : Api where
  Request := SdRequest
  Response
    | .pool request => poolApi.Response request
    | .pg (.execute _ _) => Option PgFailure
    | .pg (.getDatabase _) => Option Bool
    | .pg _ => Bool

abbrev SdProg := Prog sdApi PoolError (Option Nat)

def pooled : PoolProg → SdProg
  | .done value => .done value
  | .fail error => .fail error
  | .call request next => .call (.pool request) fun response => pooled (next response)

section Database

variable (sd : SharedDatabase)

def isProvisioned (database : String) : Bool := decide ((sd.status.bind (·.database)) = some database)

-- What a batch that the server cancelled, or did not answer, is reported as.
def unfinishedCall (failure : PgFailure) : Option PoolProg :=
  let provisioned := isProvisioned sd (sharedGroup sd.key)
  let report (ready : Bool) (reason : String) (retry : Nat) : PoolProg := countBinders sd fun _ =>
      writeSdStatus sd ready (backingOf sd) (if ready then "True" else "False") reason (.done (some retry))
  match failure with
  | .cancelled .lock => some (report provisioned "AwaitingLock" 30)
  | .cancelled .statement => some (report provisioned "StatementTimedOut" 30)
  | .timedOut => some (report (provisioned && decide (sd.status.bind (·.ready) = some true)) "AwaitingCluster" 20)
  | .other => none

def awaiting (reason : String) (retry : Nat) : PoolProg :=
  countBinders sd fun _ => writeSdStatus sd false (backingOf sd) "False" reason (.done (some retry))

def pgCall (call : PgCall) (response : sdApi.Response (.pg call) → SdProg) : SdProg := .call (.pg call) response

def publishPg (place : Place) : SdProg :=
  pgCall (.probeExtensions place) fun _ =>
    pooled (countBinders sd fun _ =>
      writeSdStatus sd true { database := some (sharedGroup sd.key), inst := some place.cluster } "True" "Provisioned"
        (.done (some 300)))

def grantPg (place : Place) : SdProg :=
  pgCall (.execute place (grantReader sd.key (sharedGroup sd.key))) fun failure => match failure with
    | none => publishPg sd place
    | some failure => pooled ((unfinishedCall sd failure).getD (awaiting sd "AwaitingDatabase" 20))

def createPg (place : Place) : SdProg :=
  pgCall (.execute place (createGroups sd.key platformRole)) fun failure => match failure with
    | some failure => pooled ((unfinishedCall sd failure).getD (awaiting sd "AwaitingCluster" 20))
    | none =>
      pgCall (.applyDatabase place) fun ok => match ok with
        | true => grantPg sd place
        | false => .fail .call

def reconcilePg : SdProg :=
  .call (.pool .selectProvider) fun found => match found with
    | none => .fail .call
    | some none => pooled (awaiting sd "NoProvider" 60)
    | some (some provider) =>
      let place := placeOf (some provider)
      pgCall (.ensureCluster place) fun ok => match ok with
        | false => .fail .call
        | true =>
          pgCall (.ensurePlatformSecret place) fun ok => match ok with
            | false => .fail .call
            | true =>
              pgCall (.upsertPlatformRole place) fun ok => match ok with
                | false => pooled (awaiting sd "AwaitingCluster" 20)
                | true =>
                  pgCall (.readPlatformPassword place) fun ok => match ok with
                    | false => .fail .call
                    | true => createPg sd place

-- They go once the database is gone, or stay where nobody can log in to drop them.
def dropPgGroups (place : Place) : SdProg :=
  pgCall (.readPlatformPassword place) fun readable => match readable with
    | false => pooled (dropSharedFinalizer sd)
    | true =>
      pgCall (.execute place (dropGroups sd.key)) fun failure => match failure with
        | none => pooled (dropSharedFinalizer sd)
        | some _ => .done (some 15)

def dropPg : SdProg :=
  .call (.pool .selectProvider) fun found => match found with
    | none => .fail .call
    | some provider =>
      if (sd.status.bind (·.database)).isNone then pooled (dropSharedFinalizer sd)
      else
        let place := placeOf provider
        pgCall (.getDatabase place) fun found => match found with
          | none => .fail .call
          | some false => dropPgGroups sd place
          | some true =>
            pgCall (.declareAbsent place) fun ok => match ok with
              | true => dropPgGroups sd place
              | false => .fail .call

def dropSharedBacking : SdProg :=
  if sd.spec.type = "pg" then dropPg sd
  else if sd.spec.type = "redis" then pooled (dropBacking sd)
  else
    .call (.pool .selectProvider) fun found => match found with
      | none => .fail .call
      | some _ => pooled (dropSharedFinalizer sd)

def provisionDatabase : SdProg :=
  if sd.spec.type = "pg" then reconcilePg sd
  else if sd.spec.type = "redis" then pooled (reconcileRedis sd)
  else pooled (awaiting sd "UnsupportedType" 300)

def reasonInUse : String := "InUse"

def reconcileSharedDatabase : SdProg :=
  match sd.deletionTimestamp with
  | some _ =>
    if sd.finalizers.contains sdFinalizer then
      .call (.pool (.listBinders sd.key)) fun count => match count with
        | none => .fail .call
        | some 0 => dropSharedBacking sd
        | some (_ + 1) => pooled (writeSdStatus sd false (backingOf sd) "False" reasonInUse (.done (some 30)))
    else .done none
  | none =>
    if sd.finalizers.contains sdFinalizer then provisionDatabase sd
    else
      .call (.pool (.sharedFinalizers sd.key true)) fun ok => match ok with
        | true => provisionDatabase sd
        | false => .fail .call

end Database

-- `made` is whether anything was created, `ruined` whether the deletion touched the data.
structure SdWorld where
  sd : SharedDatabase
  released : Bool := false
  binders : Nat := 0
  provider : Option ServiceProvider
  databases : String → Option Bool
  servers : Place → Server
  deleting : Bool := false
  unreadable : Bool := false
  made : List Place := []
  ruined : Bool := false

-- A call that fails may still have been carried out, a batch up to some statement.
structure SdFate where
  answer : (request : SdRequest) → sdApi.Response request
  applied : Bool
  ran : Nat

variable (world : SdWorld)

def SdWorld.onServer (place : Place) (run : Server → Server) : SdWorld :=
  { world with servers := fun other => if other = place then run (world.servers other) else world.servers other }

def SdWorld.setDatabase (ns : String) (ensure : Bool) : SdWorld :=
  { world with databases := fun other => if other = ns then some ensure else world.databases other }

def serveSdPool (fate : SdFate) : (request : PoolRequest) → poolApi.Response request × SdWorld
  | .listBinders key => ((fate.answer (.pool (.listBinders key))).map fun _ => world.binders, world)
  | .selectProvider => ((fate.answer (.pool .selectProvider)).map fun _ => world.provider, world)
  | .sharedStatus key status =>
    let ok := fate.answer (.pool (.sharedStatus key status))
    (ok, if ok || fate.applied then { world with sd := { world.sd with status := some status } } else world)
  | .sharedFinalizers key keep =>
    let ok := fate.answer (.pool (.sharedFinalizers key keep))
    (ok, if ok || fate.applied then
        { world with
          sd := { world.sd with finalizers := withFinalizer world.sd.finalizers sdFinalizer keep }
          released := world.released || !keep }
      else world)
  | .flushdb slot =>
    let ok := fate.answer (.pool (.flushdb slot))
    (ok, if (ok || fate.applied) && world.deleting then { world with ruined := true } else world)
  | request => (fate.answer (.pool request), world)

def serveSdPg (fate : SdFate) : (call : PgCall) → sdApi.Response (.pg call) × SdWorld
  | .readPlatformPassword place =>
    let ok := fate.answer (.pg (.readPlatformPassword place))
    (ok, { world with unreadable := world.unreadable || !ok })
  | .execute place statements =>
    let failure := fate.answer (.pg (.execute place statements))
    let after := world.onServer place fun server => server.executeAll statements (failure.map fun _ => fate.ran)
    (failure, if world.deleting then after else { after with made := place :: world.made })
  | .applyDatabase place =>
    let ok := fate.answer (.pg (.applyDatabase place))
    (ok, if ok || fate.applied then { world.setDatabase place.ns true with made := place :: world.made } else world)
  | .getDatabase place =>
    ((fate.answer (.pg (.getDatabase place))).map fun _ => (world.databases place.ns).isSome, world)
  | .declareAbsent place =>
    let ok := fate.answer (.pg (.declareAbsent place))
    (ok, if ok || fate.applied then { world.setDatabase place.ns false with ruined := true } else world)
  | call => (fate.answer (.pg call), world)

def serveSd (fate : SdFate) : (request : SdRequest) → sdApi.Response request × SdWorld
  | .pool request => serveSdPool world fate request
  | .pg call => serveSdPg world fate call

inductive SdChange where
  | delete (time : Nat)
  | bind
  | unbind
  | provider (provider : Option ServiceProvider)

def changeSd : SdChange → Option SdWorld
  | .delete time =>
    if world.sd.deletionTimestamp.isSome then none
    else some { world with sd := { world.sd with deletionTimestamp := some time } }
  | .bind => some { world with binders := world.binders + 1 }
  | .unbind => some { world with binders := world.binders - 1 }
  | .provider provider => some { world with provider := provider }

structure SdInitial (world : SdWorld) : Prop where
  fresh : world.sd.status = none ∧ world.sd.deletionTimestamp = none ∧ world.released = false
  quiet : world.deleting = false ∧ world.made = [] ∧ world.ruined = false
  databases : ∀ ns, world.databases ns = none
  groups : ∀ place, ∀ group ∈ groupsOf world.sd.key, (world.servers place).role group = false

def sdFleet : Fleet sdApi PoolError (Option Nat) SdWorld Unit SharedDatabase SdFate SdChange where
  initial := SdInitial
  key _ := ()
  begin world sd := if world.released = false ∧ sd = world.sd then
      some ({ world with deleting := sd.deletionTimestamp.isSome, unreadable := false }, reconcileSharedDatabase sd)
    else none
  serve := serveSd
  lingers _ := false
  change := changeSd

end AppRafter.Provisioner
