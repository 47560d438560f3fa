import Mathlib.Data.List.Nodup
import AppRafter.Lib.System
import AppRafter.Provisioner.Reaper

set_option autoImplicit false

namespace AppRafter.Provisioner

open Lib

structure ObjectList (α : Type) where
  items : List α
  continueToken : Option String := none

def listTruncated {α : Type} (list : ObjectList α) : Bool := list.continueToken.any fun token => token != ""

-- A 404 is told apart from the other errors: the backend's CRD is not served.
inductive ListReply (α : Type) where
  | ok (list : ObjectList α)
  | notFound
  | failed

def ListReply.list {α : Type} : ListReply α → Option (ObjectList α)
  | .ok list => some list
  | .notFound => none
  | .failed => none

def ListReply.items {α : Type} (reply : ListReply α) : List α := (reply.list.map ObjectList.items).getD []

def ListReply.Complete {α : Type} (reply : ListReply α) : Prop := ∃ list, reply.list = some list ∧ listTruncated list = false

structure BackendObject where
  name : String
  uid : Option String
  labels : List (String × String) := []
  deletionTimestamp : Option Nat := none

def managedByKey : String := "apprafter.io/managed-by"

def managedByValue : String := "apprafter"

def isStamped (object : BackendObject) : Bool := object.labels.lookup managedByKey == some managedByValue

-- A PersistentVolumeClaim, with the uids of its ownerReferences.
structure Volume where
  name : String
  owners : List String := []

structure VolumeReads where
  before : ListReply Volume
  patched : String → Bool
  after : ListReply Volume

inductive DeleteReply where
  | done
  | changed
  | failed

-- Each LIST by the namespace asked, the strip and the DELETE by uid.
structure SweepPass where
  live : ListReply ResourceClaim
  retained : ListReply RetainedClaim
  shared : ListReply SharedDatabase
  providers : ListReply ServiceProvider
  now : Nat
  dragonflies : String → ListReply BackendObject
  clusters : String → ListReply BackendObject
  volumes : String → VolumeReads
  delete : String → DeleteReply

structure SweepInputs where
  live : List ResourceClaim
  retained : List RetainedClaim
  shared : List SharedDatabase
  providers : List ServiceProvider
  idx : ProviderIndex
  now : Nat

-- The truncation check names three of the four lists.
def SweepPass.inputs (pass : SweepPass) : Option SweepInputs := do
  let live ← pass.live.list
  let retained ← pass.retained.list
  let shared ← pass.shared.list
  let providers ← pass.providers.list
  if listTruncated live || listTruncated retained || listTruncated providers then none
  else
    some
      { live := live.items
        retained := retained.items
        shared := shared.items
        providers := providers.items
        idx := providerIndex providers.items
        now := pass.now }

def backendLabel : Target → String
  | .dragonfly _ .ephemeral _ => "dragonfly-ephemeral"
  | .dragonfly _ .persistent _ => "dragonfly-persistent"
  | .cnpg _ => "cnpg"

def dwellKey (target : Target) : String := backendLabel target ++ "/" ++ target.name

def defaultRedisNamespace : String := "dragonfly-system"

def defaultCnpgNamespace : String := "cnpg-system"

def backendNamespace (backend : Backend) (fallback : String) (providers : List ServiceProvider) : String :=
  ((providers.find? fun provider => Backend.fromSpecBackend provider.backend == some backend).bind
    ServiceProvider.configNs).getD fallback

def redisNamespaceFrom : List ServiceProvider → String := backendNamespace .dragonfly defaultRedisNamespace

def cnpgNamespaceFrom : List ServiceProvider → String := backendNamespace .cloudnativepg defaultCnpgNamespace

inductive StripFailure where
  | ownerReattached
  | listTruncated
  | verifyListTruncated
  | readFailed

def ownerRefIndices (volume : Volume) (uid : String) : List Nat :=
  if uid = "" then [] else ((volume.owners.zipIdx.filter fun owner => owner.1 == uid).map Prod.snd).reverse

def stripCnpgPvcOwners (reads : VolumeReads) (uid : String) : Except StripFailure Nat :=
  match reads.before.list with
  | none => .error .readFailed
  | some before =>
    if listTruncated before then .error .listTruncated
    else
      let owned := before.items.filter fun volume => !(ownerRefIndices volume uid).isEmpty
      if !owned.all fun volume => reads.patched volume.name then .error .readFailed
      else
        match reads.after.list with
        | none => .error .readFailed
        | some after =>
          if listTruncated after then .error .verifyListTruncated
          else if after.items.any fun volume => !(ownerRefIndices volume uid).isEmpty then .error .ownerReattached
          else .ok owned.length

structure Judgement where
  pass : SweepPass
  target : Target
  uid : Option String
  decision : Decision
  deleted : Bool

-- The dwell clocks, and every judgement so far, the latest first.
structure Sweeper where
  clocks : String → Option Nat
  log : List Judgement

structure Candidate where
  target : Target
  uid : Option String

structure Settled where
  clocks : String → Option Nat
  deleted : Bool := false
  failed : Bool := false

-- `verified` is the step the CNPG arm has before its DELETE.
def settle (clocks : String → Option Nat) (key : String) (now : Nat) (uid : Option String) (verified : String → Bool)
    (delete : String → DeleteReply) : Decision → Settled
  | .veto _ => { clocks := Function.update clocks key none }
  | .dwell => { clocks := Function.update clocks key (some ((clocks key).getD now)) }
  | .reap =>
    match uid.filter fun uid => uid != "" with
    | none => { clocks := clocks }
    | some uid =>
      if verified uid then
        match delete uid with
        | .done => { clocks := Function.update clocks key none, deleted := true }
        | .changed => { clocks := Function.update clocks key none, deleted := true }
        | .failed => { clocks := clocks, deleted := true, failed := true }
      else { clocks := clocks }

variable (dwell : Nat)

def decisionFor (inputs : SweepInputs) (clocks : String → Option Nat) (target : Target) : Decision :=
  reapDecision target inputs.live inputs.retained inputs.shared inputs.idx
    ((clocks (dwellKey target)).map fun since => inputs.now - since) dwell

def settled (pass : SweepPass) (inputs : SweepInputs) (verified : String → Bool) (candidate : Candidate)
    (clocks : String → Option Nat) : Settled :=
  settle clocks (dwellKey candidate.target) inputs.now candidate.uid verified pass.delete
    (decisionFor dwell inputs clocks candidate.target)

def judged (pass : SweepPass) (inputs : SweepInputs) (verified : String → Bool) (candidate : Candidate)
    (sweeper : Sweeper) : Sweeper :=
  let outcome := settled dwell pass inputs verified candidate sweeper.clocks
  { clocks := outcome.clocks
    log :=
      { pass := pass
        target := candidate.target
        uid := candidate.uid
        decision := decisionFor dwell inputs sweeper.clocks candidate.target
        deleted := outcome.deleted } :: sweeper.log }

-- No keys are returned where the arm ends in an error.
def sweepCandidates (dwell : Nat) (pass : SweepPass) (inputs : SweepInputs) (verified : String → Bool) :
    List Candidate → Sweeper → Sweeper × Option (List String)
  | [], sweeper => (sweeper, some [])
  | candidate :: rest, sweeper =>
    let next := judged dwell pass inputs verified candidate sweeper
    if (settled dwell pass inputs verified candidate sweeper.clocks).failed then (next, none)
    else
      let result := sweepCandidates dwell pass inputs verified rest next
      (result.1, result.2.map fun seen => dwellKey candidate.target :: seen)

def sweepArm (pass : SweepPass) (inputs : SweepInputs) (verified : String → Bool)
    (candidate : BackendObject → Option Candidate) (reply : ListReply BackendObject) (sweeper : Sweeper) :
    Sweeper × Option (List String) :=
  match reply with
  | .failed => (sweeper, none)
  | .notFound => (sweeper, some [])
  | .ok list =>
    if listTruncated list then (sweeper, some [])
    else sweepCandidates dwell pass inputs verified (list.items.filterMap candidate) sweeper

def dragonflyCandidate (object : BackendObject) : Option Candidate :=
  match parsed : classOfInstance object.name with
  | none => none
  | some cls =>
    if !isStamped object || object.deletionTimestamp.isSome then none
    else some { target := .dragonfly object.name cls parsed, uid := object.uid }

def cnpgCandidate (idx : ProviderIndex) (object : BackendObject) : Option Candidate :=
  if !(idx.cnpgCluster.map Prod.snd).contains object.name then none
  else if !isStamped object || object.deletionTimestamp.isSome then none
  else some { target := .cnpg object.name, uid := object.uid }

def sweepDragonfly (pass : SweepPass) (inputs : SweepInputs) : Sweeper → Sweeper × Option (List String) :=
  sweepArm dwell pass inputs (fun _ => true) dragonflyCandidate (pass.dragonflies (redisNamespaceFrom inputs.providers))

def stripVerified (pass : SweepPass) (uid : String) : Bool :=
  match stripCnpgPvcOwners (pass.volumes uid) uid with
  | .ok _ => true
  | .error _ => false

def sweepCnpg (pass : SweepPass) (inputs : SweepInputs) (sweeper : Sweeper) : Sweeper × Option (List String) :=
  if inputs.idx.cnpgCluster.isEmpty then (sweeper, some [])
  else
    sweepArm dwell pass inputs (stripVerified pass) (cnpgCandidate inputs.idx)
      (pass.clusters (cnpgNamespaceFrom inputs.providers)) sweeper

def sweep (pass : SweepPass) (sweeper : Sweeper) : Sweeper :=
  match pass.inputs with
  | none => sweeper
  | some inputs =>
    let dragonfly := sweepDragonfly dwell pass inputs sweeper
    let cnpg := sweepCnpg dwell pass inputs dragonfly.1
    let seen := dragonfly.2.getD [] ++ cnpg.2.getD []
    { cnpg.1 with clocks := fun key => if seen.contains key then cnpg.1.clocks key else none }

end AppRafter.Provisioner
