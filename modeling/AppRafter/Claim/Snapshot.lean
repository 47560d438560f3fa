import AppRafter.Claim.Scheduler
import AppRafter.Provisioner.Pool

set_option autoImplicit false

namespace AppRafter.Claim

open Lib
open Application (ResourceClaimSpec OwnerReference)
open Provisioner (ClaimKey Backend pgIdentifier k8sName aclUser passwordSecretName connectionSecretName gracePeriod
  defaultCnpgCluster)

-- A year outside 0..=9999 is written, and does not parse.
structure Chrono where
  Instant : Type
  add : Instant → Nat → Instant
  toRfc3339 : Instant → String
  isRfc3339 : String → Bool
  fourDigitYear : Instant → Bool

structure Chrono.Lawful (chrono : Chrono) : Prop where
  parses : ∀ t, chrono.isRfc3339 (chrono.toRfc3339 t) = chrono.fourDigitYear t
  empty : chrono.isRfc3339 "" = false

structure ResourceClaimStatus where
  provider : Option String := none
  ready : Option Bool := none
  conditions : List ResourceClaimCondition := []
  inst : Option String := none
  dbnum : Option Nat := none
  volumeClaimRef : Option String := none

structure ResourceClaim (Instant : Type) where
  key : ClaimKey
  deletionTimestamp : Option Instant := none
  finalizers : List String := []
  ownerReferences : List OwnerReference := []
  spec : ResourceClaimSpec
  status : Option ResourceClaimStatus := none

structure ClaimRef where
  name : Option String
  ns : Option String
deriving DecidableEq

-- A key that is not of its type reads as missing.
structure RetainedClaimSpec where
  claimRef : Option ClaimRef := none
  provider : Option String := none
  backend : Option String := none
  cnpgCluster : Option String := none
  cnpgNamespace : Option String := none
  role : Option String := none
  database : Option String := none
  databaseObjectName : Option String := none
  passwordSecretName : Option String := none
  inst : Option String := none
  dbnum : Option Nat := none
  aclUser : Option String := none
  connectionSecretRef : Option String := none
  connectionSecretNamespace : Option String := none
  volumeClaimRef : Option String := none
  volumeClaimNamespace : Option String := none
  natsNamespace : Option String := none
  natsApp : Option String := none
  natsDeclaredStreams : Option (List String) := none
  natsDeclaredConsumers : Option (List String) := none
  retainUntil : Option String := none
deriving DecidableEq

structure RetainedClaim where
  name : String
  ns : String
  spec : RetainedClaimSpec

def retainedClaimNamespace : String := "apprafter-system"

def defaultCnpgNamespace : String := "cnpg-system"

def retainedClaimObject (snapshotName claimName claimNs provider backend cnpgCluster cnpgNamespace role database
    databaseObjectName passwordSecretName retainUntil : String) : RetainedClaim :=
  { name := snapshotName
    ns := retainedClaimNamespace
    spec :=
      { claimRef := some { name := some claimName, ns := some claimNs }
        provider := some provider
        backend := some backend
        cnpgCluster := some cnpgCluster
        cnpgNamespace := some cnpgNamespace
        role := some role
        database := some database
        databaseObjectName := some databaseObjectName
        passwordSecretName := some passwordSecretName
        retainUntil := some retainUntil } }

def retainedClaimDragonflyObject (snapshotName claimName claimNs provider inst : String) (dbnum : Nat)
    (aclUser connectionSecretRef connectionSecretNamespace retainUntil : String) : RetainedClaim :=
  { name := snapshotName
    ns := retainedClaimNamespace
    spec :=
      { claimRef := some { name := some claimName, ns := some claimNs }
        provider := some provider
        backend := some "dragonfly"
        inst := some inst
        dbnum := some dbnum
        aclUser := some aclUser
        connectionSecretRef := some connectionSecretRef
        connectionSecretNamespace := some connectionSecretNamespace
        retainUntil := some retainUntil } }

def retainedClaimDiskObject (snapshotName claimName claimNs provider volumeClaimRef volumeClaimNamespace
    retainUntil : String) : RetainedClaim :=
  { name := snapshotName
    ns := retainedClaimNamespace
    spec :=
      { claimRef := some { name := some claimName, ns := some claimNs }
        provider := some provider
        backend := some "disk"
        volumeClaimRef := some volumeClaimRef
        volumeClaimNamespace := some volumeClaimNamespace
        retainUntil := some retainUntil } }

def retainedClaimNatsObject (snapshotName claimName claimNs provider natsNamespace app : String)
    (declaredStreams declaredConsumers : List String)
    (connectionSecretRef connectionSecretNamespace retainUntil : String) : RetainedClaim :=
  { name := snapshotName
    ns := retainedClaimNamespace
    spec :=
      { claimRef := some { name := some claimName, ns := some claimNs }
        provider := some provider
        backend := some "nats"
        natsNamespace := some natsNamespace
        natsApp := some app
        natsDeclaredStreams := some declaredStreams
        natsDeclaredConsumers := some declaredConsumers
        connectionSecretRef := some connectionSecretRef
        connectionSecretNamespace := some connectionSecretNamespace
        retainUntil := some retainUntil } }

variable {Instant : Type} (claim : ResourceClaim Instant)

def declaringApp : Option String :=
  (claim.ownerReferences.find? fun owner => owner.kind == "Application" && owner.controller == some true).map (·.name)

-- Providers are looked up by bare name, the first in list order.
def findProvider (providers : List ServiceProvider) (name : String) : Option ServiceProvider :=
  providers.find? fun p => p.name == name

def ServiceProvider.cnpgCluster (p : ServiceProvider) : String := p.cluster.getD defaultCnpgCluster

def ServiceProvider.cnpgNamespace (p : ServiceProvider) : String := p.configNs.getD defaultCnpgNamespace

def ResourceClaim.providerName : String :=
  (claim.status.bind (·.provider)).getD ""

def ResourceClaim.allocation : Option (String × Nat) :=
  match claim.status.bind (·.inst), claim.status.bind (·.dbnum) with
  | some inst, some dbnum => some (inst, dbnum)
  | _, _ => none

def ResourceClaim.volumeClaimRef : String :=
  ((claim.status.bind (·.volumeClaimRef)).filter fun v => v ≠ "").getD (k8sName claim.key)

-- The provider's backend gives the shape, CNPG where there is none; a shared disk has none.
def snapshotPayload (provider : Option ServiceProvider)
    (retainUntil : String) : Option RetainedClaim :=
  let backend := (provider.map (·.backend)).getD ""
  let cluster := (provider.map ServiceProvider.cnpgCluster).getD defaultCnpgCluster
  let cnpgNs := (provider.map ServiceProvider.cnpgNamespace).getD defaultCnpgNamespace
  let objectName := k8sName claim.key
  let role := pgIdentifier claim.key
  match Backend.fromSpecBackend backend with
  | some .sharedDisk => none
  | some .dragonfly =>
    let slot := claim.allocation.getD ("", 0)
    some (retainedClaimDragonflyObject objectName claim.key.name claim.key.ns claim.providerName slot.1 slot.2
      (aclUser claim.key) (connectionSecretName claim.key) claim.key.ns retainUntil)
  | some .disk =>
    some (retainedClaimDiskObject objectName claim.key.name claim.key.ns claim.providerName claim.volumeClaimRef
      claim.key.ns retainUntil)
  | some .nats =>
    let declaredStreams := (claim.spec.jetstream.map fun j => j.streams.map (·.name)).getD []
    let declaredConsumers := (claim.spec.jetstream.map fun j => j.consume.map (·.durable)).getD []
    some (retainedClaimNatsObject objectName claim.key.name claim.key.ns claim.providerName cnpgNs
      ((declaringApp claim).getD "") declaredStreams declaredConsumers (connectionSecretName claim.key) claim.key.ns
      retainUntil)
  | _ =>
    some (retainedClaimObject objectName claim.key.name claim.key.ns claim.providerName backend cluster cnpgNs role role
      objectName (passwordSecretName claim.key) retainUntil)

def computeRetainUntil (chrono : Chrono) (deletion : chrono.Instant) : chrono.Instant := chrono.add deletion gracePeriod

def snapshotRetainedClaim (chrono : Chrono) (claim : ResourceClaim chrono.Instant) (providers : List ServiceProvider)
    (now : chrono.Instant) : Option RetainedClaim :=
  snapshotPayload claim (findProvider providers claim.providerName)
    (chrono.toRfc3339 (computeRetainUntil chrono (claim.deletionTimestamp.getD now)))

end AppRafter.Claim
