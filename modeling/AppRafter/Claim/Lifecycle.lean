import AppRafter.Claim.SnapshotAdmitted
import AppRafter.Nats.Reclaim

set_option autoImplicit false

namespace AppRafter.Claim

open Lib Option
open Application (ResourceClaimSpec ResourceClaimJetStream OwnerReference)
open Provisioner (ClaimKey Backend pgIdentifier k8sName aclUser passwordSecretName connectionSecretName)
open Nats (materialisedStreams defaultNatsSystemNamespace)

inductive Backing where
  | cnpg (cluster ns : String)
  | dragonfly (inst : String) (dbnum : Nat)
  | disk (pvc : String)
  | nats (ns app : String) (streams consumers : List String)
deriving DecidableEq

def Backing.backend : Backing → String
  | .cnpg _ _ => "cloudnative-pg"
  | .dragonfly _ _ => "dragonfly"
  | .disk _ => "disk"
  | .nats _ _ _ _ => "nats"

def coordinates (key : ClaimKey) (spec : RetainedClaimSpec) : Backing → Bool
  | .cnpg cluster ns =>
    spec.cnpgCluster == some cluster && spec.cnpgNamespace == some ns && spec.role == some (pgIdentifier key) &&
      spec.database == some (pgIdentifier key)
  | .dragonfly inst dbnum => spec.inst == some inst && spec.dbnum == some dbnum
  | .disk pvc => spec.volumeClaimRef == some pvc && spec.volumeClaimNamespace == some key.ns
  | .nats ns app streams consumers =>
    spec.natsNamespace == some ns && spec.natsApp == some app && spec.natsDeclaredStreams == some streams &&
      spec.natsDeclaredConsumers == some consumers

def describes (key : ClaimKey) (spec : RetainedClaimSpec) (backing : Backing) : Bool :=
  spec.claimRef == some { name := some key.name, ns := some key.ns } && spec.backend == some backing.backend &&
    coordinates key spec backing

def declaredStreams (spec : ResourceClaimSpec) : List String := (spec.jetstream.map fun j => j.streams.map (·.name)).getD []

def declaredConsumers (spec : ResourceClaimSpec) : List String := (spec.jetstream.map fun j => j.consume.map (·.durable)).getD []

def placedOn {Instant : Type} (claim : ResourceClaim Instant) (p : ServiceProvider) : Backing → Bool
  | .cnpg cluster ns => p.cnpgCluster == cluster && p.cnpgNamespace == ns
  | .dragonfly _ _ => true
  | .disk _ => true
  | .nats ns app streams consumers =>
    p.cnpgNamespace == ns && (declaringApp claim).getD "" == app && declaredStreams claim.spec == streams &&
      declaredConsumers claim.spec == consumers

-- A NATS claim's streams are the ones its spec declares.
def serves {Instant : Type} (claim : ResourceClaim Instant) (provider : Option ServiceProvider) (backing : Backing) : Bool :=
  provider.any fun p => p.backend == backing.backend && placedOn claim p backing

def recorded {Instant : Type} (claim : ResourceClaim Instant) : Backing → Prop
  | .dragonfly inst dbnum => claim.allocation = some (inst, dbnum)
  | .disk pvc => claim.volumeClaimRef = pvc
  | _ => True

def backendText : Backend → String
  | .cloudnativepg => "cloudnative-pg"
  | .dragonfly => "dragonfly"
  | .disk => "disk"
  | .sharedDisk => "shared-disk"
  | .nats => "nats"

theorem backend_text (text : String) (backend : Backend) (shape : Backend.fromSpecBackend text = some backend) :
    text = backendText backend := by
  unfold Backend.fromSpecBackend at shape
  split at shape <;> cases shape <;> rfl

section Payload

variable {Instant : Type} {claim : ResourceClaim Instant} {provider : Option ServiceProvider} {retainUntil : String}
  {snapshot : RetainedClaim} (taken : snapshotPayload claim provider retainUntil = some snapshot)

include taken

theorem payload_origin : snapshot.spec.claimRef = some { name := some claim.key.name, ns := some claim.key.ns } ∧
      snapshot.spec.backend = some ((provider.map (·.backend)).getD "") := by
  rw [snapshotPayload] at taken
  have named := backend_text ((provider.map (·.backend)).getD "")
  cases shape : Backend.fromSpecBackend ((provider.map (·.backend)).getD "") with
  | none =>
    rw [shape] at taken
    obtain rfl := some.inj taken
    exact ⟨rfl, rfl⟩
  | some backend =>
    rw [shape] at taken
    have text := named backend shape
    cases backend with
    | sharedDisk => cases taken
    | cloudnativepg =>
      obtain rfl := some.inj taken
      exact ⟨rfl, rfl⟩
    | dragonfly | disk | nats =>
      obtain rfl := some.inj taken
      exact ⟨rfl, congrArg some text.symm⟩

theorem payload_describes_iff {backing : Backing} (known : recorded claim backing) :
    describes claim.key snapshot.spec backing = true ↔ serves claim provider backing = true := by
  obtain ⟨ref, backend⟩ := payload_origin taken
  rw [describes, ref, backend, beq_self_eq_true, Bool.true_and]
  cases provider with
  | none =>
    have unnamed : (some ((none : Option ServiceProvider).map (·.backend) |>.getD "") == some backing.backend) = false := by
      cases backing <;> rfl
    rw [unnamed]
    exact ⟨nofun, nofun⟩
  | some p =>
    rw [map_some, getD_some, serves, any_some]
    by_cases same : p.backend = backing.backend
    · have both : (some p.backend == some backing.backend) = true ∧ (p.backend == backing.backend) = true := by simp [same]
      rw [snapshotPayload, map_some, same] at taken
      cases backing with
      | cnpg cluster ns =>
        obtain rfl := some.inj taken
        simp [coordinates, placedOn, retainedClaimObject]
      | dragonfly inst dbnum =>
        obtain rfl := some.inj taken
        have slot : claim.allocation = some (inst, dbnum) := known
        simp [coordinates, placedOn, retainedClaimDragonflyObject, slot]
      | disk pvc =>
        obtain rfl := some.inj taken
        have pointed : claim.volumeClaimRef = pvc := known
        simp [coordinates, placedOn, retainedClaimDiskObject, pointed]
      | nats ns app streams consumers =>
        obtain rfl := some.inj taken
        simp [coordinates, placedOn, retainedClaimNatsObject, declaredStreams, declaredConsumers]
    · have neither : (some p.backend == some backing.backend) = false ∧ (p.backend == backing.backend) = false := by
        simp [same]
      rw [neither.1, neither.2, Bool.false_and, Bool.false_and]

end Payload
open Application (ResourceClaimSpec OwnerReference)
open Provisioner (ClaimKey Backend k8sName connectionSecretName poolInstanceName poolInstanceIndex provisionerFinalizer)
open Nats (materialisedStreams defaultNatsSystemNamespace)

def Value.asText : Value → Option String
  | .text value => some value
  | _ => none

def Value.asFlag : Value → Option Bool
  | .flag value => some value
  | _ => none

def Value.asNumber : Value → Option Nat
  | .number value => some value.toNat
  | _ => none

def Value.asEntry : Value → Option ResourceClaimCondition
  | .entry cond => some cond
  | _ => none

def readStatus (writes : List Write) : ResourceClaimStatus :=
  let live := (statusAfter writes).live
  { provider := (live .provider).bind Value.asText
    ready := (live .ready).bind Value.asFlag
    conditions := [condScheduled, condReady].filterMap fun type => (live (.condition type)).bind Value.asEntry
    inst := (live .inst).bind Value.asText
    dbnum := (live .dbnum).bind Value.asNumber
    volumeClaimRef := (live .volumeClaimRef).bind Value.asText }

def shouldProvision (status : ResourceClaimStatus) : Bool :=
  if status.ready = some true then false
  else if status.provider.getD "" = "" then false
  else status.conditions.any fun c => c.type == condScheduled && c.status == "True"

-- Its status is the applies to it, newest first; `held` what it became ready on.
structure LiveClaim (Instant : Type) where
  spec : ResourceClaimSpec
  ownerReferences : List OwnerReference := []
  deletionTimestamp : Option Instant := none
  finalizer : Bool := false
  writes : List Write := []
  held : Option Backing := none

inductive Path where
  | bind
  | cloudnativepg
  | dragonfly
  | disk
  | sharedDisk
  | nats
deriving DecidableEq

inductive SchedulerStage where
  | idle
  | read (spec : ResourceClaimSpec) (prior : List ResourceClaimCondition)
  | decided (write : Write)

inductive Stage (Instant : Type) where
  | idle
  | finalizing (v : ResourceClaim Instant)
  | gated (v : ResourceClaim Instant)
  | provisioning (v : ResourceClaim Instant) (p : ServiceProvider) (path : Path)
  | allocated (v : ResourceClaim Instant) (p : ServiceProvider) (inst : String) (dbnum : Nat) (reattached : Bool)
  | cancelling
  | deleting (v : ResourceClaim Instant)
  | found (v : ResourceClaim Instant) (provider : Option ServiceProvider)
  | absent (payload : RetainedClaim)
  | releasing

structure State (Instant : Type) where
  providers : List ServiceProvider := []
  claim : Option (LiveClaim Instant) := none
  snapshot : Option RetainedClaim := none
  scheduler : SchedulerStage := .idle
  stage : Stage Instant := .idle
  -- What the claim held, and its snapshot then, newest first.
  released : List (Option Backing × Option RetainedClaim) := []

inductive Answer where
  | done
  | refused
  | failed

inductive Action (Instant : Type) where
  | setProviders (providers : List ServiceProvider)
  | create (spec : ResourceClaimSpec) (ownerReferences : List OwnerReference)
  | delete (at_ : Instant)
  | vanish
  | schedulerBegin
  | schedulerList (now : String)
  | schedulerPatch
  | schedulerStop
  | sample (write : Write)
  | begin
  | setFinalizer
  | findProvider
  | allocate (fresh : Nat)
  | conflict (message now : String)
  | refuse (reason message now : String)
  | provision (message now pvcRef : String) (sample : Option VolumeSample)
  | cancel (done : Bool)
  | getSnapshot (now : Instant)
  | createSnapshot (answer : Answer)
  | release
  | stop

section Paths

variable {Instant : Type} (v : ResourceClaim Instant) (p : ServiceProvider)

-- A jetstream claim is provisioned with its spec and its declaring app.
def natsView : Option (Application.ResourceClaimJetStream × String) :=
  if v.spec.type ≠ "jetstream" then none else
    match v.spec.jetstream, declaringApp v with
    | some js, some app => some (js, app)
    | _, _ => none

def pathOf : Option Path :=
  if v.spec.sharedRef.isSome then
    match Backend.fromSpecBackend p.backend with
    | some .cloudnativepg => some .bind
    | some .dragonfly => some .bind
    | _ => none
  else
    match Backend.fromSpecBackend p.backend with
    | some .cloudnativepg => some .cloudnativepg
    | some .dragonfly => some .dragonfly
    | some .disk => some .disk
    | some .sharedDisk => some .sharedDisk
    | some .nats => if (natsView v).isSome then some .nats else none
    | none => none

def claimInstance : String := poolInstanceName (v.spec.persistent.getD false) poolInstanceIndex

-- The second part is whether the claim's snapshot names the number.
def slotOf (snapshot : Option RetainedClaim) (fresh : Nat) : Nat × Bool :=
  let inst := claimInstance v
  let retained := (snapshot.filter fun rc => rc.spec.inst = some inst).bind (·.spec.dbnum)
  match v.allocation with
  | some (held, n) => if held = inst then (n, retained == some n) else (retained.getD fresh, retained.isSome)
  | none => (retained.getD fresh, retained.isSome)

def terminalFields (path : Path) (slot : Option (String × Nat)) (pvcRef : String) (sample : Option VolumeSample) :
    ClaimStatusFields :=
  match path with
  | .bind => { connSecretName := some (connectionSecretName v.key) }
  | .cloudnativepg => { connSecretName := some (connectionSecretName v.key) }
  | .dragonfly => { connSecretName := some (connectionSecretName v.key), allocation := slot }
  | .disk => { volumeClaimRef := some (k8sName v.key), capacity := sample }
  | .sharedDisk => { volumeClaimRef := some pvcRef, capacity := sample }
  | .nats => { connSecretName := some (connectionSecretName v.key) }

def backingOn (path : Path) (slot : Option (String × Nat)) : Option Backing :=
  match path with
  | .bind => none
  | .cloudnativepg => some (.cnpg p.cnpgCluster p.cnpgNamespace)
  | .dragonfly => slot.map fun at_ => .dragonfly at_.1 at_.2
  | .disk => some (.disk (k8sName v.key))
  | .sharedDisk => none
  | .nats =>
    (natsView v).map fun view =>
      .nats (p.configNs.getD defaultNatsSystemNamespace) view.2 ((materialisedStreams view.2 view.1).map (·.name))
        (view.1.consume.map (·.durable))

-- The paths that end by deleting the claim's earlier snapshot.
def Path.cancels : Path → Bool
  | .cloudnativepg => true
  | .dragonfly => true
  | .disk => true
  | _ => false

end Paths

def LiveClaim.object {Instant : Type} (key : ClaimKey) (c : LiveClaim Instant) : ResourceClaim Instant :=
  { key := key
    deletionTimestamp := c.deletionTimestamp
    finalizers := if c.finalizer then [provisionerFinalizer] else []
    ownerReferences := c.ownerReferences
    spec := c.spec
    status := some (readStatus c.writes) }

def gate {Instant : Type} (v : ResourceClaim Instant) : Stage Instant :=
  if shouldProvision (v.status.getD {}) then .gated v else .idle

section Steps

variable {Instant : Type} (s : State Instant)

-- A status apply by name. Without a claim it fails, and the pass with it.
def State.patchStatus (write : Write) (held : Option Backing) (next : Stage Instant) : State Instant :=
  match s.claim with
  | some c => { s with claim := some { c with writes := write :: c.writes, held := held.or c.held }, stage := next }
  | none => { s with stage := .idle }

def State.schedulerPatched (write : Write) : State Instant :=
  { s with
    claim := s.claim.map fun c => { c with writes := write :: c.writes }
    scheduler := .idle }

variable (v : ResourceClaim Instant)

def readyWrite (status reason message now : String) (fields : ClaimStatusFields) : Write :=
  .terminal status reason message ((v.status.map (·.conditions)).getD []) now fields

def State.conflicted (inst : String) (dbnum : Nat) (reattached : Bool) (message now : String) :
    State Instant :=
  if reattached && v.spec.persistent.getD false then
    s.patchStatus (readyWrite v "False" "DbnumConflict" message now { allocation := some (inst, dbnum) }) none .idle
  else
    let cancelled := if reattached then { s with snapshot := none } else s
    cancelled.patchStatus (readyWrite v "False" "AwaitingKeyspace" message now {}) none .idle

def State.provisioned (p : ServiceProvider) (path : Path) (slot : Option (String × Nat))
    (message now pvcRef : String) (sample : Option VolumeSample) : State Instant :=
  s.patchStatus (readyWrite v "True" (if path = .sharedDisk then "Bound" else "Provisioned") message now
      (terminalFields v path slot pvcRef sample))
    (backingOn v p path slot) (if path.cancels then .cancelling else .idle)

def State.begun (key : ClaimKey) (c : LiveClaim Instant) : State Instant :=
  let v := c.object key
  if c.deletionTimestamp.isSome then
    if c.finalizer then
      if c.spec.sharedRef.isSome then { s with stage := .releasing } else { s with stage := .deleting v }
    else s
  else if c.finalizer then { s with stage := gate v }
  else { s with stage := .finalizing v }

-- An existing snapshot is kept as it is; a shared-disk claim needs none.
def State.snapshotRead (provider : Option ServiceProvider) (retainUntil : String) : State Instant :=
  match snapshotPayload v provider retainUntil with
  | none => { s with stage := .releasing }
  | some payload => if s.snapshot.isSome then { s with stage := .releasing } else { s with stage := .absent payload }

def State.unfinalized : State Instant :=
  match s.claim with
  | some c => { s with claim := some { c with finalizer := false }, released := (c.held, s.snapshot) :: s.released, stage := .idle }
  | none => { s with stage := .idle }

-- A delete with the finalizer there leaves the claim until it is released.
def State.deleted (at_ : Instant) (c : LiveClaim Instant) : State Instant :=
  if c.finalizer then { s with claim := some { c with deletionTimestamp := some (c.deletionTimestamp.getD at_) } }
  else { s with claim := none }

end Steps

variable (chrono : Chrono) (key : ClaimKey)

def outsideStep (s : State chrono.Instant) : Action chrono.Instant → Option (State chrono.Instant)
  | .setProviders providers => some { s with providers := providers }
  | .create spec ownerReferences =>
    if s.claim.isNone then some { s with claim := some { spec := spec, ownerReferences := ownerReferences } } else none
  | .delete at_ => s.claim.map fun c => s.deleted at_ c
  | .vanish => s.claim.bind fun c => if c.deletionTimestamp.isSome && !c.finalizer then some { s with claim := none } else none
  | .sample write =>
    if write.manager = sizeFieldManager then
      s.claim.map fun c => { s with claim := some { c with writes := write :: c.writes } }
    else none
  | _ => none

def schedulerStep (s : State chrono.Instant) (action : Action chrono.Instant) : Option (State chrono.Instant) :=
  match action, s.scheduler with
  | .schedulerBegin, .idle =>
    s.claim.map fun c => { s with scheduler := .read c.spec (readStatus c.writes).conditions }
  | .schedulerList now, .read spec prior =>
    some { s with scheduler := .decided (.schedule spec prior (s.providers.map Candidate.fromProvider) now) }
  | .schedulerPatch, .decided write => some (s.schedulerPatched write)
  | .schedulerStop, _ => some { s with scheduler := .idle }
  | _, _ => none

def provisionerStep (s : State chrono.Instant) (action : Action chrono.Instant) : Option (State chrono.Instant) :=
  match action, s.stage with
  | .begin, .idle => s.claim.map fun c => s.begun key c
  | .setFinalizer, .finalizing v =>
    match s.claim with
    | some c => some { s with claim := some { c with finalizer := true }, stage := gate v }
    | none => some { s with stage := .idle }
  | .findProvider, .gated v =>
    match (findProvider s.providers v.providerName).bind fun p => (pathOf v p).map fun path => (p, path) with
    | some (p, path) => some { s with stage := .provisioning v p path }
    | none => some { s with stage := .idle }
  | .allocate fresh, .provisioning v p .dragonfly =>
    let slot := slotOf v s.snapshot fresh
    some (s.patchStatus (.checkpoint (claimInstance v) slot.1) none (.allocated v p (claimInstance v) slot.1 slot.2))
  | .conflict message now, .allocated v _ inst dbnum reattached => some (s.conflicted v inst dbnum reattached message now)
  | .refuse reason message now, .provisioning v _ path =>
    if path = .disk ∨ path = .dragonfly then none
    else some (s.patchStatus (readyWrite v "False" reason message now {}) none .idle)
  | .provision message now pvcRef sample, .provisioning v p path =>
    if path = .dragonfly then none else some (s.provisioned v p path none message now pvcRef sample)
  | .provision message now pvcRef sample, .allocated v p inst dbnum _ =>
    some (s.provisioned v p .dragonfly (some (inst, dbnum)) message now pvcRef sample)
  | .cancel done, .cancelling => some { s with snapshot := if done then none else s.snapshot, stage := .idle }
  | .findProvider, .deleting v => some { s with stage := .found v (findProvider s.providers v.providerName) }
  | .getSnapshot now, .found v provider =>
    some (s.snapshotRead v provider (chrono.toRfc3339 (computeRetainUntil chrono (v.deletionTimestamp.getD now))))
  | .createSnapshot answer, .absent payload =>
    match answer with
    | .done => some { s with snapshot := some (s.snapshot.getD payload), stage := .releasing }
    | .refused => some { s with stage := .releasing }
    | .failed => some { s with stage := .idle }
  | .release, .releasing => some s.unfinalized
  | .stop, _ => some { s with stage := .idle }
  | _, _ => none

def lifecycle : System (State chrono.Instant) (Action chrono.Instant) where
  initial s := s = { providers := s.providers }
  step s action := match action with
    | .setProviders _ => outsideStep chrono s action
    | .create _ _ => outsideStep chrono s action
    | .delete _ => outsideStep chrono s action
    | .vanish => outsideStep chrono s action
    | .sample _ => outsideStep chrono s action
    | .schedulerBegin => schedulerStep chrono s action
    | .schedulerList _ => schedulerStep chrono s action
    | .schedulerPatch => schedulerStep chrono s action
    | .schedulerStop => schedulerStep chrono s action
    | _ => provisionerStep chrono key s action

def Described {Instant : Type} (s : State Instant) : Prop :=
  ∀ entry ∈ s.released, ∀ backing, entry.1 = some backing →
    ∃ snapshot, entry.2 = some snapshot ∧ describes key snapshot.spec backing = true

-- The snapshot there is of the backing, or the provider found serves it and the create lands.
def accounts {Instant : Type} (s : State Instant) (action : Action Instant) (backing : Backing) : Bool :=
  let kept := s.snapshot.any fun snapshot => describes key snapshot.spec backing
  match action, s.stage with
  | .begin, .idle => kept || !s.claim.any fun c => c.deletionTimestamp.isSome && c.finalizer && c.spec.sharedRef.isSome
  | .getSnapshot _, .found v provider => if s.snapshot.isSome then kept else serves v provider backing
  | .createSnapshot .refused, .absent _ => false
  | _, _ => true

def accountable {Instant : Type} (s : State Instant) (action : Action Instant) : Bool :=
  (s.claim.bind (·.held)).all (accounts key s action)

end AppRafter.Claim
