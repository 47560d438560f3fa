import AppRafter.Credential.Reconcile
import AppRafter.Lib.Table
import AppRafter.Lib.Machine
import AppRafter.Lib.Fleet
import AppRafter.Webhook.Scope

set_option autoImplicit false

namespace AppRafter.Webhook

open Lib Credential

def validateBackend (backend : SourceBackend) (path : String) : List ValidationError :=
  match backend.sealedSecretRef, backend.openBaoPath with
  | none, none => [⟨path, "backend must set exactly one of sealedSecretRef or openBaoPath"⟩]
  | some _, some _ => [⟨path, "backend must set exactly one of sealedSecretRef or openBaoPath, not both"⟩]
  | some ref, none => if Text.trim ref.name = "" then [⟨path ++ ".sealedSecretRef.name", "name is required"⟩] else []
  | none, some at_ => if Text.trim at_ = "" then [⟨path ++ ".openBaoPath", "openBaoPath must be non-empty"⟩] else []

def validateEntries (entries : List String) (field : String) : List ValidationError :=
  (entries.zipIdx.filter fun item => Text.trim item.1 = "").map fun item =>
    ⟨field ++ "[" ++ toString item.2 ++ "]", "entry must be a non-empty string"⟩

def validateHalf (backend : SourceBackend) (entries : List String) (path listField : String) : List ValidationError :=
  validateBackend backend (path ++ ".backend") ++
    if entries.isEmpty then [⟨path ++ "." ++ listField, listField ++ " must list at least one entry"⟩]
    else validateEntries entries (path ++ "." ++ listField)

-- Of an object the API server has found to be of the CRD's shape.
def validateSourcecredential (spec : SourceCredentialSpec) : List ValidationError :=
  if spec.git.isNone && spec.registry.isNone then [⟨"spec", "at least one of git or registry is required"⟩]
  else
    (match spec.git with
    | some git => validateHalf git.backend git.repoPrefixes "spec.git" "repoPrefixes"
    | none => []) ++ match spec.registry with
      | some registry => validateHalf registry.backend registry.hosts "spec.registry" "hosts"
      | none => []

end AppRafter.Webhook

namespace AppRafter.Credential

open Lib Option
open Migration (MigrationPlan)
open Webhook (validateSourcecredential)

-- `covered` is what was derived or stamped so far and no stamped narrowing has taken away.
structure ScWorld where
  cred : SourceCredential
  plans : List MigrationPlan
  secrets : List DerivedSecret
  covered : List Entry

-- `material` is what the material Secret holds then, if it is there.
structure ScFate where
  clock : Clock
  committed : Bool
  replied : Bool
  material : Option MaterialData
  verdict : Validity × String

def ScFate.read {Value : Type} (fate : ScFate) (value : Value) : Reply Value :=
  if fate.replied then .ok value else .error "no reply"

def ScFate.write (fate : ScFate) (before after : ScWorld) : Reply Unit × ScWorld :=
  if fate.committed then (fate.read (), after) else (.error "not written", before)

-- A server-side apply of a plan leaves the status of an existing one alone.
def upsertPlan (plans : List MigrationPlan) (plan : MigrationPlan) : List MigrationPlan :=
  let status := ((plans.find? fun other => other.name == plan.name).bind (·.status)).or plan.status
  (plans.filter fun other => other.name != plan.name) ++ [{ plan with status := status }]

def DerivedSecret.key (secret : DerivedSecret) : String × String := (secret.ns, secret.name)

def baselineCoverage (baseline : Option SourceCredentialSpec) : List Entry := (baseline.map coverage).getD []

def restamp (covered : List Entry) (old new : Option SourceCredentialSpec) : List Entry :=
  (covered.filter fun entry => !((baselineCoverage old).contains entry && !(baselineCoverage new).contains entry)) ++
    (baselineCoverage new).filter fun entry => !covered.contains entry

variable (world : ScWorld)

def ScWorld.withStatus (status : SourceCredentialStatus) : ScWorld :=
  { world with
    cred := { world.cred with status := some status }
    covered := restamp world.covered world.cred.baseline status.lastAppliedSpec }

def ScWorld.withSecret (secret : DerivedSecret) (covers : List Entry) : ScWorld :=
  { world with secrets := Keyed.upsert DerivedSecret.key world.secrets secret, covered := world.covered ++ covers }

def ScWorld.withPlans (plans : List MigrationPlan) : ScWorld := { world with plans := plans }

def ScWorld.withSecrets (secrets : List DerivedSecret) : ScWorld := { world with secrets := secrets }

def ScWorld.withFinalizers (finalizers : List String) : ScWorld :=
  { world with cred := { world.cred with finalizers := finalizers } }

def serveSc (fate : ScFate) : (request : ScRequest) → scApi.Response request × ScWorld
  | .now => (fate.clock, world)
  | .listSecrets credential =>
    (fate.read ((world.secrets.filter fun secret => secret.credential == credential).map DerivedSecret.key), world)
  | .deleteSecret ns name =>
    fate.write world (world.withSecrets (Keyed.discard DerivedSecret.key world.secrets (ns, name)))
  | .setFinalizers _ _ finalizers => fate.write world (world.withFinalizers finalizers)
  | .listPlans _ name => (fate.read (world.plans.filter (scPlanSelector name)), world)
  | .deletePlan _ name => fate.write world (world.withPlans (world.plans.filter fun plan => plan.name != name))
  | .applyPlan plan => fate.write world (world.withPlans (upsertPlan world.plans plan))
  | .readMaterial _ _ => (fate.read fate.material, world)
  | .applySecret secret source => fate.write world (world.withSecret secret source.covers)
  | .probe _ _ => (fate.verdict, world)
  | .applyStatus _ _ status => fate.write world (world.withStatus status)

inductive ScChange where
  | edit (spec : SourceCredentialSpec)
  | delete (timestamp : String)
  | plans (plans : List MigrationPlan)

def changeSc : ScChange → Option ScWorld
  | .edit spec =>
    if (validateSourcecredential spec).isEmpty then some { world with cred := { world.cred with spec := spec } } else none
  | .delete timestamp => some { world with cred := { world.cred with deletionTimestamp := some timestamp } }
  | .plans plans => some (world.withPlans plans)

def scMachine (sha256Hex : String → String) : Machine scApi ReconcileError Requeue ScWorld ScFate ScChange where
  initial world := world.cred.status = none ∧ world.covered = [] ∧ ∀ secret ∈ world.secrets, secret.credential ≠ world.cred.name
  begin world := reconcile sha256Hex world.cred
  serve := serveSc
  change := changeSc

abbrev ScState := Machine.State scApi ReconcileError Requeue ScWorld

abbrev ScPass := Machine.Pass scApi ReconcileError Requeue ScWorld

abbrev ScAction := Machine.Action ScFate ScChange

theorem sc_write_cases (fate : ScFate) (before after : ScWorld) :
    (fate.write before after).2 = after ∨ (fate.write before after).2 = before := by
  simp only [ScFate.write]
  split
  · exact .inl rfl
  · exact .inr rfl

theorem sc_write_replied {fate : ScFate} {before after : ScWorld} (replied : (fate.write before after).1 = .ok ()) :
    (fate.write before after).2 = after := by
  by_cases committed : fate.committed = true
  · rw [ScFate.write, if_pos committed]
  · rw [ScFate.write, if_neg committed] at replied
    cases replied

-- Others never touch the status, the Secrets, or what has been covered.
theorem change_sc_frame {world after : ScWorld} (change : ScChange) (changed : changeSc world change = some after) :
    after.cred.name = world.cred.name ∧ after.cred.ns = world.cred.ns ∧ after.cred.status = world.cred.status ∧
      after.secrets = world.secrets ∧ after.covered = world.covered := by
  cases change with
  | edit spec =>
    simp only [changeSc] at changed
    split at changed
    · exact some.inj changed ▸ ⟨rfl, rfl, rfl, rfl, rfl⟩
    · cases changed
  | delete | plans => exact some.inj changed ▸ ⟨rfl, rfl, rfl, rfl, rfl⟩

-- Only the writes of a Secret or of the status reach what the others read.
def ScFrame (request : ScRequest) (after : ScWorld) : Prop :=
  (after.cred.name = world.cred.name ∧ after.cred.ns = world.cred.ns) ∧
    ((after.cred.status = world.cred.status ∧ after.secrets = world.secrets ∧ after.covered = world.covered) ∨
      (∃ secret source, request = .applySecret secret source ∧ after = world.withSecret secret source.covers) ∨
      (∃ ns name, request = .deleteSecret ns name ∧ after.cred = world.cred ∧ after.covered = world.covered ∧
        ∀ secret ∈ after.secrets, secret ∈ world.secrets) ∨
      ∃ ns name status, request = .applyStatus ns name status ∧ after = world.withStatus status)

theorem sc_frame_quiet (request : ScRequest) : ScFrame world request world := ⟨⟨rfl, rfl⟩, .inl ⟨rfl, rfl, rfl⟩⟩

theorem write_sc_frame (fate : ScFate) {request : ScRequest} {after : ScWorld} (made : ScFrame world request after) :
    ScFrame world request (fate.write world after).2 := by
  rcases sc_write_cases fate world after with written | lost
  · rw [written]
    exact made
  · rw [lost]
    exact sc_frame_quiet world request

theorem serve_sc_frame (fate : ScFate) (request : ScRequest) : ScFrame world request (serveSc world fate request).2 := by
  cases request with
  | applySecret secret source => exact write_sc_frame world fate ⟨⟨rfl, rfl⟩, .inr (.inl ⟨secret, source, rfl, rfl⟩)⟩
  | deleteSecret ns name =>
    refine write_sc_frame world fate ⟨⟨rfl, rfl⟩, .inr (.inr (.inl ⟨ns, name, rfl, rfl, rfl, ?_⟩))⟩
    exact fun secret kept => ((Keyed.mem_discard _ _ _ secret).mp kept).1
  | applyStatus ns name status =>
    exact write_sc_frame world fate ⟨⟨rfl, rfl⟩, .inr (.inr (.inr ⟨ns, name, status, rfl, rfl⟩))⟩
  | setFinalizers | deletePlan | applyPlan => exact write_sc_frame world fate ⟨⟨rfl, rfl⟩, .inl ⟨rfl, rfl, rfl⟩⟩
  | _ => exact sc_frame_quiet world _

open Migration (MigrationPlan)
open Webhook (validateSourcecredential)

def sourcecredNamespace : String := "apprafter-system"

abbrev ObjectKey := String × String

def SourceCredential.key (cred : SourceCredential) : ObjectKey := (cred.ns, cred.name)

structure OwnedSecret where
  secret : DerivedSecret
  origin : ObjectKey
deriving DecidableEq

def OwnedSecret.key (owned : OwnedSecret) : ObjectKey := owned.secret.key

-- `copies` are pull secrets read and not projected yet, `swept` the names a deletion has listed, until its next pass.
structure FleetWorld where
  creds : List SourceCredential
  plans : List MigrationPlan
  secrets : List OwnedSecret
  copies : List OwnedSecret
  refusing : Bool
  known : List ObjectKey
  written : List (ObjectKey × ObjectKey)
  swept : List String

-- A Secret's DELETE apart: these fail while the API server refuses them.
abbrev FleetFate := ScFate

variable (world : FleetWorld)

def FleetWorld.withCreds (creds : List SourceCredential) : FleetWorld := { world with creds := creds }

def FleetWorld.withPlans (plans : List MigrationPlan) : FleetWorld := { world with plans := plans }

def FleetWorld.withOwned (owned : OwnedSecret) : FleetWorld :=
  { world with
    secrets := Keyed.upsert OwnedSecret.key world.secrets owned
    written := world.written ++ [(owned.key, owned.origin)] }

def FleetWorld.withoutSecret (key : ObjectKey) : FleetWorld :=
  { world with secrets := Keyed.discard OwnedSecret.key world.secrets key }

def FleetWorld.sweeps (name : String) : FleetWorld := { world with swept := name :: world.swept }

def FleetWorld.unswept (name : String) : FleetWorld := { world with swept := world.swept.filter (· ≠ name) }

def updateCred (creds : List SourceCredential) (key : ObjectKey) (update : SourceCredential → SourceCredential) :
    List SourceCredential :=
  creds.map fun cred => if cred.key = key then update cred else cred

-- An object marked for deletion goes with its last finalizer.
def SourceCredential.gone (cred : SourceCredential) : Bool := cred.deletionTimestamp.isSome && cred.finalizers.isEmpty

def FleetWorld.setFinalizers (key : ObjectKey) (finalizers : List String) : FleetWorld :=
  (world.withCreds
    ((updateCred world.creds key fun cred => { cred with finalizers := finalizers }).filter fun cred => !cred.gone)).unswept key.2

def writeFleet (fate : FleetFate) (before after : FleetWorld) : Reply Unit × FleetWorld :=
  if fate.committed then (fate.read (), after) else (.error "not written", before)

-- A patch of an object that is not there is answered 404.
def patchCred (fate : FleetFate) (world : FleetWorld) (key : ObjectKey) (after : FleetWorld) : Reply Unit × FleetWorld :=
  if world.creds.any fun cred => cred.key == key then writeFleet fate world after else (.error "not found", world)

def serveFleet (fate : FleetFate) : (request : ScRequest) → scApi.Response request × FleetWorld
  | .now => (fate.clock, world)
  | .listSecrets credential =>
    (fate.read ((world.secrets.filter fun owned => owned.secret.credential == credential).map OwnedSecret.key),
      world.sweeps credential)
  | .deleteSecret ns name =>
    if world.refusing then (.error "refused", world) else (.ok (), world.withoutSecret (ns, name))
  | .setFinalizers ns name finalizers => patchCred fate world (ns, name) (world.setFinalizers (ns, name) finalizers)
  | .listPlans ns name => (fate.read (world.plans.filter fun plan => plan.ns == ns && scPlanSelector name plan), world)
  | .deletePlan ns name =>
    writeFleet fate world (world.withPlans (world.plans.filter fun plan => !(plan.ns == ns && plan.name == name)))
  | .applyPlan plan =>
    writeFleet fate world (world.withPlans (Keyed.upsert (fun plan => (plan.ns, plan.name)) world.plans plan))
  | .readMaterial _ _ => (fate.read fate.material, world)
  | .applySecret secret source => writeFleet fate world (world.withOwned ⟨secret, (source.ns, source.name)⟩)
  | .probe _ _ => (fate.verdict, world)
  | .applyStatus ns name status =>
    patchCred fate world (ns, name)
      (world.withCreds (updateCred world.creds (ns, name) fun cred => { cred with status := some status }))

-- The Application controller reads a pull secret and projects the copy later.
inductive FleetChange where
  | create (ns name : String) (uid : Option String) (spec : SourceCredentialSpec)
  | edit (key : ObjectKey) (spec : SourceCredentialSpec)
  | delete (key : ObjectKey) (timestamp : String)
  | plans (plans : List MigrationPlan)
  | readPull (workloadNs credName : String)
  | project (index : Nat)
  | removeSecret (key : ObjectKey)
  | refuse (refusing : Bool)

def projectedCopy (workloadNs credName : String) (canonical : OwnedSecret) : OwnedSecret :=
  { secret :=
      { ns := workloadNs
        name := appPullSecretName credName
        credential := credName
        content := canonical.secret.content }
    origin := canonical.origin }

def changeFleet : FleetChange → Option FleetWorld
  | .create ns name uid spec =>
    if (world.creds.any fun cred => cred.key == (ns, name)) || !(validateSourcecredential spec).isEmpty then none
    else
      some { world with
        creds := world.creds ++ [{ name := name, ns := ns, uid := uid, spec := spec }]
        known := world.known ++ [(ns, name)] }
  | .edit key spec =>
    if (validateSourcecredential spec).isEmpty then
      some (world.withCreds (updateCred world.creds key fun cred => { cred with spec := spec }))
    else none
  | .delete key timestamp =>
    some (world.withCreds
      ((updateCred world.creds key fun cred => { cred with deletionTimestamp := some timestamp }).filter fun cred =>
        !cred.gone))
  | .plans plans => some (world.withPlans plans)
  | .readPull workloadNs credName =>
    (world.secrets.find? fun owned => owned.key == (sourcecredNamespace, pullSecretName credName)).map fun canonical =>
      { world with copies := world.copies ++ [projectedCopy workloadNs credName canonical] }
  | .project index =>
    (world.copies[index]?).map fun copy => { world.withOwned copy with copies := world.copies.eraseIdx index }
  | .removeSecret key => some (world.withoutSecret key)
  | .refuse refusing => some { world with refusing := refusing }

def fleet (sha256Hex : String → String) :
    Fleet scApi ReconcileError Requeue FleetWorld ObjectKey SourceCredential FleetFate FleetChange where
  initial world := world.creds = [] ∧ world.secrets = [] ∧ world.copies = [] ∧ world.known = [] ∧ world.written = []
  key := SourceCredential.key
  begin world cred := if world.creds.contains cred then some (world.unswept cred.name, reconcile sha256Hex cred) else none
  serve := serveFleet
  lingers _ := false
  change := changeFleet

abbrev FleetState := Fleet.State scApi ReconcileError Requeue FleetWorld ObjectKey SourceCredential

abbrev FleetAction := Fleet.Action ObjectKey SourceCredential FleetFate FleetChange

abbrev FleetEvent := Fleet.Event scApi SourceCredential FleetChange

-- No shared names, no refused DELETE, and no copy projected between a sweep's list and its end.
def prudent : FleetEvent → Bool
  | .change (.create ns name _ _) => world.known.all fun key => key.2 != name || key.1 == ns
  | .change (.project index) => world.copies[index]?.all fun copy => !world.swept.contains copy.origin.2
  | .serve _ (.deleteSecret _ _) => !world.refusing
  | _ => true

end AppRafter.Credential
