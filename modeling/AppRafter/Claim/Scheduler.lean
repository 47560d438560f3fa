import AppRafter.Application.Claims
import AppRafter.Lib.Apply

set_option autoImplicit false

namespace AppRafter.Claim

open Lib
open Application (ResourceClaimSpec)

-- The keys a claim's snapshot and its provisioning read as its coordinates.
structure ServiceProvider where
  name : String
  labels : Dict String := Dict.empty
  type : String
  backend : String
  cluster : Option String := none
  configNs : Option String := none

structure Candidate where
  name : String
  type : String
  labels : Dict String

def Candidate.fromProvider (p : ServiceProvider) : Candidate := { name := p.name, type := p.type, labels := p.labels }

def providerMatches (claimType : String) (selector : Dict String) (providerType : String) (providerLabels : Dict String) : Bool :=
  claimType == providerType && selector.entries.all fun entry => providerLabels.get entry.1 == some entry.2

def selectProvider (claimType : String) (selector : Dict String) (candidates : List Candidate) : Option String :=
  ((candidates.filter fun c => providerMatches claimType selector c.type c.labels).map Candidate.name).min?

structure ResourceClaimCondition where
  type : String
  status : String
  lastTransitionTime : String
  reason : Option String
  message : Option String
deriving DecidableEq

-- `now` is the pass's clock, written as RFC 3339.
def condition (type status reason message : String) (previous : List ResourceClaimCondition) (now : String) :
    ResourceClaimCondition :=
  { type := type
    status := status
    lastTransitionTime := ((previous.find? fun c => c.type == type && c.status == status).map (·.lastTransitionTime)).getD now
    reason := some reason
    message := some message }

def condScheduled : String := "Scheduled"

def condReady : String := "Ready"

def readyCondition (status reason message : String) (previous : List ResourceClaimCondition) (now : String) :
    ResourceClaimCondition := condition condReady status reason message previous now

-- `conditions` is a map by type, `capacity` and `size` are merged key by key.
inductive Figure where
  | usedBytes
  | capacityBytes
  | scope
  deriving DecidableEq

inductive Field where
  | provider
  | condition (type : String)
  | ready
  | connectionSecretRef
  | volumeClaimRef
  | inst
  | dbnum
  | capacity (figure : Figure)
  | sizeBytes
  | sizeKeys
  | sizeMeasuredAt
  deriving DecidableEq

inductive Value where
  | text (value : String)
  | flag (value : Bool)
  | number (value : Int)
  | entry (cond : ResourceClaimCondition)
  deriving DecidableEq

abbrev Body := Field → Option Value

def buildStatusPatch (provider : Option String) (cond : ResourceClaimCondition) : Body
  | .provider => provider.map Value.text
  | .condition type => if type = cond.type then some (.entry cond) else none
  | _ => none

structure Decision where
  provider : Option String
  patch : Body
  warning : Option String

def debugMap (d : Dict String) : String :=
  "\x7b" ++ String.intercalate ", " (d.entries.map fun entry => Text.debug entry.1 ++ ": " ++ Text.debug entry.2) ++ "\x7d"

def noMatchMessage (spec : ResourceClaimSpec) : String :=
  "no ServiceProvider matches type=" ++ Text.debug spec.type ++ " selector=" ++ debugMap spec.selector

def decidePass (spec : ResourceClaimSpec) (prior : List ResourceClaimCondition) (candidates : List Candidate)
    (now : String) : Decision :=
  match selectProvider spec.type spec.selector candidates with
  | some providerName =>
    let cond := condition condScheduled "True" "MatchFound" ("matched ServiceProvider " ++ providerName) prior now
    { provider := some providerName, patch := buildStatusPatch (some providerName) cond, warning := none }
  | none =>
    let message := noMatchMessage spec
    let cond := condition condScheduled "False" "NoMatchingProvider" message prior now
    { provider := none, patch := buildStatusPatch none cond, warning := some message }

open Option
open Application (ResourceClaimSpec)

structure VolumeSample where
  used : Int
  cap : Int
  scope : String

structure ClaimStatusFields where
  connSecretName : Option String := none
  volumeClaimRef : Option String := none
  allocation : Option (String × Nat) := none
  capacity : Option VolumeSample := none

def VolumeSample.figure (sample : VolumeSample) : Figure → Value
  | .usedBytes => .number sample.used
  | .capacityBytes => .number sample.cap
  | .scope => .text sample.scope

def statusApplyBody (cond : ResourceClaimCondition) (fields : ClaimStatusFields) : Body
  | .ready => some (.flag (cond.status == "True"))
  | .condition type => if type = cond.type then some (.entry cond) else none
  | .connectionSecretRef => fields.connSecretName.map Value.text
  | .volumeClaimRef => fields.volumeClaimRef.map Value.text
  | .capacity figure => fields.capacity.map fun sample => sample.figure figure
  | .inst => fields.allocation.map fun allocation => .text allocation.1
  | .dbnum => fields.allocation.map fun allocation => .number allocation.2
  | _ => none

def patchAllocation (inst : String) (dbnum : Nat) : Body
  | .inst => some (.text inst)
  | .dbnum => some (.number dbnum)
  | _ => none

def bytesBody (bytes : Int) (now : String) : Body
  | .sizeBytes => some (.number bytes)
  | .sizeMeasuredAt => some (.text now)
  | _ => none

def keysBody (keys : Int) (now : String) : Body
  | .sizeKeys => some (.number keys)
  | .sizeMeasuredAt => some (.text now)
  | _ => none

def capacityBody (sample : VolumeSample) : Body
  | .capacity figure => some (sample.figure figure)
  | _ => none

def schedulerManager : String := "resourceclaim-scheduler"

def fieldManager : String := "resourceclaim-provisioner"

def sizeFieldManager : String := "resourceclaim-provisioner-size"

-- A scheduler's pass, a provisioner's terminal write or checkpoint, or a sample.
inductive Write where
  | schedule (spec : ResourceClaimSpec) (prior : List ResourceClaimCondition) (candidates : List Candidate) (now : String)
  | terminal (status reason message : String) (previous : List ResourceClaimCondition) (now : String)
      (fields : ClaimStatusFields)
  | checkpoint (inst : String) (dbnum : Nat)
  | sizeBytes (bytes : Int) (now : String)
  | sizeKeys (keys : Int) (now : String)
  | capacity (sample : VolumeSample)

def Write.manager : Write → String
  | .schedule .. => schedulerManager
  | .terminal .. => fieldManager
  | .checkpoint .. => fieldManager
  | .sizeBytes .. => sizeFieldManager
  | .sizeKeys .. => sizeFieldManager
  | .capacity .. => sizeFieldManager

def Write.body : Write → Body
  | .schedule spec prior candidates now => (decidePass spec prior candidates now).patch
  | .terminal status reason message previous now fields =>
    statusApplyBody (readyCondition status reason message previous now) fields
  | .checkpoint inst dbnum => patchAllocation inst dbnum
  | .sizeBytes bytes now => bytesBody bytes now
  | .sizeKeys keys now => keysBody keys now
  | .capacity sample => capacityBody sample

abbrev Status := Applied Field Value String

def statusAfter (log : List Write) : Status := Applied.replay Write.manager Write.body log

def Write.unmatched : Write → Bool
  | .schedule spec _ candidates _ => (selectProvider spec.type spec.selector candidates).isNone
  | _ => false

-- A provisioner's write without a capacity sample.
def Write.unsampled : Write → Bool
  | .terminal _ _ _ _ _ fields => fields.capacity.isNone
  | .checkpoint .. => true
  | _ => false

def provisionerFields : List Field := [.ready, .inst, .dbnum, .connectionSecretRef, .condition condReady]

structure StepKept (before after : Status) (write : Write) : Prop where
  provider : write.unmatched = true → ∀ value, before.live .provider = some value → after.live .provider = some value
  capacity : write.unsampled = true →
    ∀ figure value, before.live (.capacity figure) = some value → after.live (.capacity figure) = some value
  allocation : write.manager ≠ fieldManager → ∀ field ∈ provisionerFields, after.live field = before.live field
  scheduled : write.manager ≠ schedulerManager →
    after.live (.condition condScheduled) = before.live (.condition condScheduled)

def KeptAlong : List Write → Prop
  | [] => True
  | write :: log => StepKept (statusAfter log) (statusAfter (write :: log)) write ∧ KeptAlong log

def lastPassMatched (log : List Write) : Bool :=
  match log.find? fun write => write.manager = schedulerManager with
  | some write => !write.unmatched
  | none => false

def figures : List Figure := [.usedBytes, .capacityBytes, .scope]

-- No pass turns a match back, and no sampleless write while the capacity is one owner's.
def spared (log : List Write) (write : Write) : Bool :=
  !(write.unmatched && lastPassMatched log) &&
    !(write.unsampled && figures.any fun figure => (statusAfter log).soleOwner fieldManager (.capacity figure))

def SparedAlong : List Write → Prop
  | [] => True
  | write :: log => spared log write = true ∧ SparedAlong log

variable (spec : ResourceClaimSpec) (prior : List ResourceClaimCondition) (candidates : List Candidate)

theorem pass_sends_provider (now : String) : (decidePass spec prior candidates now).patch .provider =
      (selectProvider spec.type spec.selector candidates).map Value.text := by
  rw [decidePass]
  cases selectProvider spec.type spec.selector candidates <;> rfl

variable {field : Field} {write : Write}

theorem pass_sends_only (now : String) (other : field ≠ .provider) (foreign : field ≠ .condition condScheduled) :
    (decidePass spec prior candidates now).patch field = none := by
  have silent : ∀ provider cond, cond.type = condScheduled → buildStatusPatch provider cond field = none := by
    intro provider cond scheduled
    cases field with
    | provider => exact absurd rfl other
    | condition type => exact if_neg fun same => foreign (congrArg Field.condition (same.trans scheduled))
    | _ => rfl
  rw [decidePass]
  cases selectProvider spec.type spec.selector candidates with
  | none | some => exact silent _ _ rfl

theorem scheduler_alone (own : field = .provider ∨ field = .condition condScheduled) (write : Write)
    (other : write.manager ≠ schedulerManager) : write.body field = none := by
  cases own with
  | inl provider =>
    subst provider
    cases write with
    | schedule => exact absurd rfl other
    | _ => rfl
  | inr scheduled =>
    subst scheduled
    cases write with
    | schedule => exact absurd rfl other
    | terminal =>
      have differ : condScheduled ≠ condReady := by decide
      rw [Write.body, statusApplyBody]
      exact if_neg differ
    | _ => rfl

theorem provisioner_alone (own : field ∈ .volumeClaimRef :: provisionerFields)
    (other : write.manager ≠ fieldManager) : write.body field = none := by
  cases write with
  | schedule spec prior candidates now =>
    have elsewhere : field ≠ .provider ∧ field ≠ .condition condScheduled := by
      constructor <;> exact fun same => absurd (same ▸ own) (by decide)
    exact pass_sends_only spec prior candidates now elsewhere.1 elsewhere.2
  | terminal | checkpoint => exact absurd rfl other
  | sizeBytes bytes now =>
    revert field
    simp [provisionerFields, Write.body, bytesBody]
  | sizeKeys keys now =>
    revert field
    simp [provisionerFields, Write.body, keysBody]
  | capacity sample =>
    revert field
    simp [provisionerFields, Write.body, capacityBody]

theorem pass_unmatched (pass : write.manager = schedulerManager) : write.unmatched = true ↔ write.body .provider = none := by
  cases write with
  | schedule spec prior candidates now =>
    rw [Write.body, pass_sends_provider, Write.unmatched, isNone_iff_eq_none, map_eq_none_iff]
  | terminal | checkpoint => exact absurd pass (show fieldManager ≠ schedulerManager by decide)
  | _ => exact absurd pass (show sizeFieldManager ≠ schedulerManager by decide)

theorem unmatched_manager (unmatched : write.unmatched = true) : write.manager = schedulerManager := by
  cases write with
  | schedule => rfl
  | _ => cases unmatched

theorem unsampled_silent (unsampled : write.unsampled = true) (figure : Figure) :
    write.manager = fieldManager ∧ write.body (.capacity figure) = none := by
  cases write with
  | terminal status reason message previous now fields =>
    have missing : fields.capacity = none := isNone_iff_eq_none.mp unsampled
    refine ⟨rfl, ?_⟩
    rw [Write.body, statusApplyBody, missing]
    rfl
  | checkpoint => exact ⟨rfl, rfl⟩
  | _ => cases unsampled

section Step

variable (log : List Write) (write : Write)

theorem last_pass_matched_iff : lastPassMatched log = true ↔
      ∃ newest, log.find? (fun other => other.manager = schedulerManager) = some newest ∧ newest.unmatched = false := by
  rw [lastPassMatched]
  cases log.find? fun other => other.manager = schedulerManager with
  | none => simp
  | some newest => simp

theorem provider_owned : (statusAfter log).soleOwner schedulerManager .provider = lastPassMatched log := by
  have sent := Applied.only_sender Write.manager Write.body (scheduler_alone (.inl rfl)) log
  rw [Bool.eq_iff_iff, last_pass_matched_iff]
  refine sent.trans (exists_congr fun newest => and_congr_right fun found => ?_)
  have pass : newest.manager = schedulerManager := by simpa using List.find?_some found
  rw [Ne, ← pass_unmatched pass, Bool.not_eq_true]

theorem left_out_iff {field : Field} (unsent : write.body field = none) :
    (∀ value, (statusAfter log).live field = some value → (statusAfter (write :: log)).live field = some value) ↔
      (statusAfter log).soleOwner write.manager field = false := by
  cases alone : (statusAfter log).soleOwner write.manager field with
  | true =>
    refine ⟨fun kept => ?_, nofun⟩
    have owns := ((Applied.sole_owner_iff _ write.manager field).mp alone).1
    have held := Applied.replay_backed Write.manager Write.body log field write.manager owns
    obtain ⟨value, holds⟩ := ne_none_iff_exists'.mp held
    have gone := Applied.unsent_alone _ _ _ unsent alone
    exact absurd ((kept value holds).symm.trans gone) (some_ne_none value)
  | false =>
    refine ⟨fun _ => rfl, fun _ value holds => ?_⟩
    exact (Applied.unsent_kept _ _ _ unsent alone).trans holds

theorem provider_kept_iff : (write.unmatched = true → ∀ value, (statusAfter log).live .provider = some value →
        (statusAfter (write :: log)).live .provider = some value) ↔
      (write.unmatched && lastPassMatched log) = false := by
  cases unmatched : write.unmatched with
  | false => exact ⟨fun _ => rfl, fun _ => nofun⟩
  | true =>
    have pass := unmatched_manager unmatched
    have silent := (pass_unmatched pass).mp unmatched
    rw [Bool.true_and, ← provider_owned log, ← pass, ← left_out_iff log write silent]
    exact ⟨fun kept => kept rfl, fun kept _ => kept⟩

theorem capacity_kept_iff : (write.unsampled = true → ∀ figure value, (statusAfter log).live (.capacity figure) = some value →
        (statusAfter (write :: log)).live (.capacity figure) = some value) ↔
      (write.unsampled && figures.any fun figure => (statusAfter log).soleOwner fieldManager (.capacity figure)) = false := by
  cases unsampled : write.unsampled with
  | false => exact ⟨fun _ => rfl, fun _ => nofun⟩
  | true =>
    have silent := unsampled_silent unsampled
    rw [Bool.true_and, List.any_eq_false]
    constructor
    · intro kept figure _
      have shared := (left_out_iff log write (silent figure).2).mp (kept rfl figure)
      rw [(silent figure).1] at shared
      exact Bool.eq_false_iff.mp shared
    · intro shared _ figure
      have listed : figure ∈ figures := by cases figure <;> decide
      refine (left_out_iff log write (silent figure).2).mpr ?_
      rw [(silent figure).1]
      exact Bool.eq_false_iff.mpr (shared figure listed)

theorem provisioner_field_kept (other : write.manager ≠ fieldManager) (field : Field)
    (own : field ∈ .volumeClaimRef :: provisionerFields) :
    (statusAfter (write :: log)).live field = (statusAfter log).live field :=
  Applied.untouched Write.manager Write.body field write (fun sibling same => provisioner_alone own (same ▸ other)) log

theorem scheduled_kept (other : write.manager ≠ schedulerManager) :
    (statusAfter (write :: log)).live (.condition condScheduled) = (statusAfter log).live (.condition condScheduled) :=
  Applied.untouched Write.manager Write.body _ write (fun sibling same => scheduler_alone (.inr rfl) _ (same ▸ other)) log

theorem step_kept_iff : StepKept (statusAfter log) (statusAfter (write :: log)) write ↔ spared log write = true := by
  rw [spared, Bool.and_eq_true, Bool.not_eq_true', Bool.not_eq_true', ← provider_kept_iff log write,
    ← capacity_kept_iff log write]
  constructor
  · exact fun kept => ⟨kept.provider, kept.capacity⟩
  · intro ⟨provider, capacity⟩
    have kept : write.manager ≠ fieldManager → ∀ field ∈ provisionerFields,
        (statusAfter (write :: log)).live field = (statusAfter log).live field :=
      fun other field own => provisioner_field_kept log write other field (List.mem_cons_of_mem _ own)
    exact { provider, capacity, allocation := kept, scheduled := scheduled_kept log write }

end Step

-- The writers keep one another's fields just when every write is spared.
theorem writers_keep_iff (log : List Write) : KeptAlong log ↔ SparedAlong log := by
  induction log with
  | nil => exact Iff.rfl
  | cons write log ih => exact and_congr (step_kept_iff log write) ih

def pgClaim : ResourceClaimSpec := { type := "pg", selector := Dict.empty }

def pgIntegrated : Candidate := { name := "pg-integrated", type := "pg", labels := Dict.empty }

def providerDeleted : List Write :=
  [.schedule pgClaim [] [] "2026-01-01T00:05:00+00:00", .schedule pgClaim [] [pgIntegrated] "2026-01-01T00:00:00+00:00"]

theorem no_match_clears_provider : ¬ ∀ log, KeptAlong log := by
  intro keeps
  have kept := (step_kept_iff providerDeleted.tail (providerDeleted.head nofun)).mp (keeps providerDeleted).1
  revert kept
  decide +kernel

end AppRafter.Claim
