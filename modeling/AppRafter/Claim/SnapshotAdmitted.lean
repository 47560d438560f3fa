import AppRafter.Claim.Snapshot
import AppRafter.Webhook.ResourceClaim

set_option autoImplicit false

namespace AppRafter.Webhook

open Lib List
open Claim (Chrono RetainedClaimSpec)

inductive RetainedObject where
  | notObject
  | object (spec : Option RetainedClaimSpec)

def RetainedObject.spec : RetainedObject → Option RetainedClaimSpec
  | .notObject => none
  | .object spec => spec

def cnpgRequiredStringFields : List String :=
  ["cnpgCluster", "cnpgNamespace", "role", "database", "databaseObjectName", "passwordSecretName"]

def dragonflyRequiredStringFields : List String := ["instance", "aclUser", "connectionSecretRef", "connectionSecretNamespace"]

def diskRequiredStringFields : List String := ["volumeClaimRef", "volumeClaimNamespace"]

def natsRequiredStringFields : List String := ["natsNamespace", "natsApp", "connectionSecretRef", "connectionSecretNamespace"]

variable (spec : RetainedClaimSpec)

-- The typed spec and the raw one read the same strings.
def typedOrRawStr : String → Option String
  | "cnpgCluster" => spec.cnpgCluster
  | "cnpgNamespace" => spec.cnpgNamespace
  | "role" => spec.role
  | "database" => spec.database
  | "databaseObjectName" => spec.databaseObjectName
  | "passwordSecretName" => spec.passwordSecretName
  | "instance" => spec.inst
  | "aclUser" => spec.aclUser
  | "connectionSecretRef" => spec.connectionSecretRef
  | "connectionSecretNamespace" => spec.connectionSecretNamespace
  | "volumeClaimRef" => spec.volumeClaimRef
  | "volumeClaimNamespace" => spec.volumeClaimNamespace
  | "natsNamespace" => spec.natsNamespace
  | "natsApp" => spec.natsApp
  | _ => none

def isSomeNonEmpty (text : Option String) : Bool := text.any fun s => s != ""

def requiredFields : List String :=
  let dragonflyAllocated := isSomeNonEmpty (typedOrRawStr spec "instance")
  let diskProvisioned := isSomeNonEmpty (typedOrRawStr spec "volumeClaimRef")
  let natsAttributed := isSomeNonEmpty (typedOrRawStr spec "natsApp")
  let backend := spec.backend.getD ""
  if backend = "dragonfly" then if dragonflyAllocated then dragonflyRequiredStringFields else []
  else if backend = "disk" then if diskProvisioned then diskRequiredStringFields else []
  else if backend = "nats" then if natsAttributed then natsRequiredStringFields else []
  else cnpgRequiredStringFields

def checkRetainedIdentity (expectedSa : String) (user : UserInfo) (operation : String) : List ValidationError :=
  if operation = "CREATE" ∧ isOperatorOrAdmin user expectedSa = false then
    [⟨"metadata", "RetainedClaim objects may only be created by the apprafter-operator; they are snapshotted " ++
      "automatically when a ResourceClaim is deleted (requester " ++ Text.debug (user.username.getD "<unknown>") ++ " denied)"⟩]
  else []

def checkRetainedImmutable (object : RetainedObject) (oldObject : Option RetainedObject) : List ValidationError :=
  let oldSpec := oldObject.bind RetainedObject.spec
  if oldSpec.isSome ∧ oldSpec ≠ object.spec then [⟨"spec", "RetainedClaim spec is immutable"⟩] else []

def checkClaimRefKey (key : String) (value : Option String) : List ValidationError :=
  if isSomeNonEmpty value then [] else [⟨"spec.claimRef." ++ key, "claimRef." ++ key ++ " is required"⟩]

def checkClaimRef : List ValidationError :=
  match spec.claimRef with
  | some claimRef => checkClaimRefKey "name" claimRef.name ++ checkClaimRefKey "namespace" claimRef.ns
  | none => [⟨"spec.claimRef", "spec.claimRef is required (the deleted claim's name + namespace)"⟩]

def checkRequiredField (field : String) : List ValidationError :=
  if isSomeNonEmpty (typedOrRawStr spec field) then [] else [⟨"spec." ++ field, "spec." ++ field ++ " is required"⟩]

variable (chrono : Chrono)

def checkRetainUntil (spec : RetainedClaimSpec) : List ValidationError :=
  match spec.retainUntil.filter fun s => s != "" with
  | some s =>
    if chrono.isRfc3339 s then []
    else [⟨"spec.retainUntil", "retainUntil must be an RFC3339 timestamp (got " ++ Text.debug s ++ ")"⟩]
  | none => [⟨"spec.retainUntil", "spec.retainUntil is required (RFC3339)"⟩]

def checkRetainedFields : RetainedObject → List ValidationError
  | .notObject => [⟨"object", "RetainedClaim object must be a JSON object"⟩]
  | .object none => [⟨"spec", "spec is required"⟩]
  | .object (some spec) =>
    checkClaimRef spec ++ (requiredFields spec).flatMap (checkRequiredField spec) ++ checkRetainUntil chrono spec

def validateRetainedclaim (expectedSa : String) (object : RetainedObject)
    (oldObject : Option RetainedObject) (user : UserInfo) (operation : String) : List ValidationError :=
  checkRetainedIdentity expectedSa user operation ++ checkRetainedImmutable object oldObject ++ checkRetainedFields chrono object

theorem refused_unless_iff (passes : Bool) (error : ValidationError) : (if passes then [] else [error]) = [] ↔ passes = true := by
  cases passes with
  | true => exact ⟨fun _ => rfl, fun _ => rfl⟩
  | false => exact ⟨nofun, nofun⟩

theorem required_held_iff (field : String) :
    checkRequiredField spec field = [] ↔ isSomeNonEmpty (typedOrRawStr spec field) = true := refused_unless_iff _ _

theorem claim_ref_key_iff (key : String) (value : Option String) :
    checkClaimRefKey key value = [] ↔ isSomeNonEmpty value = true := refused_unless_iff _ _

theorem retain_until_iff (lawful : chrono.Lawful) (spec : RetainedClaimSpec) (text : String)
    (given : spec.retainUntil = some text) :
    checkRetainUntil chrono spec = [] ↔ chrono.isRfc3339 text = true := by
  rw [checkRetainUntil, given]
  by_cases empty : text = ""
  · subst empty
    rw [lawful.empty]
    exact ⟨nofun, nofun⟩
  · have kept : (some text).filter (fun s => s != "") = some text := by simpa [Option.filter] using empty
    rw [kept]
    exact refused_unless_iff _ _

-- The claim it names, its backend's own fields and its time are there.
theorem operator_create_valid_iff (expectedSa : String) (user : UserInfo)
    (operator : user.username = some expectedSa) (spec : RetainedClaimSpec) :
    validateRetainedclaim chrono expectedSa (.object (some spec)) none user "CREATE" = [] ↔
      checkClaimRef spec = [] ∧ (∀ field ∈ requiredFields spec, isSomeNonEmpty (typedOrRawStr spec field) = true) ∧
        checkRetainUntil chrono spec = [] := by
  have trusted : isOperatorOrAdmin user expectedSa = true := by simp [isOperatorOrAdmin, isOperator, operator]
  have known : checkRetainedIdentity expectedSa user "CREATE" = [] := by
    rw [checkRetainedIdentity, trusted]
    exact if_neg fun both => Bool.noConfusion both.2
  have fresh : checkRetainedImmutable (.object (some spec)) none = [] := rfl
  rw [validateRetainedclaim, known, fresh, nil_append, nil_append, checkRetainedFields, append_eq_nil_iff,
    append_eq_nil_iff, and_assoc, flatMap_eq_nil_iff]
  simp only [required_held_iff]

end AppRafter.Webhook

namespace AppRafter.Claim

open Lib List Option
open Application (trimDashes foldText ResourceClaimSpec OwnerReference)
open Provisioner (ClaimKey Backend pgIdentifier k8sName aclUser passwordSecretName connectionSecretName isLabelText
  isNamespaceName isObjectName gracePeriod defaultCnpgCluster)
open Webhook (UserInfo validateRetainedclaim operator_create_valid_iff isSomeNonEmpty typedOrRawStr requiredFields
  checkClaimRef checkClaimRefKey claim_ref_key_iff checkRetainUntil retain_until_iff cnpgRequiredStringFields
  dragonflyRequiredStringFields diskRequiredStringFields natsRequiredStringFields)

@[simp] theorem some_non_empty_iff (s : String) : isSomeNonEmpty (some s) = true ↔ s ≠ "" := by simp [isSomeNonEmpty]

theorem label_named {s : String} (label : isLabelText s = true) : s ≠ "" := by
  intro empty
  rw [empty] at label
  cases label

variable (key : ClaimKey)

theorem namespace_named (admitted : key.admitted = true) : key.ns ≠ "" := by
  simp only [ClaimKey.admitted, isNamespaceName, Bool.and_eq_true] at admitted
  exact label_named admitted.1.1

theorem name_named (admitted : key.admitted = true) : key.name ≠ "" := by
  intro empty
  simp only [ClaimKey.admitted, Bool.and_eq_true] at admitted
  have object := admitted.2
  rw [empty] at object
  revert object
  decide

theorem k8s_name_named : k8sName key ≠ "" := by
  intro empty
  have chars := congrArg String.toList empty
  rw [k8sName, String.toList_ofList] at chars
  have dashes := rdropWhile_eq_nil_iff.mp chars
  have start : 'c' ∈ ("claim-".toList ++ foldText (key.ns ++ "-" ++ key.name)).take 63 := mem_cons_self
  exact absurd (dashes 'c' start) (by decide)

theorem pg_identifier_named : pgIdentifier key ≠ "" := by
  intro empty
  have chars := congrArg String.toList empty
  rw [pgIdentifier, String.toList_ofList] at chars
  cases chars

-- A cluster and namespace for CNPG, and for NATS a namespace where it names its app.
def coordinatesNamed {Instant : Type} (claim : ResourceClaim Instant) (provider : Option ServiceProvider) : Bool :=
  match Backend.fromSpecBackend ((provider.map (·.backend)).getD "") with
  | some .sharedDisk => true
  | some .dragonfly => true
  | some .disk => true
  | some .nats => (declaringApp claim).getD "" == "" || provider.bind (·.configNs) != some ""
  | _ => provider.bind (·.cluster) != some "" && provider.bind (·.configNs) != some ""

variable (provider : Option ServiceProvider)

theorem cluster_named_iff :
    (provider.map ServiceProvider.cnpgCluster).getD defaultCnpgCluster ≠ "" ↔ provider.bind (·.cluster) ≠ some "" := by
  have given : defaultCnpgCluster ≠ "" := by decide
  cases provider with
  | none => simpa using given
  | some p => cases cluster : p.cluster <;> simp [ServiceProvider.cnpgCluster, cluster, given]

theorem namespace_given_iff :
    (provider.map ServiceProvider.cnpgNamespace).getD defaultCnpgNamespace ≠ "" ↔ provider.bind (·.configNs) ≠ some "" := by
  have given : defaultCnpgNamespace ≠ "" := by decide
  cases provider with
  | none => simpa using given
  | some p => cases configNs : p.configNs <;> simp [ServiceProvider.cnpgNamespace, configNs, given]

theorem cnpg_required {spec : RetainedClaimSpec} {backend : String} (sent : spec.backend = some backend)
    (shape : Backend.fromSpecBackend backend = none ∨ Backend.fromSpecBackend backend = some .cloudnativepg) :
    requiredFields spec = cnpgRequiredStringFields := by
  have apart : backend ≠ "dragonfly" ∧ backend ≠ "disk" ∧ backend ≠ "nats" := by
    refine ⟨?_, ?_, ?_⟩
    all_goals
      intro same
      rw [same] at shape
      revert shape
      decide
  simp [requiredFields, sent, apart]

theorem shared_disk_iff : Backend.fromSpecBackend ((provider.map (·.backend)).getD "") = some .sharedDisk ↔
      provider.map (·.backend) = some "shared-disk" := by
  cases provider with
  | none => simp [Backend.fromSpecBackend]
  | some p =>
    unfold Backend.fromSpecBackend
    split <;> simp_all

theorem payload_none_iff {Instant : Type} (claim : ResourceClaim Instant) (provider : Option ServiceProvider)
    (retainUntil : String) :
    snapshotPayload claim provider retainUntil = none ↔ provider.map (·.backend) = some "shared-disk" := by
  rw [← shared_disk_iff, snapshotPayload]
  cases Backend.fromSpecBackend ((provider.map (·.backend)).getD "") with
  | none => exact ⟨nofun, nofun⟩
  | some backend => cases backend <;> simp

section Shapes

variable (chrono : Chrono) (lawful : chrono.Lawful) (expectedSa : String) (user : UserInfo)
  (operator : user.username = some expectedSa) (key : ClaimKey) (admitted : key.admitted = true)

include lawful operator admitted

theorem retained_valid_iff (spec : RetainedClaimSpec) (retainUntil : String)
    (ref : spec.claimRef = some { name := some key.name, ns := some key.ns }) (until_ : spec.retainUntil = some retainUntil) :
    validateRetainedclaim chrono expectedSa (.object (some spec)) none user "CREATE" = [] ↔
      (∀ field ∈ requiredFields spec, isSomeNonEmpty (typedOrRawStr spec field) = true) ∧
        chrono.isRfc3339 retainUntil = true := by
  have named : checkClaimRef spec = [] := by
    rw [checkClaimRef, ref, append_eq_nil_iff]
    exact ⟨(claim_ref_key_iff "name" _).mpr ((some_non_empty_iff _).mpr (name_named key admitted)),
      (claim_ref_key_iff "namespace" _).mpr ((some_non_empty_iff _).mpr (namespace_named key admitted))⟩
  rw [operator_create_valid_iff chrono _ user operator spec, retain_until_iff _ lawful spec _ until_]
  exact and_iff_right named

theorem cnpg_valid_iff (own : ResourceClaim chrono.Instant) (provider : Option ServiceProvider) (backend retainUntil : String)
    (shape : Backend.fromSpecBackend backend = none ∨ Backend.fromSpecBackend backend = some .cloudnativepg) :
    validateRetainedclaim chrono expectedSa (.object (some (retainedClaimObject (k8sName key) key.name key.ns own.providerName
        backend ((provider.map ServiceProvider.cnpgCluster).getD defaultCnpgCluster)
        ((provider.map ServiceProvider.cnpgNamespace).getD defaultCnpgNamespace) (pgIdentifier key) (pgIdentifier key)
        (k8sName key) (passwordSecretName key) retainUntil).spec)) none user "CREATE" = [] ↔
      (provider.bind (·.cluster) ≠ some "" ∧ provider.bind (·.configNs) ≠ some "") ∧ chrono.isRfc3339 retainUntil = true := by
  rw [retained_valid_iff _ lawful _ user operator key admitted _ retainUntil rfl rfl,
    cnpg_required rfl shape, ← cluster_named_iff, ← namespace_given_iff]
  have role := pg_identifier_named key
  have object := k8s_name_named key
  have secret : passwordSecretName key ≠ "" := by simp [passwordSecretName]
  simp [cnpgRequiredStringFields, typedOrRawStr, retainedClaimObject, role, object, secret]

theorem payload_valid_iff (claim : ResourceClaim chrono.Instant) (own : claim.key = key) (provider : Option ServiceProvider)
    (retainUntil : String) (snapshot : RetainedClaim) (taken : snapshotPayload claim provider retainUntil = some snapshot) :
    validateRetainedclaim chrono expectedSa (.object (some snapshot.spec)) none user "CREATE" = [] ↔
      coordinatesNamed claim provider = true ∧ chrono.isRfc3339 retainUntil = true := by
  subst own
  have valid := retained_valid_iff _ lawful _ user operator _ admitted
  have space := namespace_named _ admitted
  have secret : connectionSecretName claim.key ≠ "" := by simp [connectionSecretName]
  rw [snapshotPayload] at taken
  rw [coordinatesNamed]
  cases shape : Backend.fromSpecBackend ((provider.map (·.backend)).getD "") with
  | none =>
    rw [shape] at taken
    obtain rfl := some.inj taken
    rw [cnpg_valid_iff _ lawful _ user operator _ admitted claim provider _ retainUntil (.inl shape)]
    simp
  | some backend =>
    rw [shape] at taken
    cases backend with
    | sharedDisk => cases taken
    | cloudnativepg =>
      obtain rfl := some.inj taken
      rw [cnpg_valid_iff _ lawful _ user operator _ admitted claim provider _ retainUntil (.inr shape)]
      simp
    | dragonfly =>
      obtain rfl := some.inj taken
      rw [valid _ retainUntil rfl rfl]
      have acl : aclUser claim.key ≠ "" := by simp [aclUser]
      by_cases allocated : (claim.allocation.getD ("", 0)).1 = ""
      · simp [requiredFields, retainedClaimDragonflyObject, typedOrRawStr, isSomeNonEmpty, allocated]
      · simp [requiredFields, retainedClaimDragonflyObject, typedOrRawStr, isSomeNonEmpty, allocated,
          dragonflyRequiredStringFields, acl, secret, space]
    | disk =>
      obtain rfl := some.inj taken
      rw [valid _ retainUntil rfl rfl]
      by_cases provisioned : claim.volumeClaimRef = ""
      · simp [requiredFields, retainedClaimDiskObject, typedOrRawStr, isSomeNonEmpty, provisioned]
      · simp [requiredFields, retainedClaimDiskObject, typedOrRawStr, isSomeNonEmpty, provisioned,
          diskRequiredStringFields, space]
    | nats =>
      obtain rfl := some.inj taken
      rw [valid _ retainUntil rfl rfl]
      rw [Bool.or_eq_true, bne_iff_ne, ← namespace_given_iff]
      by_cases attributed : (declaringApp claim).getD "" = ""
      · simp [requiredFields, retainedClaimNatsObject, typedOrRawStr, isSomeNonEmpty, attributed]
      · simp [requiredFields, retainedClaimNatsObject, typedOrRawStr, isSomeNonEmpty, attributed,
          natsRequiredStringFields, secret, space]

theorem payload_admitted_iff {claim : ResourceClaim chrono.Instant} (own : claim.key = key)
    (provider : Option ServiceProvider) (retainUntil : String) :
    (∀ snapshot, snapshotPayload claim provider retainUntil = some snapshot →
        validateRetainedclaim chrono expectedSa (.object (some snapshot.spec)) none user "CREATE" = []) ↔
      provider.map (·.backend) = some "shared-disk" ∨
        coordinatesNamed claim provider = true ∧ chrono.isRfc3339 retainUntil = true := by
  have none_iff := payload_none_iff claim provider retainUntil
  have valid := payload_valid_iff chrono lawful expectedSa user operator key admitted claim own provider retainUntil
  cases taken : snapshotPayload claim provider retainUntil with
  | none =>
    refine ⟨fun _ => .inl (none_iff.mp taken), ?_⟩
    intro _ snapshot absent
    cases absent
  | some snapshot =>
    have shaped : provider.map (·.backend) ≠ some "shared-disk" := by
      intro shared
      rw [none_iff.mpr shared] at taken
      cases taken
    rw [or_iff_right shaped, ← valid snapshot taken]
    constructor
    · exact fun all => all snapshot rfl
    · intro one other same
      cases same
      exact one

end Shapes

-- No coordinate is empty, and the retention ends in a year RFC 3339 can write.
theorem snapshot_admitted_iff (chrono : Chrono) (lawful : chrono.Lawful) (expectedSa : String) (user : UserInfo)
    (operator : user.username = some expectedSa) (claim : ResourceClaim chrono.Instant)
    (admitted : claim.key.admitted = true) (providers : List ServiceProvider) (now : chrono.Instant) :
    (∀ snapshot, snapshotRetainedClaim chrono claim providers now = some snapshot →
        validateRetainedclaim chrono expectedSa (.object (some snapshot.spec)) none user "CREATE" = []) ↔
      (findProvider providers claim.providerName).map (·.backend) = some "shared-disk" ∨
        coordinatesNamed claim (findProvider providers claim.providerName) = true ∧
          chrono.fourDigitYear (computeRetainUntil chrono (claim.deletionTimestamp.getD now)) = true := by
  rw [← lawful.parses]
  exact payload_admitted_iff chrono lawful expectedSa user operator claim.key admitted rfl _ _

def twoDigits (n : Nat) : String := (if n < 10 then "0" else "") ++ toString n

def secondsText (t : Nat) : String :=
  twoDigits (t / 86400 + 1) ++ "T" ++ twoDigits (t / 3600 % 24) ++ ":" ++ twoDigits (t / 60 % 60) ++ ":" ++ twoDigits (t % 60)

-- What lies behind June 2026 stands for a year RFC 3339 cannot write.
def juneClock : Chrono :=
  { Instant := Nat
    add := fun t seconds => t + seconds
    toRfc3339 := fun t => if t < 30 * 86400 then "2026-06-" ++ secondsText t ++ "+00:00" else "+10000-01-01T00:00:00+00:00"
    isRfc3339 := fun s => "2026-06-".toList.isPrefixOf s.toList
    fourDigitYear := fun t => decide (t < 30 * 86400) }

theorem june_lawful : juneClock.Lawful where
  parses := by
    intro (t : Nat)
    change "2026-06-".toList.isPrefixOf (if t < 30 * 86400 then _ else _ : String).toList = decide (t < 30 * 86400)
    by_cases inside : t < 30 * 86400
    · rw [if_pos inside, decide_eq_true inside, String.append_assoc, String.toList_append, isPrefixOf_iff_prefix]
      exact prefix_append _ _
    · rw [if_neg inside, decide_eq_false inside]
      decide
  empty := by decide

def operatorSa : String := "system:serviceaccount:apprafter-system:apprafter-operator"

def pgSpec : ResourceClaimSpec := { type := "pg", selector := Dict.empty }

def deletedPg : ResourceClaim Nat :=
  { key := { ns := "demo", name := "demo-web-pg" }
    deletionTimestamp := some 172800
    finalizers := [Provisioner.provisionerFinalizer]
    spec := pgSpec
    status := some { provider := some "pg-integrated" } }

def providerOf (cluster : Option String) : ServiceProvider :=
  { name := "pg-integrated", type := "pg", backend := "cloudnative-pg", cluster := cluster }

theorem pg_snapshot_admitted : ∃ snapshot,
    snapshotRetainedClaim juneClock deletedPg [providerOf (some "platform-postgres")] (172800 : Nat) = some snapshot ∧
      validateRetainedclaim juneClock operatorSa (.object (some snapshot.spec)) none { username := some operatorSa } "CREATE" = [] := by
  have present : (snapshotRetainedClaim juneClock deletedPg [providerOf (some "platform-postgres")] (172800 : Nat)).isSome = true := by
    decide +kernel
  obtain ⟨snapshot, taken⟩ := isSome_iff_exists.mp present
  have valid := snapshot_admitted_iff juneClock june_lawful operatorSa { username := some operatorSa } rfl deletedPg
    (by decide +kernel) [providerOf (some "platform-postgres")] (172800 : Nat)
  exact ⟨snapshot, taken, valid.mpr (.inr (by decide +kernel)) snapshot taken⟩

theorem empty_cluster_refused :
    juneClock.Lawful ∧ deletedPg.key.admitted = true ∧
      (snapshotRetainedClaim juneClock deletedPg [providerOf (some "")] (172800 : Nat)).map
          (fun snapshot => validateRetainedclaim juneClock operatorSa (.object (some snapshot.spec)) none
            { username := some operatorSa } "CREATE") =
        some [⟨"spec.cnpgCluster", "spec.cnpgCluster is required"⟩] :=
  ⟨june_lawful, by decide +kernel, by decide +kernel⟩

end AppRafter.Claim
