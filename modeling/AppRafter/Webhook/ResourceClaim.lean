import AppRafter.Webhook.EnvRefs
import AppRafter.Webhook.Phase

set_option autoImplicit false

namespace AppRafter.Webhook

open Lib Application List Option

def builtinTypes : List String := ["pg", "jetstream", "clickhouse", "redis", "s3", "notifications", "disk", "shared-disk"]

def sizes : List String := ["nano", "small", "medium", "large", "xlarge"]

-- The size key of a spec: left out, there and not a string, or a string.
inductive SizeKey where
  | absent
  | notString
  | text (size : String)

-- A key that is not of its type reads as missing.
structure ClaimFields where
  type : Option String
  selector : Option (Dict String)
  size : SizeKey

inductive ClaimObject where
  | notObject
  | object (spec : Option ClaimFields)

def validateClaimSize (type : Option String) : SizeKey → List ValidationError
  | .absent => []
  | .notString =>
    [⟨"spec.size", "size must be a string (a t-shirt size for service claims, a Kubernetes quantity for disk)"⟩]
  | .text size =>
    if type = some "disk" then
      if isK8sQuantity size then []
      else [⟨"spec.size", "disk size must be a Kubernetes quantity (e.g. 10Gi); got " ++ Text.debug size⟩]
    else if sizes.contains size then []
    else
      [⟨"spec.size", "size must be one of " ++ String.intercalate "|" sizes ++ " (got " ++ Text.debug size ++ ")"⟩]

def validateClaimFields (fields : ClaimFields) : List ValidationError :=
  (match fields.type with
  | some type =>
    if builtinTypes.contains type then []
    else
      [⟨"spec.type", "type must be one of " ++ String.intercalate "|" builtinTypes ++ " (got " ++ Text.debug type ++ ")"⟩]
  | none => [⟨"spec.type", "spec.type is required"⟩]) ++
  (match fields.selector with
  | some selector =>
    if selector.isEmpty then
      [⟨"spec.selector", "spec.selector must not be empty (it routes the claim to a ServiceProvider)"⟩]
    else []
  | none => [⟨"spec.selector", "spec.selector is required"⟩]) ++
  validateClaimSize fields.type fields.size

def validateResourceclaim (expectedSa : String) (object : ClaimObject) (user : UserInfo) (operation : String) :
    List ValidationError :=
  (if operation = "CREATE" ∧ isOperatorOrAdmin user expectedSa = false then
    [⟨"metadata", "ResourceClaim objects may only be created by the apprafter-operator; they are generated automatically " ++
      "when an Application declares a need (requester " ++ Text.debug (user.username.getD "<unknown>") ++ " denied)"⟩]
  else []) ++
  match object with
  | .notObject => [⟨"object", "ResourceClaim object must be a JSON object"⟩]
  | .object none => [⟨"spec", "spec is required"⟩]
  | .object (some fields) => validateClaimFields fields

-- An owned disk's always has the size key, any other's only where there is a size.
def claimObject (payload : ClaimPayload) : ClaimObject :=
  .object (some
    { type := some payload.spec.type
      selector := some payload.spec.selector
      size := match payload.spec.size with
        | some size => .text size
        | none => if payload.spec.type = "disk" then .notString else .absent })

structure Passable (need : ServiceNeed) : Prop where
  selector : ∀ selector, need.selector = some selector → selector.isEmpty = false
  size : ∀ size, need.size = some size → size ∈ sizes

variable {kind : ServiceType} {need : ServiceNeed} {payload : ClaimPayload} {expectedSa : String} {user : UserInfo}

theorem service_claim_valid {spec : ApplicationBaseSpec} (built : payload.spec = serviceClaimSpec spec kind need)
    (operator : user.username = some expectedSa) :
    validateResourceclaim expectedSa (claimObject payload) user "CREATE" = [] ↔ Passable need := by
  have trusted : isOperatorOrAdmin user expectedSa = true := by simp [isOperatorOrAdmin, isOperator, operator]
  have known : builtinTypes.contains kind.text = true ∧ kind.text ≠ "disk" := by
    cases kind with
    | pg => decide
    | jetstream => decide
    | clickhouse => decide
    | redis => decide
    | s3 => decide
    | notifications => decide
  have integrated : defaultIntegratedSelector.isEmpty = false := rfl
  simp only [validateResourceclaim, claimObject, validateClaimFields, built, serviceClaimSpec, trusted, known.1]
  rw [if_neg (by simp), nil_append, if_pos trivial, nil_append, append_eq_nil_iff]
  constructor
  · intro ⟨routed, sized⟩
    constructor
    · intro selector given
      cases empty : selector.isEmpty with
      | false => rfl
      | true =>
        rw [given, getD_some, empty] at routed
        cases routed
    · intro size given
      rw [given] at sized
      simp only [validateClaimSize] at sized
      by_contra other
      rw [if_neg (by simpa using known.2), if_neg (by simpa using other)] at sized
      cases sized
  · intro passable
    constructor
    · cases given : need.selector with
      | none => rw [getD_none, integrated, if_neg Bool.false_ne_true]
      | some selector => rw [getD_some, passable.selector selector given, if_neg Bool.false_ne_true]
    · cases given : need.size with
      | none =>
        rw [if_neg known.2]
        rfl
      | some size =>
        simp only [validateClaimSize]
        rw [if_neg (by simpa using known.2), if_pos (by simpa using passable.size size given)]

theorem disk_claim_valid {disk : DiskClaim} {field : String} (shaped : checkDiskShape field disk = [])
    (built : payload.spec = diskClaimSpec disk)
    (operator : user.username = some expectedSa) :
    validateResourceclaim expectedSa (claimObject payload) user "CREATE" = [] := by
  have trusted : isOperatorOrAdmin user expectedSa = true := by simp [isOperatorOrAdmin, isOperator, operator]
  have integrated : defaultIntegratedSelector.isEmpty = false := rfl
  cases bound : disk.reference with
  | some reference =>
    have spec : payload.spec = { type := "shared-disk", selector := defaultIntegratedSelector } := by
      rw [built, diskClaimSpec, bound]
    simp only [validateResourceclaim, claimObject, validateClaimFields, spec, trusted, integrated]
    rfl
  | none =>
    have spec : payload.spec =
        { type := "disk", selector := defaultIntegratedSelector, size := disk.size, name := specName disk.name } := by
      rw [built, diskClaimSpec, bound]
    simp only [checkDiskShape, bound, checkOwnedDisk, append_eq_nil_iff] at shaped
    cases given : disk.size with
    | none => simp [given] at shaped
    | some size =>
      have quantity : isK8sQuantity size = true := by
        by_contra other
        simp [given, other] at shaped
      simp only [validateResourceclaim, claimObject, validateClaimFields, spec, trusted, integrated, given,
        validateClaimSize, quantity]
      rfl

section Slots

variable {α : Type} {entry : α}

theorem slot_cases {own under : Option (OneOrMany α)} (member : entry ∈ slotEntries (own.or under)) :
    entry ∈ slotEntries own ∨ entry ∈ slotEntries under := by
  cases own with
  | none => exact .inr (by rwa [none_or] at member)
  | some entries => exact .inl (by rwa [some_or] at member)

theorem slot_kept (own under : Option (OneOrMany α)) (member : entry ∈ slotEntries own) : entry ∈ slotEntries (own.or under) := by
  cases own with
  | none => cases member
  | some entries => rwa [some_or]

end Slots

theorem merged_service_cases {base override : Needs} (member : need ∈ serviceEntries (mergeNeedsKeys base override) kind) :
    need ∈ serviceEntries override kind ∨ need ∈ serviceEntries base kind := by
  cases kind with
  | pg | clickhouse | redis | s3 | notifications => exact slot_cases member
  | jetstream =>
    simp only [serviceEntries, mergeNeedsKeys] at member ⊢
    cases own : override.jetstream with
    | none => exact .inr (by rwa [own, none_or] at member)
    | some js => exact .inl (by rwa [own, some_or] at member)

theorem merged_service_kept (base override : Needs)
    (member : need ∈ serviceEntries override kind) : need ∈ serviceEntries (mergeNeedsKeys base override) kind := by
  cases kind with
  | pg => exact slot_kept _ base.pg member
  | clickhouse => exact slot_kept _ base.clickhouse member
  | redis => exact slot_kept _ base.redis member
  | s3 => exact slot_kept _ base.s3 member
  | notifications => exact slot_kept _ base.notifications member
  | jetstream =>
    simp only [serviceEntries, mergeNeedsKeys] at member ⊢
    cases own : override.jetstream with
    | none => simp [own] at member
    | some js => rwa [own] at member

theorem admitted_disk_shapes {name : String} {spec : ApplicationSpec} (allowed : admitted name spec = true) :
    ∀ scope ∈ scopes spec, ∀ disk ∈ diskEntries scope.needs, ∃ field, checkDiskShape field disk = [] := by
  intro scope member disk listed
  have accepted := (admitted_accepted allowed).disks
  simp only [validateDiskClaims, append_eq_nil_iff] at accepted
  obtain ⟨seen, checked⟩ := check_disk_scopes_each _ [] accepted.2 scope member
  exact ⟨_, check_disk_entries_each _ _ _ _ checked disk listed⟩

theorem need_entries_default (effective : ApplicationBaseSpec) : needEntries effective = (effective.needs.getD {}).entries := by
  rw [needEntries]
  cases effective.needs with
  | none => rfl
  | some needs => rfl

section Generated

variable (expectedSa : String) (user : UserInfo) (operator : user.username = some expectedSa) (name uid ns : String)

def ClaimsAccepted (effective : ApplicationBaseSpec) : Prop :=
  ∀ payload ∈ generateResourceClaims effective name uid ns,
    validateResourceclaim expectedSa (claimObject payload) user "CREATE" = []

def NeedsPassable (needs : Option Needs) : Prop := ∀ kind, ∀ need ∈ serviceEntries (needs.getD {}) kind, Passable need

include operator

theorem generated_accepted (effective : ApplicationBaseSpec)
    (shaped : ∀ disk ∈ slotEntries (effective.needs.getD {}).disk, ∃ field, checkDiskShape field disk = []) :
    ClaimsAccepted expectedSa user name uid ns effective ↔ NeedsPassable effective.needs := by
  unfold ClaimsAccepted generateResourceClaims
  rw [need_entries_default, List.forall_mem_map]
  constructor
  · intro accepted kind need listed
    have checked := accepted (.service kind need) ((mem_service _ kind need).mpr listed)
    exact (service_claim_valid rfl operator).mp checked
  · intro passable entry listed
    cases entry with
    | service kind need =>
      apply (service_claim_valid rfl operator).mpr
      exact passable kind need ((mem_service _ kind need).mp listed)
    | disk disk =>
      obtain ⟨field, shape⟩ := shaped disk ((mem_disk _ disk).mp listed)
      exact disk_claim_valid shape rfl operator

theorem claims_accepted_iff (spec : ApplicationSpec) (allowed : admitted name spec = true) :
    (∀ envName effective, effectiveSpec spec envName = .ok effective → ClaimsAccepted expectedSa user name uid ns effective) ↔
      NeedsPassable (spec.base.getD {}).needs ∧ ∀ entry ∈ environmentEntries spec, NeedsPassable entry.2.needs := by
  have shapes := admitted_disk_shapes allowed
  have disks (needs : Option Needs) : slotEntries (needs.getD {}).disk = diskEntries needs := by
    cases needs with
    | none => rfl
    | some own => rfl
  have baseShapes : ∀ disk ∈ slotEntries ((spec.base.getD {}).needs.getD {}).disk, ∃ field, checkDiskShape field disk = [] := by
    rw [disks]
    exact shapes _ (base_scope spec)
  rw [effective_specs, generated_accepted expectedSa user operator name uid ns (spec.base.getD {}) baseShapes]
  apply and_congr_right
  intro basePassable
  apply forall_congr'
  intro entry
  apply forall_congr'
  intro member
  have ownShapes : ∀ disk ∈ slotEntries (entry.2.needs.getD {}).disk, ∃ field, checkDiskShape field disk = [] := by
    rw [disks]
    exact shapes _ (environment_scope member)
  have accepted (effective : ApplicationBaseSpec) (applied : applyOverride (spec.base.getD {}) entry.2 = .ok effective) :
      ClaimsAccepted expectedSa user name uid ns effective ↔ NeedsPassable entry.2.needs := by
    obtain ⟨expose, computed, rfl⟩ := (apply_override_ok _ _ _).mp applied
    rw [generated_accepted expectedSa user operator name uid ns]
    · unfold NeedsPassable
      rw [merge_needs_over]
      constructor
      · intro passable kind need listed
        exact passable kind need (merged_service_kept _ _ listed)
      · intro passable kind need listed
        rcases merged_service_cases listed with own | inherited
        · exact passable kind need own
        · exact basePassable kind need inherited
    · rw [merge_needs_over]
      intro disk listed
      rcases slot_cases listed with own | inherited
      · exact ownShapes disk own
      · exact baseShapes disk inherited
  constructor
  · intro all
    obtain ⟨expose, computed⟩ := admitted_computes allowed member
    have applied := (apply_override_ok (spec.base.getD {}) entry.2 _).mpr ⟨expose, computed, rfl⟩
    exact (accepted _ applied).mp (all _ applied)
  · intro passable effective applied
    exact (accepted effective applied).mpr passable

end Generated

def pgSpec (need : ServiceNeed) : ApplicationSpec :=
  { base := some { image := some "ghcr.io/acme/shop:v1", needs := some { pg := some (.one need) } } }

def operatorSa : UserInfo := { username := some "system:serviceaccount:apprafter-system:apprafter-operator" }

theorem small_pg_accepted : admitted "shop" (pgSpec { size := some "small" }) = true ∧
      ∀ envName effective, effectiveSpec (pgSpec { size := some "small" }) envName = .ok effective →
        ClaimsAccepted "system:serviceaccount:apprafter-system:apprafter-operator" operatorSa "shop" "shop-uid" "acme" effective := by
  refine ⟨by decide, (claims_accepted_iff _ operatorSa rfl "shop" "shop-uid" "acme" _ (by decide)).mpr ⟨?_, ?_⟩⟩
  · intro kind need listed
    cases kind with
    | pg =>
      obtain rfl := mem_singleton.mp listed
      constructor
      · intro selector given
        cases given
      · intro size given
        cases given
        decide
    | jetstream => cases listed
    | clickhouse => cases listed
    | redis => cases listed
    | s3 => cases listed
    | notifications => cases listed
  · intro entry member
    cases member

-- The Application's rules read no service need's size.
theorem sized_pg_refused :
    ∃ spec : ApplicationSpec, admitted "shop" spec = true ∧
      ¬∀ envName effective, effectiveSpec spec envName = .ok effective →
        ClaimsAccepted "system:serviceaccount:apprafter-system:apprafter-operator" operatorSa "shop" "shop-uid" "acme"
          effective := by
  refine ⟨pgSpec { size := some "10Gi" }, by decide, ?_⟩
  intro accepted
  have refused := accepted none _ rfl _ mem_cons_self
  exact absurd refused (by decide)

end AppRafter.Webhook
