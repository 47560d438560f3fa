import AppRafter.Migration.Plan
import AppRafter.Webhook.Scope

set_option autoImplicit false

namespace AppRafter.Webhook

open Lib Migration

def phaseText : Option Phase → String
  | none => ""
  | some .pendingApproval => "pending-approval"
  | some .approved => "approved"
  | some .executing => "executing"
  | some .completed => "completed"
  | some .failed => "failed"
  | some .rejected => "rejected"
  | some (.other text _) => text

def scopeText : ScopeType → String
  | .application => "application"
  | .platform => "platform"
  | .sourcecredential => "sourcecredential"
  | .other text _ => text

def phaseUnset : Option Phase → Bool
  | none => true
  | some (.other text _) => text.toList.isEmpty
  | some _ => false

def phaseKnown : Option Phase → Bool
  | none => false
  | some (.other _ _) => false
  | some _ => true

def sealedPhase : Option Phase → Bool
  | some .completed => true
  | some .failed => true
  | some .rejected => true
  | _ => false

variable (oldPhase newPhase : Option Phase) (scope : ScopeType)

def isAllowedPhaseTransition : Bool :=
  if newPhase = some .rejected ∧ (scope = .application ∨ scope = .sourcecredential) then false
  else if phaseUnset oldPhase then phaseKnown newPhase
  else if sealedPhase oldPhase then false
  else
    match oldPhase, newPhase with
    | some .pendingApproval, some .approved => true
    | some .pendingApproval, some .rejected => scope = .platform
    | some .approved, some .executing => true
    | some .executing, some .completed => true
    | some .executing, some .failed => true
    | _, _ => false

def phaseReason : String :=
  if scope = .application ∧ newPhase = some .rejected then
    "application-scope MigrationPlans cannot be rejected; revert the Git commit in your application repo and let the " ++
      "Application reconciler supersede this plan (ADR 0027)"
  else if scope = .sourcecredential ∧ newPhase = some .rejected then
    "sourcecredential-scope MigrationPlans cannot be rejected; re-widen the SourceCredential coverage in your spec " ++
      "and let the SourceCredential reconciler supersede this plan (ADR 0039). sourcecredential-scope plans are " ++
      "approve-only"
  else
    "illegal status.phase transition " ++ Text.debug (phaseText oldPhase) ++ " → " ++ Text.debug (phaseText newPhase) ++
      " for scope.type=" ++ Text.debug (scopeText scope) ++ "; see spec.md §3.8 for the legal FSM"

def validatePhaseTransition : List ValidationError :=
  if phaseText oldPhase = phaseText newPhase then []
  else if isAllowedPhaseTransition oldPhase newPhase scope then []
  else [⟨"status.phase", phaseReason oldPhase newPhase scope⟩]

def phaseAdmitted : Bool :=
  (validatePhaseTransition oldPhase newPhase scope).isEmpty

theorem phase_admitted_iff : phaseAdmitted oldPhase newPhase scope = true ↔
      phaseText oldPhase = phaseText newPhase ∨ isAllowedPhaseTransition oldPhase newPhase scope = true := by
  simp only [phaseAdmitted, validatePhaseTransition]
  by_cases same : phaseText oldPhase = phaseText newPhase
  · rw [if_pos same]
    exact ⟨fun _ => .inl same, fun _ => rfl⟩
  · rw [if_neg same]
    by_cases allowed : isAllowedPhaseTransition oldPhase newPhase scope = true
    · rw [if_pos allowed]
      exact ⟨fun _ => .inr allowed, fun _ => rfl⟩
    · rw [if_neg allowed]
      exact ⟨nofun, fun either => absurd either (not_or.mpr ⟨same, allowed⟩)⟩

theorem phase_of_text {a b : Option Phase} (known : phaseKnown a = true) (same : phaseText a = phaseText b) : a = b := by
  have named : phaseText a ∈ phaseNames := by
    cases a with
    | none => exact absurd known (by decide)
    | some phase => cases phase <;> first | exact absurd known Bool.false_ne_true | simp [phaseText, phaseNames]
  cases b with
  | none =>
    rw [same] at named
    exact absurd named (by decide)
  | some other =>
    cases other with
    | other text outside =>
      rw [same] at named
      exact absurd named outside
    | _ =>
      cases a with
      | none => exact absurd known (by decide)
      | some phase => cases phase <;> first | rfl | exact absurd known Bool.false_ne_true | exact absurd same (by decide)

theorem sealed_known {phase : Option Phase} (sealed : sealedPhase phase = true) :
    phaseKnown phase = true ∧ phaseUnset phase = false := by
  cases phase with
  | none => exact absurd sealed Bool.false_ne_true
  | some phase => cases phase <;> first | exact ⟨rfl, rfl⟩ | exact absurd sealed Bool.false_ne_true

theorem sealed_not_left {oldPhase newPhase : Option Phase} {scope : ScopeType} (sealed : sealedPhase oldPhase = true)
    (admitted : phaseAdmitted oldPhase newPhase scope = true) : newPhase = oldPhase := by
  cases (phase_admitted_iff oldPhase newPhase scope).mp admitted with
  | inl same => exact (phase_of_text (sealed_known sealed).1 same).symm
  | inr allowed =>
    unfold isAllowedPhaseTransition at allowed
    split at allowed
    · exact absurd allowed Bool.false_ne_true
    · rw [(sealed_known sealed).2] at allowed
      exact absurd allowed Bool.false_ne_true

structure UserInfo where
  username : Option String
  groups : List String := []

def isOperator (user : UserInfo) (expectedSa : String) : Bool := user.username == some expectedSa

def isOperatorOrAdmin (user : UserInfo) (expectedSa : String) : Bool :=
  isOperator user expectedSa ||
    user.groups.any fun group => group == "system:masters" || group == "kubeadm:cluster-admins"

-- In key order: the name, whether the old sets it, whether the write changes it.
def statusDiff (old new : MigrationPlanStatus) : List (String × Bool × Bool) :=
  [("approvedAt", old.approvedAt.isSome, old.approvedAt != new.approvedAt),
    ("approvedBy", old.approvedBy.isSome, old.approvedBy != new.approvedBy),
    ("executedSteps", old.executedSteps.isSome, old.executedSteps != new.executedSteps),
    ("phase", old.phase.isSome, old.phase != new.phase),
    ("rejectedAt", old.rejectedAt.isSome, old.rejectedAt != new.rejectedAt)]

-- The old status' keys are walked before those only the new one has.
def changedFields (old new : MigrationPlanStatus) : List String :=
  let changed := (statusDiff old new).filter fun field => field.2.2
  ((changed.filter fun field => field.2.1) ++ changed.filter fun field => !field.2.1).map Prod.fst

def migrationplanStatusWriteAllowed (user : UserInfo) (expectedSa : String) (oldStatus newStatus : Option MigrationPlanStatus) :
    Except String Unit :=
  if isOperatorOrAdmin user expectedSa then .ok ()
  else
    let old := oldStatus.getD {}
    let new := newStatus.getD {}
    let changed := changedFields old new
    let onlyPhaseChanged := changed == ["phase"]
    let oldPhase := phaseText old.phase
    let newPhase := phaseText new.phase
    if onlyPhaseChanged && oldPhase == "pending-approval" && newPhase == "approved" then .ok ()
    else
      let detail := if onlyPhaseChanged then "status.phase " ++ Text.debug oldPhase ++ "→" ++ Text.debug newPhase
        else "status fields [" ++ String.intercalate ", " (changed.filter (· != "phase")) ++ "]"
      .error ("external approval may only set status.phase pending-approval→approved; rejected write to " ++ detail ++
        " by " ++ Text.debug (user.username.getD "<unknown>") ++ " (only the operator ServiceAccount may write other " ++
        "MigrationPlan.status fields)")

def isEmailish (s : String) : Bool :=
  match Text.split '@' s with
  | [local_, domain] =>
    !local_.toList.isEmpty && !domain.toList.isEmpty && decide (2 ≤ (Text.split '.' domain).length) &&
      (Text.split '.' domain).all fun label => !label.toList.isEmpty
  | _ => false

def checkRef (path name ns : String) : List ValidationError :=
  (if name.toList.isEmpty then [⟨path ++ ".name", "name is required"⟩] else []) ++
    (if ns.toList.isEmpty then [⟨path ++ ".namespace", "namespace is required"⟩] else [])

def checkForeign (present : Bool) (block scopeType : String) : List ValidationError :=
  if present then [⟨"spec.scope." ++ block, block ++ " block must not be set when scope.type is " ++ scopeType⟩] else []

variable (scope : MigrationPlanScope)

def validateApplicationScope : List ValidationError :=
  checkForeign scope.platform.isSome "platform" "application" ++ match scope.application with
    | none => [⟨"spec.scope.application", "scope.application is required when scope.type is application"⟩]
    | some app => checkRef "spec.scope.application.ref" app.ref.name app.ref.ns

def checkComponents (index : Nat) : List String → List ValidationError
  | [] => []
  | name :: rest =>
    (if name.toList.isEmpty then
      [⟨"spec.scope.platform.components[" ++ toString index ++ "]", "component name must be a non-empty string"⟩]
    else []) ++ checkComponents (index + 1) rest

def validatePlatformScope : List ValidationError :=
  checkForeign scope.application.isSome "application" "platform" ++ match scope.platform with
    | none => [⟨"spec.scope.platform", "scope.platform is required when scope.type is platform"⟩]
    | some platform =>
      (if platform.components.isEmpty then [⟨"spec.scope.platform.components", "components must be non-empty"⟩]
      else []) ++ checkComponents 0 platform.components

def validateSourcecredentialScope : List ValidationError :=
  checkForeign scope.application.isSome "application" "sourcecredential" ++
    checkForeign scope.platform.isSome "platform" "sourcecredential" ++
    match scope.sourcecredential with
    | none => [⟨"spec.scope.sourcecredential", "scope.sourcecredential is required when scope.type is sourcecredential"⟩]
    | some sc => checkRef "spec.scope.sourcecredential.ref" sc.ref.name sc.ref.ns

def validateScope : List ValidationError :=
  match scope.type with
  | .application => validateApplicationScope scope
  | .platform => validatePlatformScope scope
  | .sourcecredential => validateSourcecredentialScope scope
  | .other text _ =>
    if text.toList.isEmpty then
      [⟨"spec.scope.type", "scope.type is required (one of application|platform|sourcecredential)"⟩]
    else
      [⟨"spec.scope.type", "scope.type must be application|platform|sourcecredential (got " ++ Text.debug text ++ ")"⟩]

def checkApprovers (index : Nat) : List String → List ValidationError
  | [] => []
  | email :: rest =>
    (if isEmailish email then []
    else [⟨"spec.approvers[" ++ toString index ++ "]", Text.debug email ++ " is not a valid email address"⟩]) ++
      checkApprovers (index + 1) rest

-- Of the spec only the scope is held fixed on an update.
def checkUpdate (object old : MigrationPlan) : List ValidationError :=
  (if old.spec.scope ≠ object.spec.scope then
    [⟨"spec.scope", "spec.scope is immutable after MigrationPlan creation; create a new MigrationPlan instead of " ++
      "mutating an existing one"⟩]
  else []) ++ validatePhaseTransition (old.status.bind (·.phase)) (object.status.bind (·.phase)) object.spec.scope.type

def validateMigrationplan (object : MigrationPlan) (oldObject : Option MigrationPlan) : List ValidationError :=
  validateScope object.spec.scope ++ checkApprovers 0 (object.spec.approvers.getD []) ++ match oldObject with
    | none => []
    | some old => checkUpdate object old

-- One MigrationPlan request at the webhook; `status` is the /status subresource.
def migrationplanAllowed (expectedSa : String) (user : UserInfo) (status : Bool) (object : MigrationPlan)
    (oldObject : Option MigrationPlan) : Bool :=
  (!status || (migrationplanStatusWriteAllowed user expectedSa (oldObject.bind (·.status)) object.status).isOk) &&
    (validateMigrationplan object oldObject).isEmpty

end AppRafter.Webhook
