import AppRafter.Lib.System
import AppRafter.Migration.Canonical
import AppRafter.Webhook.Phase

set_option autoImplicit false

namespace AppRafter.Migration

open Lib Webhook Option

-- A write of one plan as its author sends it.
inductive PlanWrite where
  | create (user : UserInfo) (plan : MigrationPlan)
  | update (user : UserInfo) (plan : MigrationPlan)
  | updateStatus (user : UserInfo) (status : Option MigrationPlanStatus)
  | delete

structure ApprovedContent where
  trigger : MigrationTrigger
  plan : Option (List MigrationStep)
deriving DecidableEq

def approvedContent (plan : MigrationPlan) : ApprovedContent := ⟨plan.spec.trigger, plan.spec.plan⟩

-- `approved` remembers what the plan said when it left pending-approval.
structure PlanRecord where
  plan : Option MigrationPlan
  approved : Option ApprovedContent

def pastPending : Option Phase → Bool
  | some .approved => true
  | some .executing => true
  | some .completed => true
  | some .failed => true
  | some .rejected => true
  | _ => false

def pastApproval (plan : MigrationPlan) : Bool := pastPending (plan.status.bind (·.phase))

-- A main-resource write cannot touch the status, a /status write nothing else.
def createdPlan (plan : MigrationPlan) : MigrationPlan := { plan with status := none }

def updatedPlan (old plan : MigrationPlan) : MigrationPlan := { plan with name := old.name, ns := old.ns, status := old.status }

def statusPlan (old : MigrationPlan) (status : Option MigrationPlanStatus) : MigrationPlan := { old with status := status }

section Writes

variable (expectedSa : String)

def writePlan (record : PlanRecord) : PlanWrite → Option PlanRecord
  | .create user plan =>
    match record.plan with
    | some _ => none
    | none =>
      if migrationplanAllowed expectedSa user false (createdPlan plan) none then
        some { plan := some (createdPlan plan), approved := none }
      else none
  | .update user plan =>
    record.plan.bind fun old =>
      if migrationplanAllowed expectedSa user false (updatedPlan old plan) (some old) then
        some { record with plan := some (updatedPlan old plan) }
      else none
  | .updateStatus user status =>
    record.plan.bind fun old =>
      if migrationplanAllowed expectedSa user true (statusPlan old status) (some old) then
        some
          { plan := some (statusPlan old status)
            approved :=
              if pastApproval (statusPlan old status) && !pastApproval old then some (approvedContent old)
              else record.approved }
      else none
  | .delete => record.plan.map fun _ => { plan := none, approved := none }

def planWrites : System PlanRecord PlanWrite where
  initial record := record = { plan := none, approved := none }
  step := writePlan expectedSa

-- An update of a plan past its approval resubmits the trigger and the steps.
def resubmits (record : PlanRecord) : PlanWrite → Bool
  | .update _ plan => record.plan.all fun old => !pastApproval old || approvedContent plan == approvedContent old
  | _ => true

def ContentKept (record : PlanRecord) : Prop :=
  ∀ plan, record.plan = some plan →
    record.approved = if pastApproval plan then some (approvedContent plan) else none

variable {before : PlanRecord} {write : PlanWrite}

theorem write_plan_cases {after : PlanRecord}
    (written : writePlan expectedSa before write = some after) :
    (∃ plan, after = { plan := some (createdPlan plan), approved := none }) ∨
    (∃ user old plan, write = .update user plan ∧ before.plan = some old ∧
      after = { before with plan := some (updatedPlan old plan) }) ∨
    (∃ user old status, before.plan = some old ∧
      migrationplanAllowed expectedSa user true (statusPlan old status) (some old) = true ∧
      after =
        { plan := some (statusPlan old status)
          approved :=
            if pastApproval (statusPlan old status) && !pastApproval old then some (approvedContent old)
            else before.approved }) ∨
    after = { plan := none, approved := none } := by
  cases write with
  | create user plan =>
    cases held : before.plan with
    | some old => simp [writePlan, held] at written
    | none =>
      by_cases allowed : migrationplanAllowed expectedSa user false (createdPlan plan) none = true
      · simp only [writePlan, held, allowed] at written
        exact .inl ⟨plan, (some.inj written).symm⟩
      · simp [writePlan, held, allowed] at written
  | update user plan =>
    obtain ⟨old, held, written⟩ := bind_eq_some_iff.mp written
    by_cases allowed : migrationplanAllowed expectedSa user false (updatedPlan old plan) (some old) = true
    · rw [if_pos allowed] at written
      exact .inr (.inl ⟨user, old, plan, rfl, held, (some.inj written).symm⟩)
    · rw [if_neg allowed] at written
      cases written
  | updateStatus user status =>
    obtain ⟨old, held, written⟩ := bind_eq_some_iff.mp written
    by_cases allowed : migrationplanAllowed expectedSa user true (statusPlan old status) (some old) = true
    · rw [if_pos allowed] at written
      exact .inr (.inr (.inl ⟨user, old, status, held, allowed, (some.inj written).symm⟩))
    · rw [if_neg allowed] at written
      cases written
  | delete =>
    obtain ⟨_, _, same⟩ := map_eq_some_iff.mp written
    exact .inr (.inr (.inr same.symm))

-- The phase order never leads back to pending-approval.
theorem past_pending_stays {oldPhase newPhase : Option Phase} {scope : ScopeType} (past : pastPending oldPhase = true)
    (admitted : phaseAdmitted oldPhase newPhase scope = true) : pastPending newPhase = true := by
  rw [phase_admitted_iff] at admitted
  cases oldPhase with
  | none => cases past
  | some old =>
    cases admitted with
    | inl same =>
      have known : phaseKnown (some old) = true := by cases old <;> first | rfl | cases past
      rw [← phase_of_text known same]
      exact past
    | inr moves =>
      cases newPhase with
      | none => cases old <;> simp_all [isAllowedPhaseTransition, phaseUnset, sealedPhase, pastPending]
      | some new =>
        cases old <;> cases new <;> simp_all [isAllowedPhaseTransition, phaseUnset, sealedPhase, pastPending]

theorem past_approval_stays {user : UserInfo} {old : MigrationPlan} {status : Option MigrationPlanStatus}
    (past : pastApproval old = true)
    (allowed : migrationplanAllowed expectedSa user true (statusPlan old status) (some old) = true) :
    pastApproval (statusPlan old status) = true := by
  simp only [migrationplanAllowed, validateMigrationplan, checkUpdate, Bool.and_eq_true, List.isEmpty_iff,
    List.append_eq_nil_iff] at allowed
  exact past_pending_stays past (List.isEmpty_iff.mpr allowed.2.2.2)

theorem write_keeps_content {after : PlanRecord} (kept : ContentKept before)
    (resubmitted : resubmits before write = true) (written : writePlan expectedSa before write = some after) :
    ContentKept after := by
  rcases write_plan_cases _ written with
    ⟨created, rfl⟩ | ⟨user, old, submitted, rfl, held, rfl⟩ | ⟨user, old, status, held, allowed, rfl⟩ | rfl
  · intro plan found
    cases some.inj found
    rfl
  · intro plan found
    cases some.inj found
    have approved := kept old held
    simp only [resubmits, held, all_some, Bool.or_eq_true, Bool.not_eq_true', beq_iff_eq] at resubmitted
    have same : pastApproval (updatedPlan old submitted) = pastApproval old := rfl
    rw [same, approved]
    by_cases past : pastApproval old = true
    · rw [if_pos past, if_pos past]
      cases resubmitted with
      | inl pending => exact absurd past (Bool.eq_false_iff.mp pending)
      | inr same => exact congrArg some same.symm
    · rw [if_neg past, if_neg past]
  · intro plan found
    cases some.inj found
    have approved := kept old held
    by_cases earlier : pastApproval old = true
    · have stays := past_approval_stays _ earlier allowed
      simp only [stays, earlier, approved]
      rfl
    · simp only [earlier, approved]
      by_cases past : pastApproval (statusPlan old status) = true
      · simp [past]
        rfl
      · simp [past]
  · intro plan found
    cases found

theorem content_kept {record : PlanRecord} (reachable : ((planWrites expectedSa).restrict resubmits).Reachable record) :
    ContentKept record := by
  refine System.invariant _ ContentKept ?_ ?_ record reachable
  · rintro _ rfl plan found
    cases found
  · intro before write after kept written
    obtain ⟨resubmitted, admitted⟩ := (planWrites expectedSa).restrict_step resubmits before after write written
    exact write_keeps_content _ kept resubmitted admitted

-- Past its approval a plan says what it said then, and opens the gate for nothing else.
theorem approved_content_consumed (sha256Hex : String → String) (record : PlanRecord)
    (reachable : ((planWrites expectedSa).restrict resubmits).Reachable record) :
    (∀ plan, record.plan = some plan → record.approved = if pastApproval plan then some (approvedContent plan) else none) ∧
    ∀ current changes, planState sha256Hex record.plan current changes = .completedMatch →
      ∃ approved, record.approved = some approved ∧ approved.trigger.approvedSpecHash = some (changeHash sha256Hex changes) ∧
        (Function.Injective sha256Hex → ∀ shown, approved.trigger.approvedSpecHash = some (changeHash sha256Hex shown) →
            (changes.map changeContent).Perm (shown.map changeContent)) := by
  have kept := content_kept expectedSa reachable
  refine ⟨kept, ?_⟩
  intro current changes matched
  obtain ⟨plan, held, completed, hash, stamped, _, same⟩ := plan_state_completed _ _ matched
  have past : pastApproval plan = true := by
    unfold MigrationPlan.phase at completed
    unfold pastApproval
    cases known : plan.status.bind (·.phase) with
    | none =>
      rw [known] at completed
      cases completed
    | some phase =>
      rw [known] at completed
      rw [show phase = .completed from completed]
      rfl
  have approved := kept plan held
  rw [if_pos past] at approved
  have carried : (approvedContent plan).trigger.approvedSpecHash = some (changeHash sha256Hex changes) := same ▸ stamped
  refine ⟨approvedContent plan, approved, carried, ?_⟩
  intro collisionFree shown stampedFor
  have hashes : changeHash sha256Hex changes = changeHash sha256Hex shown := some.inj (carried.symm.trans stampedFor)
  exact (canonical_changes_eq_iff _ _).mp (collisionFree hashes)

end Writes

def defaultOperatorSa : String := "system:serviceaccount:apprafter-system:apprafter-operator"

def operatorUser : UserInfo := { username := some defaultOperatorSa }

def memberUser : UserInfo := { username := some "mallory", groups := ["system:authenticated"] }

def oneReplicaText : String := "[[\"scale-to-zero\",\"replicas\",\"1\",\"0\"]]"

def replicaDigest (text : String) : String :=
  if text = oneReplicaText then "e190be598c106a1438fbe54c37df5032120b9744a6be3536f8c905ec4e124dba" else scaleDigest text

def scaleChange (replicas : String) : DestructiveChange := ⟨.scaleToZero, "replicas", some replicas, some "0", .requiresRestart⟩

def scalePlan (replicas hash : String) : MigrationPlan :=
  { name := "shop-migration-1"
    ns := "default"
    spec :=
      { scope := { type := .application, application := some ⟨⟨"shop", "default"⟩, "prod"⟩ }
        trigger :=
          { type := "scale-to-zero"
            field := "replicas"
            before := some replicas
            after := some "0"
            approvedSpecHash := some hash } } }

def onePlan : MigrationPlan := scalePlan "1" "e190be598c106a1438fbe54c37df5032120b9744a6be3536f8c905ec4e124dba"

def twoPlan : MigrationPlan := scalePlan "2" "c2c9eb0e78fd6b5fc2336674963e5d34d074117c87bd2098da3a0caa1bee6533"

def phaseWrite (user : UserInfo) (phase : Phase) : PlanWrite := .updateStatus user (some { phase := some phase })

def approvedRun (edit : List PlanWrite) : List PlanWrite :=
  [.create operatorUser onePlan, phaseWrite operatorUser .pendingApproval, phaseWrite memberUser .approved] ++ edit ++
    [phaseWrite operatorUser .executing, phaseWrite operatorUser .completed]

theorem approved_content_consumed_scale :
    ∃ record, ((planWrites defaultOperatorSa).restrict resubmits).Reachable record ∧
      planState replicaDigest record.plan (scaleChange "1") [scaleChange "1"] = .completedMatch ∧
      ∃ approved, record.approved = some approved ∧
        approved.trigger.approvedSpecHash = some (changeHash replicaDigest [scaleChange "1"]) := by
  have finished : (((planWrites defaultOperatorSa).restrict resubmits).run ⟨none, none⟩
      (approvedRun [.update memberUser { onePlan with labels := [("team", "shop")] }])).map
        (fun record => planState replicaDigest record.plan (scaleChange "1") [scaleChange "1"]) =
      some .completedMatch := by
    decide +kernel
  obtain ⟨record, ran, matched⟩ := map_eq_some_iff.mp finished
  have reachable := System.reachable_run _ ⟨none, none⟩ (.initial _ rfl) _ record ran
  obtain ⟨approved, found, stamped, _⟩ :=
    (approved_content_consumed defaultOperatorSa replicaDigest record reachable).2 _ _ matched
  exact ⟨record, reachable, matched, approved, found, stamped⟩

-- Whoever may edit plans swaps the trigger after the approval, and the gate opens for it.
theorem approved_content_swapped :
    ∃ record, (planWrites defaultOperatorSa).Reachable record ∧
      (∃ plan, record.plan = some plan ∧ pastApproval plan = true ∧
        record.approved = some (approvedContent onePlan) ∧ approvedContent plan ≠ approvedContent onePlan) ∧
      planState replicaDigest record.plan (scaleChange "2") [scaleChange "2"] = .completedMatch ∧
      (approvedContent onePlan).trigger.approvedSpecHash = some (changeHash replicaDigest [scaleChange "1"]) := by
  have finished : ((planWrites defaultOperatorSa).run ⟨none, none⟩ (approvedRun [.update memberUser twoPlan])).map
      (fun record => (record.plan.map pastApproval, record.plan.map approvedContent, record.approved,
        planState replicaDigest record.plan (scaleChange "2") [scaleChange "2"])) =
      some (some true, some (approvedContent twoPlan), some (approvedContent onePlan), .completedMatch) := by
    decide +kernel
  obtain ⟨record, ran, facts⟩ := map_eq_some_iff.mp finished
  obtain ⟨past, facts⟩ := Prod.mk.inj facts
  obtain ⟨content, facts⟩ := Prod.mk.inj facts
  obtain ⟨approved, matched⟩ := Prod.mk.inj facts
  have reachable := System.reachable_run _ ⟨none, none⟩ (.initial _ rfl) _ record ran
  refine ⟨record, reachable, ?_, matched, by decide +kernel⟩
  obtain ⟨plan, held, past⟩ := map_eq_some_iff.mp past
  rw [held] at content
  refine ⟨plan, held, past, approved, ?_⟩
  rw [some.inj content]
  decide

end AppRafter.Migration
