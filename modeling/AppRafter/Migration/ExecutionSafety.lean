import AppRafter.Migration.Execution

set_option autoImplicit false

namespace AppRafter.Migration

open Lib List Option

def isWrite : ExecutionRequest → Bool
  | .writeStatus _ => true
  | _ => false

def Unwritten (history : List (Exchange executionApi)) : Prop := ∀ exchange ∈ history, isWrite exchange.request = false

def rejectedAt (plan : MigrationPlan) : Option Nat := plan.status.bind (·.rejectedAt)

def StepRecorded (plan : MigrationPlan) (status : MigrationPlanStatus) : Prop :=
  ∃ step startedAt finishedAt outcome, (planSteps plan)[(executedSteps plan).length]? = some step ∧
    status = { plan.status.getD {} with
      phase := some (nextPhase (planSteps plan).length ((executedSteps plan).length + 1) outcome)
      executedSteps := some (executedSteps plan ++ [recordStep step startedAt finishedAt outcome]) }

def WriteAllowed (plan : MigrationPlan) (status : MigrationPlanStatus) : Prop :=
  (plan.phase = .approved ∧ status = withPhase plan.status .executing) ∨
  (plan.phase = .executing ∧ (planSteps plan)[(executedSteps plan).length]? = none ∧ status = withPhase plan.status .completed) ∨
  (plan.phase = .executing ∧ StepRecorded plan status) ∨
  (plan.phase = .rejected ∧ rejectedAt plan = none ∧ ∃ now, status = { plan.status.getD {} with rejectedAt := some now })

-- A pass writes once, at its end, and rejects only while no rejection is recorded.
def executionAllowed (start : PlanWorld) (history : List (Exchange executionApi)) : ExecutionRequest → Prop
  | .now => True
  | .executeStep _ => True
  | .reject => Unwritten history ∧ start.plan.phase = .rejected ∧ rejectedAt start.plan = none
  | .writeStatus status => Unwritten history ∧ WriteAllowed start.plan status

theorem unwritten_nil : Unwritten [] := List.forall_mem_nil _

theorem unwritten_append {history : List (Exchange executionApi)} {exchange : Exchange executionApi}
    (before : Unwritten history) (reads : isWrite exchange.request = false) : Unwritten (history ++ [exchange]) := by
  intro other member
  cases mem_append.mp member with
  | inl earlier => exact before other earlier
  | inr last => exact mem_singleton.mp last ▸ reads

theorem write_status_runs (start : PlanWorld) (history : List (Exchange executionApi)) (status : MigrationPlanStatus)
    (action : RequeueAfter) (unwritten : Unwritten history) (allowed : WriteAllowed start.plan status) :
    Prog.Runs (executionAllowed start) (fun _ _ => True) history (writeStatus status action) := by
  refine ⟨⟨unwritten, allowed⟩, ?_⟩
  intro response
  cases response with
  | ok _ => trivial
  | error why => trivial

variable {start world after : PlanWorld} {made : PlanChange} {status : MigrationPlanStatus}

theorem execute_next_step_runs (executing : start.plan.phase = .executing) :
    Prog.Runs (executionAllowed start) (fun _ _ => True) [] (executeNextStep start.plan) := by
  simp only [executeNextStep]
  cases next : (planSteps start.plan)[(executedSteps start.plan).length]? with
  | none => exact write_status_runs start [] _ _ unwritten_nil (.inr (.inl ⟨executing, next, rfl⟩))
  | some step =>
    refine ⟨trivial, fun startedAt => ⟨trivial, ?_⟩⟩
    intro outcome
    cases outcome with
    | error why => trivial
    | ok outcome =>
      refine ⟨trivial, fun finishedAt => ?_⟩
      apply write_status_runs
      · apply unwritten_append _ rfl
        apply unwritten_append _ rfl
        exact unwritten_append unwritten_nil rfl
      · refine .inr (.inr (.inl ⟨executing, step, startedAt, finishedAt, outcome, next, ?_⟩))
        rw [length_append, length_singleton]

theorem reject_once_runs (rejected : start.plan.phase = .rejected) :
    Prog.Runs (executionAllowed start) (fun _ _ => True) [] (rejectOnce start.plan) := by
  simp only [rejectOnce]
  cases recorded : start.plan.status.bind (·.rejectedAt) with
  | some at_ => trivial
  | none =>
    refine ⟨⟨unwritten_nil, rejected, recorded⟩, ?_⟩
    intro response
    cases response with
    | error why => trivial
    | ok _ =>
      refine ⟨trivial, fun now => ?_⟩
      apply write_status_runs
      · apply unwritten_append _ rfl
        exact unwritten_append unwritten_nil rfl
      · exact .inr (.inr (.inr ⟨rejected, recorded, now, rfl⟩))

theorem reconcile_runs (start : PlanWorld) : Prog.Runs (executionAllowed start) (fun _ _ => True) [] (reconcile start.plan) := by
  simp only [reconcile]
  cases pickStrategyKey start.plan.spec.scope.type with
  | error why => trivial
  | ok key =>
    cases phase : start.plan.phase with
    | pendingApproval => trivial
    | approved => exact write_status_runs start [] _ _ unwritten_nil (.inl ⟨phase, rfl⟩)
    | executing => exact execute_next_step_runs phase
    | rejected => exact reject_once_runs phase
    | completed => trivial
    | failed => trivial
    | other text outside => trivial

structure PlanSound (world : PlanWorld) : Prop where
  ordered : (executedSteps world.plan).map (·.step) <+: (planSteps world.plan).map (·.step)
  clean : world.phase ≠ some .failed → ∀ record ∈ executedSteps world.plan, record.outcome ≠ .failed
  complete : world.phase = some .completed → (executedSteps world.plan).length = (planSteps world.plan).length

-- What has become of the plan a pass in flight read, until it writes.
structure SameProgress (start world : PlanWorld) : Prop where
  executed : executedSteps world.plan = executedSteps start.plan
  steps : planSteps world.plan = planSteps start.plan
  recorded : rejectedAt world.plan = rejectedAt start.plan
  approved : start.plan.phase = .approved → world.phase = some .approved ∨ world.phase = some .executing
  executing : start.plan.phase = .executing → world.phase = some .executing
  rejected : start.plan.phase = .rejected → world.phase = some .rejected

def passLinked (start : PlanWorld) (record : List (PlanWorld × Exchange executionApi)) (world : PlanWorld) : Prop :=
  Unwritten (record.map Prod.snd) → SameProgress start world

theorem phase_set (world : PlanWorld) (phase : Phase) (set : phase ≠ .pendingApproval) (read : world.plan.phase = phase) :
    world.phase = some phase := by
  unfold MigrationPlan.phase at read
  simp only [PlanWorld.phase]
  cases known : world.plan.status.bind (·.phase) with
  | none =>
    rw [known] at read
    exact absurd read.symm set
  | some value =>
    rw [known] at read
    exact congrArg some read

theorem same_progress_start (world : PlanWorld) : SameProgress world world :=
  { executed := rfl
    steps := rfl
    recorded := rfl
    approved := fun phase => .inl (phase_set world .approved nofun phase)
    executing := phase_set world .executing nofun
    rejected := phase_set world .rejected nofun }

theorem set_status_executed (world : PlanWorld) (status : MigrationPlanStatus) :
    executedSteps (world.setStatus status).plan = status.executedSteps.getD [] := rfl

theorem executed_default (plan : MigrationPlan) : (plan.status.getD {}).executedSteps.getD [] = executedSteps plan := by
  simp only [executedSteps]
  cases plan.status with
  | none => rfl
  | some status => rfl

theorem rejected_default (plan : MigrationPlan) : (plan.status.getD {}).rejectedAt = rejectedAt plan := by
  simp only [rejectedAt]
  cases plan.status with
  | none => rfl
  | some status => rfl

theorem phase_default (world : PlanWorld) : (world.plan.status.getD {}).phase = world.phase := by
  simp only [PlanWorld.phase]
  cases world.plan.status with
  | none => rfl
  | some status => rfl

theorem phase_change_kept {phase : Phase}
    (admitted : Webhook.phaseAdmitted world.phase (some phase) world.scope = true) (open_ : phase ≠ .completed ∧ phase ≠ .failed) :
    (world.phase = some .approved → phase = .approved ∨ phase = .executing) ∧
    (world.phase = some .executing → phase = .executing) ∧ (world.phase = some .rejected → phase = .rejected) := by
  rw [Webhook.phase_admitted_iff] at admitted
  refine ⟨?_, ?_, ?_⟩
  · intro approved
    rw [approved] at admitted
    cases admitted with
    | inl same => exact .inl (some.inj (Webhook.phase_of_text rfl same)).symm
    | inr allowed => cases phase <;> simp_all [Webhook.isAllowedPhaseTransition, Webhook.phaseUnset, Webhook.sealedPhase]
  · intro executing
    rw [executing] at admitted
    cases admitted with
    | inl same => exact (some.inj (Webhook.phase_of_text rfl same)).symm
    | inr allowed => cases phase <;> simp_all [Webhook.isAllowedPhaseTransition, Webhook.phaseUnset, Webhook.sealedPhase]
  · intro rejected
    rw [rejected] at admitted
    cases admitted with
    | inl same => exact (some.inj (Webhook.phase_of_text rfl same)).symm
    | inr allowed => cases phase <;> simp_all [Webhook.isAllowedPhaseTransition, Webhook.phaseUnset, Webhook.sealedPhase]

theorem change_cases (changed : change world made = some after) :
    (∃ phase approvedAt approvedBy, Webhook.phaseAdmitted world.phase (some phase) world.scope = true ∧
      (phase ≠ .completed ∧ phase ≠ .failed) ∧ after = world.setStatus
        { world.plan.status.getD {} with phase := some phase, approvedAt := approvedAt, approvedBy := approvedBy }) ∨
    (∃ spec : MigrationPlanSpec, spec.scope = world.plan.spec.scope ∧ spec.plan = world.plan.spec.plan ∧
      after = { world with plan := { world.plan with spec := spec } }) := by
  cases made with
  | phase phase approvedAt approvedBy =>
    by_cases guard : Webhook.phaseAdmitted world.phase (some phase) world.scope = true ∧ (phase ≠ .completed ∧ phase ≠ .failed)
    · rw [change, if_pos guard] at changed
      exact .inl ⟨phase, approvedAt, approvedBy, guard.1, guard.2, (some.inj changed).symm⟩
    · rw [change, if_neg guard] at changed
      cases changed
  | edit spec =>
    by_cases guard : spec.scope = world.plan.spec.scope ∧ spec.plan = world.plan.spec.plan
    · rw [change, if_pos guard] at changed
      exact .inr ⟨spec, guard.1, guard.2, (some.inj changed).symm⟩
    · rw [change, if_neg guard] at changed
      cases changed

theorem change_keeps_sound (sound : PlanSound world) (changed : change world made = some after) : PlanSound after := by
  rcases change_cases changed with
    ⟨phase, approvedAt, approvedBy, admitted, open_, rfl⟩ | ⟨spec, _, steps, rfl⟩
  · refine ⟨?_, ?_, ?_⟩
    · rw [set_status_executed]
      exact (executed_default world.plan).symm ▸ sound.ordered
    · intro _
      rw [set_status_executed, executed_default]
      apply sound.clean
      intro failed
      have stays := Webhook.sealed_not_left (by rw [failed]; rfl) admitted
      exact open_.2 (some.inj (stays.trans failed))
    · intro completed
      exact absurd (some.inj completed) open_.1
  · have same : planSteps { world.plan with spec := spec } = planSteps world.plan := by unfold planSteps; rw [steps]
    exact ⟨same.symm ▸ sound.ordered, sound.clean, same.symm ▸ sound.complete⟩

theorem change_keeps_progress (same : SameProgress start world)
    (changed : change world made = some after) : SameProgress start after := by
  rcases change_cases changed with
    ⟨phase, approvedAt, approvedBy, admitted, open_, rfl⟩ | ⟨spec, _, steps, rfl⟩
  · obtain ⟨fromApproved, fromExecuting, fromRejected⟩ := phase_change_kept admitted open_
    refine ⟨?_, same.steps, ?_, ?_, ?_, ?_⟩
    · rw [← same.executed]
      exact executed_default world.plan
    · rw [← same.recorded]
      exact rejected_default world.plan
    · intro approved
      cases same.approved approved with
      | inl kept =>
        cases fromApproved kept with
        | inl stays => exact .inl (congrArg some stays)
        | inr moves => exact .inr (congrArg some moves)
      | inr moved => exact .inr (congrArg some (fromExecuting moved))
    · intro executing
      exact congrArg some (fromExecuting (same.executing executing))
    · intro rejected
      exact congrArg some (fromRejected (same.rejected rejected))
  · refine ⟨same.executed, ?_, same.recorded, same.approved, same.executing, same.rejected⟩
    rw [← same.steps]
    simp only [planSteps]
    rw [steps]

theorem next_phase_cases (steps executed : Nat) (outcome : StepOutcome) :
    (nextPhase steps executed outcome = .failed ∧ (recordOutcome outcome).1 = .failed) ∨
    (nextPhase steps executed outcome = .completed ∧ (recordOutcome outcome).1 ≠ .failed ∧ steps ≤ executed) ∨
    (nextPhase steps executed outcome = .executing ∧ (recordOutcome outcome).1 ≠ .failed) := by
  cases outcome with
  | failed message => exact .inl ⟨rfl, rfl⟩
  | succeeded | skipped =>
    by_cases last : executed ≥ steps
    · exact .inr (.inl ⟨if_pos last, nofun, last⟩)
    · exact .inr (.inr ⟨if_neg last, nofun⟩)

theorem write_admitted (same : SameProgress start world) (allowed : WriteAllowed start.plan status) :
    Webhook.phaseAdmitted world.phase status.phase world.scope = true := by
  rw [Webhook.phase_admitted_iff]
  rcases allowed with ⟨approved, rfl⟩ | ⟨executing, _, rfl⟩ | ⟨executing, step, _, _, outcome, _, rfl⟩ | ⟨rejected, _, now, rfl⟩
  · cases same.approved approved with
    | inl kept =>
      rw [kept]
      exact .inr (by simp [Webhook.isAllowedPhaseTransition, withPhase, Webhook.phaseUnset, Webhook.sealedPhase])
    | inr moved =>
      rw [moved]
      exact .inl rfl
  · rw [same.executing executing]
    exact .inr (by simp [Webhook.isAllowedPhaseTransition, withPhase, Webhook.phaseUnset, Webhook.sealedPhase])
  · rw [same.executing executing]
    rcases next_phase_cases (planSteps start.plan).length ((executedSteps start.plan).length + 1) outcome with
      ⟨next, _⟩ | ⟨next, _, _⟩ | ⟨next, _⟩
    · rw [next]
      exact .inr (by simp [Webhook.isAllowedPhaseTransition, Webhook.phaseUnset, Webhook.sealedPhase])
    · rw [next]
      exact .inr (by simp [Webhook.isAllowedPhaseTransition, Webhook.phaseUnset, Webhook.sealedPhase])
    · rw [next]
      exact .inl rfl
  · rw [same.rejected rejected, phase_default, phase_set start .rejected (by decide) rejected]
    exact .inl rfl

theorem append_next_prefix {α : Type} {done all : List α} {next : α} (begun : done <+: all)
    (found : all[done.length]? = some next) : done ++ [next] <+: all := by
  obtain ⟨rest, rfl⟩ := begun
  rw [getElem?_append_right (Nat.le_refl _), Nat.sub_self] at found
  cases rest with
  | nil => exact nomatch found
  | cons first more =>
    refine ⟨more, ?_⟩
    rw [← some.inj found, append_assoc]
    rfl

theorem write_keeps_sound (sound : PlanSound world) (same : SameProgress start world) (allowed : WriteAllowed start.plan status) :
    PlanSound (world.setStatus status) := by
  have steps : planSteps (world.setStatus status).plan = planSteps world.plan := rfl
  rcases allowed with ⟨approved, rfl⟩ | ⟨executing, last, rfl⟩ | ⟨executing, step, _, _, outcome, next, rfl⟩ |
    ⟨rejected, _, now, rfl⟩
  · have executed : executedSteps (world.setStatus (withPhase start.plan.status .executing)).plan =
        executedSteps world.plan := same.executed.symm ▸ executed_default start.plan
    refine ⟨executed.symm ▸ sound.ordered, ?_, nofun⟩
    intro _
    rw [executed]
    apply sound.clean
    cases same.approved approved with
    | inl kept => exact kept ▸ nofun
    | inr moved => exact moved ▸ nofun
  · have executed : executedSteps (world.setStatus (withPhase start.plan.status .completed)).plan =
        executedSteps world.plan := same.executed.symm ▸ executed_default start.plan
    have clean := sound.clean (same.executing executing ▸ nofun)
    refine ⟨executed.symm ▸ sound.ordered, fun _ => executed.symm ▸ clean, ?_⟩
    intro _
    rw [executed]
    have fits := sound.ordered.length_le
    rw [length_map, length_map] at fits
    rw [← same.executed, ← same.steps, List.getElem?_eq_none_iff] at last
    exact Nat.le_antisymm fits last
  · have clean := sound.clean (same.executing executing ▸ nofun)
    have begun := sound.ordered
    rw [same.executed, same.steps] at begun
    rw [same.executed] at clean
    refine ⟨?_, ?_, ?_⟩
    · rw [set_status_executed, steps, same.steps, getD_some, map_append]
      apply append_next_prefix begun
      rw [length_map, getElem?_map, next]
      rfl
    · intro going record member
      cases mem_append.mp member with
      | inl earlier => exact clean record earlier
      | inr latest =>
        rw [mem_singleton.mp latest]
        rcases next_phase_cases (planSteps start.plan).length ((executedSteps start.plan).length + 1) outcome with
          ⟨phase, _⟩ | ⟨_, fine, _⟩ | ⟨_, fine⟩
        · exact absurd (congrArg some phase) going
        · exact fine
        · exact fine
    · intro completed
      rw [set_status_executed, steps, same.steps, getD_some, length_append, length_singleton]
      have within : (executedSteps start.plan).length < (planSteps start.plan).length := by
        obtain ⟨bound, _⟩ := List.getElem?_eq_some_iff.mp next
        exact bound
      have phase : nextPhase (planSteps start.plan).length ((executedSteps start.plan).length + 1) outcome = .completed :=
        some.inj completed
      rcases next_phase_cases (planSteps start.plan).length ((executedSteps start.plan).length + 1) outcome with
        ⟨failed, _⟩ | ⟨_, _, reached⟩ | ⟨executing, _⟩
      · exact absurd (phase.symm.trans failed) nofun
      · omega
      · exact absurd (phase.symm.trans executing) nofun
  · have executed : executedSteps (world.setStatus { start.plan.status.getD {} with rejectedAt := some now }).plan =
        executedSteps world.plan := same.executed.symm ▸ executed_default start.plan
    have phase : (world.setStatus { start.plan.status.getD {} with rejectedAt := some now }).phase = some .rejected :=
      (phase_default start).trans (phase_set start .rejected nofun rejected)
    refine ⟨executed.symm ▸ sound.ordered, fun _ => ?_, fun completed => ?_⟩
    · rw [executed]
      exact sound.clean (same.rejected rejected ▸ nofun)
    · exact absurd (phase.symm.trans completed) nofun

theorem serve_keeps {record : List (PlanWorld × Exchange executionApi)}
    (fate : PlanFate) {request : ExecutionRequest} (sound : PlanSound world) (linked : passLinked start record world)
    (allowed : executionAllowed start (record.map Prod.snd) request) :
    PlanSound (serve world fate request).2 ∧
      passLinked start (record ++ [(world, (⟨request, (serve world fate request).1⟩ : Exchange executionApi))])
        (serve world fate request).2 := by
  have earlier : ∀ response : executionApi.Response request,
      Unwritten ((record ++ [(world, (⟨request, response⟩ : Exchange executionApi))]).map Prod.snd) →
        Unwritten (record.map Prod.snd) ∧ isWrite request = false := by
    intro response unwritten
    rw [map_append] at unwritten
    exact ⟨fun exchange member => unwritten exchange (mem_append_left _ member),
      unwritten ⟨request, response⟩ (mem_append_right _ mem_cons_self)⟩
  cases request with
  | now | executeStep => exact ⟨sound, fun unwritten => linked (earlier _ unwritten).1⟩
  | reject =>
    refine ⟨⟨sound.ordered, sound.clean, sound.complete⟩, fun unwritten => ?_⟩
    have same := linked (earlier _ unwritten).1
    exact ⟨same.executed, same.steps, same.recorded, same.approved, same.executing, same.rejected⟩
  | writeStatus status =>
    refine ⟨?_, fun unwritten => absurd (earlier _ unwritten).2 nofun⟩
    unfold serve
    dsimp only
    split
    · exact write_keeps_sound sound (linked allowed.1) allowed.2
    · exact sound

theorem plan_holds {state : Machine.State executionApi ExecutionError RequeueAfter PlanWorld}
    (reachable : planMachine.system.Reachable state) :
    Machine.Holds PlanSound passLinked executionAllowed state := by
  apply planMachine.holds_run (fun _ => True) (fun _ _ => True) PlanSound passLinked executionAllowed _ _ _ _ _ state
    (planMachine.run_of_reachable state reachable)
  · intro world ⟨unexecuted, _, open_, _⟩
    refine ⟨?_, ?_, fun completed => absurd completed open_⟩
    · rw [unexecuted]
      exact nil_prefix
    · rw [unexecuted]
      exact nofun
  · intro world made after sound changed
    exact change_keeps_sound sound changed
  · intro start record world made after _ linked changed unwritten
    exact change_keeps_progress (linked unwritten) changed
  · intro world _ _
    exact ⟨fun _ => same_progress_start world, reconcile_runs world⟩
  · intro pass world fate request rest sound linked _ allowed _
    exact serve_keeps fate sound linked allowed

abbrev ExecutionState := Machine.State executionApi ExecutionError RequeueAfter PlanWorld

abbrev ExecutionAction := Machine.Action PlanFate PlanChange

variable {before : ExecutionState} {action : ExecutionAction}

theorem sealed_step {after : ExecutionState} (sealed : Webhook.sealedPhase before.world.phase = true)
    (taken : planMachine.system.step before action = some after) : after.world.phase = before.world.phase := by
  rcases planMachine.step_cases before after action taken with
    ⟨made, changed, _⟩ | ⟨_, same, _⟩ | ⟨_, same⟩ | ⟨pass, request, rest, fate, _, _, _, served, _⟩
  · rcases change_cases changed with
      ⟨phase, _, _, admitted, _, same⟩ | ⟨spec, _, _, same⟩
    · rw [same]
      exact Webhook.sealed_not_left sealed admitted
    · rw [same]
      rfl
  · rw [same]
  · rw [same]
  · rw [served]
    cases request with
    | now => rfl
    | executeStep step => rfl
    | reject => rfl
    | writeStatus status =>
      change (serve before.world fate (.writeStatus status)).2.phase = _
      unfold serve
      dsimp only
      split
      · rename_i written
        rw [Bool.and_eq_true] at written
        exact Webhook.sealed_not_left sealed written.1
      · rfl

theorem written_rejection (same : SameProgress start world)
    (allowed : WriteAllowed start.plan status) (recorded : (rejectedAt world.plan).isSome = true) :
    status.rejectedAt.isSome = true := by
  have kept : (start.plan.status.getD {}).rejectedAt.isSome = true := by
    rw [rejected_default, ← same.recorded]
    exact recorded
  rcases allowed with ⟨_, rfl⟩ | ⟨_, _, rfl⟩ | ⟨_, _, _, _, _, _, rfl⟩ | ⟨_, _, now, rfl⟩
  · exact kept
  · exact kept
  · exact kept
  · rfl

theorem rejection_step {after : ExecutionState}
    (reachable : planMachine.system.Reachable before) (recorded : (rejectedAt before.world.plan).isSome = true)
    (taken : planMachine.system.step before action = some after) :
    after.world.rejects = before.world.rejects ∧ (rejectedAt after.world.plan).isSome = true := by
  obtain ⟨_, flight⟩ := plan_holds reachable
  rcases planMachine.step_cases before after action taken with
    ⟨made, changed, _⟩ | ⟨_, same, _⟩ | ⟨_, same⟩ | ⟨pass, request, rest, fate, _, running, waiting, served, _⟩
  · rcases change_cases changed with ⟨phase, _, _, _, _, same⟩ | ⟨spec, _, _, same⟩
    · rw [same]
      refine ⟨rfl, ?_⟩
      change (before.world.plan.status.getD {}).rejectedAt.isSome = true
      rw [rejected_default]
      exact recorded
    · rw [same]
      exact ⟨rfl, recorded⟩
  · rw [same]
    exact ⟨rfl, recorded⟩
  · rw [same]
    exact ⟨rfl, recorded⟩
  · obtain ⟨linked, runs⟩ := flight pass running
    rw [waiting] at runs
    rw [served]
    cases request with
    | now | executeStep => exact ⟨rfl, recorded⟩
    | reject =>
      obtain ⟨unwritten, _, unrecorded⟩ := runs.1
      rw [(linked unwritten).recorded, unrecorded] at recorded
      exact absurd recorded Bool.false_ne_true
    | writeStatus status =>
      change (serve before.world fate (.writeStatus status)).2.rejects = _ ∧
        (rejectedAt (serve before.world fate (.writeStatus status)).2.plan).isSome = true
      unfold serve
      dsimp only
      split
      · exact ⟨rfl, written_rejection (linked runs.1.1) runs.1.2 recorded⟩
      · exact ⟨rfl, recorded⟩

theorem migration_execution (state : ExecutionState) (reachable : planMachine.system.Reachable state) :
    ((executedSteps state.world.plan).map (·.step) <+: (planSteps state.world.plan).map (·.step)) ∧
    (state.world.phase = some .completed →
      (executedSteps state.world.plan).map (·.step) = (planSteps state.world.plan).map (·.step) ∧
        ∀ record ∈ executedSteps state.world.plan, record.outcome ≠ .failed) ∧
    (Webhook.sealedPhase state.world.phase = true → ∀ actions later,
      planMachine.system.run state actions = some later → later.world.phase = state.world.phase) ∧
    ((rejectedAt state.world.plan).isSome = true → ∀ actions later,
      planMachine.system.run state actions = some later → later.world.rejects = state.world.rejects) ∧
    (∀ pass ∈ state.pass, ∀ status next, pass.prog = .call (.writeStatus status) next →
      Webhook.phaseAdmitted state.world.phase status.phase state.world.scope = true) := by
  obtain ⟨sound, flight⟩ := plan_holds reachable
  refine ⟨sound.ordered, ?_, ?_, ?_, ?_⟩
  · intro completed
    refine ⟨sound.ordered.eq_of_length ?_, sound.clean (completed ▸ nofun)⟩
    rw [length_map, length_map]
    exact sound.complete completed
  · intro sealed actions later finished
    refine planMachine.system.run_keeps (fun other => other.world.phase = state.world.phase) ?_ state reachable rfl
      actions later finished
    intro before action after _ same taken
    rw [← same] at sealed
    exact (sealed_step sealed taken).trans same
  · intro recorded actions later finished
    refine (planMachine.system.run_keeps (fun other => other.world.rejects = state.world.rejects ∧
      (rejectedAt other.world.plan).isSome = true) ?_ state reachable ⟨rfl, recorded⟩ actions later finished).1
    intro before action after reached ⟨same, known⟩ taken
    obtain ⟨rejects, still⟩ := rejection_step reached known taken
    exact ⟨rejects.trans same, still⟩
  · intro pass running status next waiting
    obtain ⟨linked, runs⟩ := flight pass running
    rw [waiting] at runs
    exact write_admitted (linked runs.1.1) runs.1.2

def twoStepPlan : PlanWorld :=
  { plan :=
      { name := "stack-upgrade"
        ns := "apprafter-system"
        spec :=
          { scope := { type := .platform }
            trigger := { type := "major-upgrade", field := "spec.pin" }
            plan := some [{ step := 1, action := "drain" }, { step := 2, action := "upgrade" }] } }
    rejects := 0 }

def smooth (time : Nat) : PlanFate := ⟨time, .ok .succeeded, .ok (), true, true⟩

-- The first step's pass crashes before the record and runs again.
def twoStepRun : List ExecutionAction :=
  [.change (.phase .approved none none), .begin, .reply (smooth 1), .abandon,
    .begin, .reply (smooth 2), .reply (smooth 3), .abandon,
    .begin, .reply (smooth 4), .reply (smooth 5), .reply (smooth 6), .reply (smooth 7), .abandon,
    .begin, .reply (smooth 8), .reply (smooth 9), .reply (smooth 10), .abandonServed (smooth 11)]

theorem migration_execution_two_steps :
    ∃ state, planMachine.system.Reachable state ∧ state.world.phase = some .completed ∧
      (executedSteps state.world.plan).map (·.step) = [1, 2] := by
  have finished : (planMachine.system.run ⟨twoStepPlan, none⟩ twoStepRun).map
      (fun state => (state.world.phase, (planSteps state.world.plan).map (·.step))) = some (some .completed, [1, 2]) := by
    decide +kernel
  obtain ⟨state, reachable, facts⟩ := System.run_shows _ finished ⟨⟨rfl, rfl, nofun, nofun⟩, rfl⟩
  have completed : state.world.phase = some .completed := congrArg Prod.fst facts
  refine ⟨state, reachable, completed, ?_⟩
  rw [((migration_execution state reachable).2.1 completed).1]
  exact congrArg Prod.snd facts

end AppRafter.Migration
