import AppRafter.Lib.Fleet
import AppRafter.Migration.Approval
import AppRafter.Migration.ExecutionSafety

set_option autoImplicit false

namespace AppRafter.Migration

open Lib Webhook List Option

-- `versions` are the plan's so far; a watch cache may still serve any of them.
structure StaleWorld where
  live : PlanWorld
  versions : List MigrationPlan

structure StaleJob where
  pass : Nat
  version : MigrationPlan

def StaleWorld.moved (world : StaleWorld) (live : PlanWorld) : StaleWorld := ⟨live, live.plan :: world.versions⟩

-- An edit may change anything of the spec but its scope.
def editPlan (world : PlanWorld) (spec : MigrationPlanSpec) : Option PlanWorld :=
  if spec.scope = world.plan.spec.scope then some { world with plan := { world.plan with spec := spec } } else none

def changePlan (world : PlanWorld) : PlanChange → Option PlanWorld
  | .phase phase approvedAt approvedBy => change world (.phase phase approvedAt approvedBy)
  | .edit spec => editPlan world spec

def staleServe (world : StaleWorld) (fate : PlanFate) (request : ExecutionRequest) : executionApi.Response request × StaleWorld :=
  ((serve world.live fate request).1, world.moved (serve world.live fate request).2)

-- Passes overlap in any way, each on some version the plan has had.
def staleFleet : Fleet executionApi ExecutionError RequeueAfter StaleWorld Nat StaleJob PlanFate PlanChange where
  initial world := freshPlan world.live ∧ world.versions = [world.live.plan]
  key job := job.pass
  begin world job := if job.version ∈ world.versions then some (world, reconcile job.version) else none
  serve := staleServe
  lingers _ := false
  change world made := (changePlan world.live made).map world.moved

abbrev StaleState := Fleet.State executionApi ExecutionError RequeueAfter StaleWorld Nat StaleJob

abbrev StaleAction := Fleet.Action Nat StaleJob PlanFate PlanChange

abbrev StaleEvent := Fleet.Event executionApi StaleJob PlanChange

-- Steps and status writes go by a version with the recorded steps; approved plans keep theirs.
def actsOnRecorded (world : StaleWorld) : StaleEvent → Bool
  | .change (.edit spec) => !pastApproval world.live.plan || spec.plan == world.live.plan.spec.plan
  | .serve job (.executeStep _) => executedSteps job.version == executedSteps world.live.plan
  | .serve job (.writeStatus status) =>
    !phaseAdmitted world.live.phase status.phase world.live.scope || executedSteps job.version == executedSteps world.live.plan
  | _ => true

def staleMonitor : Monitor executionApi StaleJob Unit where
  first _ := ()
  next _ _ _ := ()
  allowed job _ request := match request with
    | .executeStep step => job.version.phase = .executing ∧
        (planSteps job.version)[(executedSteps job.version).length]? = some step
    | .writeStatus status => WriteAllowed job.version status
    | _ => True

theorem write_status_follows (job : StaleJob) (status : MigrationPlanStatus) (action : RequeueAfter)
    (allowed : WriteAllowed job.version status) :
    staleMonitor.Follows job (fun _ _ => True) () (writeStatus status action) := by
  refine ⟨allowed, ?_⟩
  intro response
  cases response with
  | ok _ => trivial
  | error why => trivial

variable {job : StaleJob} {plan : MigrationPlan} {status : MigrationPlanStatus} {world : StaleWorld}
  {live : PlanWorld} {made : PlanChange} {before : StaleState} {action : StaleAction}

theorem execute_next_step_follows (executing : job.version.phase = .executing) :
    staleMonitor.Follows job (fun _ _ => True) () (executeNextStep job.version) := by
  simp only [executeNextStep]
  cases next : (planSteps job.version)[(executedSteps job.version).length]? with
  | none => exact write_status_follows job _ _ (.inr (.inl ⟨executing, next, rfl⟩))
  | some step =>
    refine ⟨trivial, fun startedAt => ⟨⟨executing, next⟩, ?_⟩⟩
    intro outcome
    cases outcome with
    | error why => trivial
    | ok outcome =>
      refine ⟨trivial, fun finishedAt => ?_⟩
      apply write_status_follows
      refine .inr (.inr (.inl ⟨executing, step, startedAt, finishedAt, outcome, next, ?_⟩))
      rw [length_append, length_singleton]

theorem reject_once_follows (rejected : job.version.phase = .rejected) :
    staleMonitor.Follows job (fun _ _ => True) () (rejectOnce job.version) := by
  simp only [rejectOnce]
  cases recorded : job.version.status.bind (·.rejectedAt) with
  | some at_ => trivial
  | none =>
    refine ⟨trivial, ?_⟩
    intro response
    cases response with
    | error why => trivial
    | ok _ =>
      refine ⟨trivial, fun now => ?_⟩
      exact write_status_follows job _ _ (.inr (.inr (.inr ⟨rejected, recorded, now, rfl⟩)))

theorem reconcile_follows (job : StaleJob) : staleMonitor.Follows job (fun _ _ => True) () (reconcile job.version) := by
  simp only [reconcile]
  cases pickStrategyKey job.version.spec.scope.type with
  | error why => trivial
  | ok key =>
    cases phase : job.version.phase with
    | pendingApproval => trivial
    | approved => exact write_status_follows job _ _ (.inl ⟨phase, rfl⟩)
    | executing => exact execute_next_step_follows phase
    | rejected => exact reject_once_follows phase
    | completed => trivial
    | failed => trivial
    | other text outside => trivial

theorem past_of_phase {phase : Phase} (past : pastPending (some phase) = true)
    (read : plan.phase = phase) : pastApproval plan = true := by
  have unset : phase ≠ .pendingApproval := by
    intro pending
    rw [pending] at past
    cases past
  have known : plan.status.bind (·.phase) = some phase := phase_set ⟨plan, 0⟩ phase unset read
  rw [pastApproval, known]
  exact past

theorem write_allowed_past (allowed : WriteAllowed plan status) : pastApproval plan = true := by
  rcases allowed with ⟨phase, _⟩ | ⟨phase, _⟩ | ⟨phase, _⟩ | ⟨phase, _⟩
  · exact past_of_phase rfl phase
  · exact past_of_phase rfl phase
  · exact past_of_phase rfl phase
  · exact past_of_phase rfl phase

theorem write_allowed_executed (allowed : WriteAllowed plan status) : status.executedSteps.getD [] = executedSteps plan ∨
      ∃ step startedAt finishedAt outcome, (planSteps plan)[(executedSteps plan).length]? = some step ∧
        status.executedSteps.getD [] = executedSteps plan ++ [recordStep step startedAt finishedAt outcome] := by
  rcases allowed with ⟨_, rfl⟩ | ⟨_, _, rfl⟩ | ⟨_, step, startedAt, finishedAt, outcome, next, rfl⟩ | ⟨_, _, now, rfl⟩
  · exact .inl (executed_default plan)
  · exact .inl (executed_default plan)
  · exact .inr ⟨step, startedAt, finishedAt, outcome, next, rfl⟩
  · exact .inl (executed_default plan)

structure StaleSound (world : StaleWorld) : Prop where
  settled : ∀ version ∈ world.versions, pastApproval version = true →
    pastApproval world.live.plan = true ∧ planSteps version = planSteps world.live.plan
  ordered : (executedSteps world.live.plan).map (·.step) <+: (planSteps world.live.plan).map (·.step)
  unstarted : pastApproval world.live.plan = false → executedSteps world.live.plan = []

theorem moved_sound (sound : StaleSound world) (stays : pastApproval world.live.plan = true →
      pastApproval live.plan = true ∧ planSteps live.plan = planSteps world.live.plan)
    (ordered : (executedSteps live.plan).map (·.step) <+: (planSteps live.plan).map (·.step))
    (unstarted : pastApproval live.plan = false → executedSteps live.plan = []) : StaleSound (world.moved live) := by
  refine ⟨?_, ordered, unstarted⟩
  intro version member past
  cases mem_cons.mp member with
  | inl same =>
    rw [same] at past ⊢
    exact ⟨past, rfl⟩
  | inr earlier =>
    obtain ⟨gone, steps⟩ := sound.settled version earlier past
    obtain ⟨still, same⟩ := stays gone
    exact ⟨still, steps.trans same.symm⟩

theorem edited_sound {spec : MigrationPlanSpec} (sound : StaleSound world)
    (kept : pastApproval world.live.plan = true → spec.plan = world.live.plan.spec.plan) :
    StaleSound (world.moved { world.live with plan := { world.live.plan with spec := spec } }) := by
  by_cases past : pastApproval world.live.plan = true
  · have steps : planSteps { world.live.plan with spec := spec } = planSteps world.live.plan := by
      unfold planSteps
      rw [kept past]
    refine moved_sound sound (fun _ => ⟨past, steps⟩) ?_ sound.unstarted
    rw [steps]
    exact sound.ordered
  · refine moved_sound sound (fun gone => absurd gone past) ?_ sound.unstarted
    change (executedSteps world.live.plan).map _ <+: _
    rw [sound.unstarted (Bool.not_eq_true _ ▸ past)]
    exact nil_prefix

theorem phase_moved_sound (sound : StaleSound world)
    (admitted : phaseAdmitted world.live.phase status.phase world.live.scope = true)
    (executed : status.executedSteps.getD [] = executedSteps world.live.plan) :
    StaleSound (world.moved (world.live.setStatus status)) := by
  have stays : pastApproval world.live.plan = true → pastPending status.phase = true := fun past =>
    past_pending_stays past admitted
  have same : executedSteps (world.live.setStatus status).plan = executedSteps world.live.plan := executed
  refine moved_sound sound (fun past => ⟨stays past, rfl⟩) (same.symm ▸ sound.ordered) ?_
  intro pending
  rw [same]
  apply sound.unstarted
  by_contra past
  rw [Bool.not_eq_false] at past
  exact absurd (stays past) (Bool.eq_false_iff.mp pending)

theorem change_stale_sound {after : StaleWorld} (sound : StaleSound world)
    (permitted : actsOnRecorded world (.change made) = true) (changed : staleFleet.change world made = some after) :
    StaleSound after ∧ executedSteps after.live.plan = executedSteps world.live.plan ∧
      (∀ version ∈ world.versions, version ∈ after.versions) := by
  obtain ⟨live, moved, rfl⟩ := map_eq_some_iff.mp changed
  refine ⟨?_, ?_, fun version member => mem_cons_of_mem _ member⟩
  · cases made with
    | phase phase approvedAt approvedBy =>
      change change world.live (.phase phase approvedAt approvedBy) = some live at moved
      rcases change_cases moved with ⟨next, _, _, admitted, _, rfl⟩ | ⟨spec, _, steps, rfl⟩
      · exact phase_moved_sound sound admitted (executed_default world.live.plan)
      · exact edited_sound sound fun _ => steps
    | edit spec =>
      by_cases same : spec.scope = world.live.plan.spec.scope
      · simp only [changePlan, editPlan, if_pos same] at moved
        cases some.inj moved
        apply edited_sound sound
        intro past
        simpa [actsOnRecorded, past] using permitted
      · simp [changePlan, editPlan, same] at moved
  · cases made with
    | phase phase approvedAt approvedBy =>
      change change world.live (.phase phase approvedAt approvedBy) = some live at moved
      rcases change_cases moved with ⟨next, _, _, _, _, rfl⟩ | ⟨spec, _, _, rfl⟩
      · exact executed_default world.live.plan
      · rfl
    | edit spec =>
      by_cases same : spec.scope = world.live.plan.spec.scope
      · simp only [changePlan, editPlan, if_pos same] at moved
        cases some.inj moved
        rfl
      · simp [changePlan, editPlan, same] at moved

-- Where a write lands its version has the recorded steps, so the list grows.
theorem write_stale_sound (sound : StaleSound world)
    (known : job.version ∈ world.versions) (allowed : WriteAllowed job.version status)
    (admitted : phaseAdmitted world.live.phase status.phase world.live.scope = true)
    (current : executedSteps job.version = executedSteps world.live.plan) :
    StaleSound (world.moved (world.live.setStatus status)) ∧
      executedSteps world.live.plan <+: executedSteps (world.live.setStatus status).plan := by
  obtain ⟨past, steps⟩ := sound.settled job.version known (write_allowed_past allowed)
  rcases write_allowed_executed allowed with same | ⟨step, startedAt, finishedAt, outcome, next, grown⟩
  · have executed := same.trans current
    exact ⟨phase_moved_sound sound admitted executed, ⟨[], (append_nil _).trans executed.symm⟩⟩
  · rw [steps, current] at next
    rw [current] at grown
    have recorded : executedSteps (world.live.setStatus status).plan =
        executedSteps world.live.plan ++ [recordStep step startedAt finishedAt outcome] := grown
    refine ⟨?_, ⟨_, recorded.symm⟩⟩
    refine moved_sound sound (fun _ => ⟨?_, rfl⟩) ?_ ?_
    · exact past_pending_stays past admitted
    · rw [recorded, map_append]
      apply append_next_prefix sound.ordered
      rw [length_map, getElem?_map, next]
      rfl
    · intro pending
      have stays := past_pending_stays past admitted
      exact absurd stays (Bool.eq_false_iff.mp pending)

theorem serve_stale_sound (fate : PlanFate) {request : ExecutionRequest}
    (sound : StaleSound world) (known : job.version ∈ world.versions) (allowed : staleMonitor.allowed job () request)
    (permitted : actsOnRecorded world (.serve job request) = true) :
    StaleSound (staleServe world fate request).2 ∧
      executedSteps world.live.plan <+: executedSteps (staleServe world fate request).2.live.plan := by
  have unmoved : ∀ live : PlanWorld, live.plan = world.live.plan →
      StaleSound (world.moved live) ∧ executedSteps world.live.plan <+: executedSteps live.plan := by
    intro live same
    refine ⟨moved_sound sound ?_ (same.symm ▸ sound.ordered) (same.symm ▸ sound.unstarted), ?_⟩
    · intro past
      exact ⟨same.symm ▸ past, by rw [same]⟩
    · exact same ▸ prefix_refl _
  cases request with
  | now | executeStep | reject => exact unmoved _ rfl
  | writeStatus status =>
    by_cases written : (phaseAdmitted world.live.phase status.phase world.live.scope && fate.committed) = true
    · have served : (staleServe world fate (.writeStatus status)).2 = world.moved (world.live.setStatus status) := by
        simp [staleServe, serve, written]
      rw [served]
      have admitted := (Bool.and_eq_true _ _ ▸ written).1
      refine write_stale_sound sound known allowed admitted ?_
      simpa [actsOnRecorded, admitted] using permitted
    · have served : (staleServe world fate (.writeStatus status)).2 = world.moved world.live := by
        simp [staleServe, serve, written]
      rw [served]
      exact unmoved _ rfl

structure StaleInv (board : Board executionApi StaleWorld Nat StaleJob Unit) : Prop where
  sound : StaleSound board.world
  known : ∀ key job mark, board.mark key = some (job, mark) → job.version ∈ board.world.versions
  none_late : board.late = []

theorem stale_keeps : staleFleet.Keeps staleMonitor actsOnRecorded StaleInv where
  changes board made world holds permitted changed := by
    obtain ⟨sound, _, grown⟩ := change_stale_sound holds.sound permitted changed
    exact ⟨sound, fun key job mark found => grown _ (holds.known key job mark found), holds.none_late⟩
  begins board job world prog holds _ _ begun := by
    by_cases known : job.version ∈ board.world.versions
    · simp only [staleFleet, if_pos known, some.injEq, Prod.mk.injEq] at begun
      rw [← begun.1]
      refine ⟨holds.sound, ?_, holds.none_late⟩
      apply Board.marks_set board.mark job.pass _ (fun _ other _ => other.version ∈ board.world.versions)
      · intro key other mark _ found
        exact holds.known key other mark found
      · intro other mark started
        cases some.inj started
        exact known
    · simp [staleFleet, known] at begun
  serves board job mark request fate holds marked allowed permitted := by
    have known := holds.known _ job mark marked
    refine ⟨(serve_stale_sound fate holds.sound known allowed permitted).1, ?_, holds.none_late⟩
    apply Board.marks_set board.mark job.pass _
      (fun _ other _ => other.version ∈ (staleServe board.world fate request).2.versions)
    · intro key other later _ found
      exact mem_cons_of_mem _ (holds.known key other later found)
    · intro other later served
      cases some.inj served
      exact mem_cons_of_mem _ known
  drops board key holds := by
    refine ⟨holds.sound, ?_, holds.none_late⟩
    apply Board.marks_set board.mark key none (fun _ other _ => other.version ∈ board.world.versions)
    · intro key other mark _ found
      exact holds.known key other mark found
    · intro other mark dropped
      cases dropped
  leaves board job mark request _ _ _ lingers := by cases lingers
  commits board index job request fate holds found _ := by
    rw [holds.none_late] at found
    cases found

theorem stale_sound {state : StaleState} (reachable : (staleFleet.obeying actsOnRecorded).Reachable state) :
    StaleInv (Fleet.board staleMonitor state) ∧ staleFleet.Followed staleMonitor state := by
  refine staleFleet.keeps_reachable staleMonitor actsOnRecorded StaleInv stale_keeps ?_ ?_ state reachable
  · intro world job after prog _ begun
    by_cases known : job.version ∈ world.versions
    · simp only [staleFleet, if_pos known, some.injEq, Prod.mk.injEq] at begun
      rw [← begun.2]
      exact reconcile_follows job
    · simp [staleFleet, known] at begun
  · intro world ⟨⟨unexecuted, _⟩, only⟩
    refine ⟨⟨?_, ?_, fun _ => unexecuted⟩, ?_, rfl⟩
    · intro version member past
      rw [only, mem_singleton] at member
      rw [member] at past ⊢
      exact ⟨past, rfl⟩
    · rw [unexecuted]
      exact nil_prefix
    · intro key job mark found
      cases found

theorem changed_phase {world : PlanWorld} (changed : changePlan world made = some live) :
    phaseAdmitted world.phase live.phase world.scope = true ∨ live.phase = world.phase := by
  cases made with
  | phase phase approvedAt approvedBy =>
    change change world (.phase phase approvedAt approvedBy) = some live at changed
    rcases change_cases changed with ⟨next, _, _, admitted, _, rfl⟩ | ⟨spec, _, _, rfl⟩
    · exact .inl admitted
    · exact .inr rfl
  | edit spec =>
    by_cases same : spec.scope = world.plan.spec.scope
    · simp only [changePlan, editPlan, if_pos same] at changed
      cases some.inj changed
      exact .inr rfl
    · simp [changePlan, editPlan, same] at changed

theorem served_phase (world : PlanWorld) (fate : PlanFate) (request : ExecutionRequest) :
    phaseAdmitted world.phase (serve world fate request).2.phase world.scope = true ∨
      (serve world fate request).2.phase = world.phase := by
  cases request with
  | now => exact .inr rfl
  | executeStep step => exact .inr rfl
  | reject => exact .inr rfl
  | writeStatus status =>
    by_cases written : (phaseAdmitted world.phase status.phase world.scope && fate.committed) = true
    · simp only [serve, if_pos written]
      exact .inl (Bool.and_eq_true _ _ ▸ written).1
    · rw [serve, if_neg written]
      exact .inr rfl

theorem sealed_stays {after : StaleState}
    (sealed : sealedPhase before.world.live.phase = true) (taken : staleFleet.step before action = some after) :
    after.world.live.phase = before.world.live.phase := by
  have held : ∀ live : PlanWorld, phaseAdmitted before.world.live.phase live.phase before.world.live.scope = true ∨
      live.phase = before.world.live.phase → live.phase = before.world.live.phase := by
    intro live moved
    cases moved with
    | inl admitted => exact sealed_not_left sealed admitted
    | inr same => exact same
  rcases staleFleet.step_world before after action taken with
    ⟨made, _, changed⟩ | ⟨job, prog, _, begun⟩ | ⟨key, fate, pass, request, next, _, _, _, served⟩ |
      ⟨index, fate, job, request, _, _, served⟩ | ⟨_, same⟩
  · obtain ⟨live, moved, same⟩ := map_eq_some_iff.mp changed
    rw [← same]
    exact held live (changed_phase moved)
  · by_cases known : job.version ∈ before.world.versions
    · simp only [staleFleet, if_pos known, some.injEq, Prod.mk.injEq] at begun
      rw [begun.1]
    · simp [staleFleet, known] at begun
  · rw [served]
    exact held _ (served_phase before.world.live fate request)
  · rw [served]
    exact held _ (served_phase before.world.live fate request)
  · rw [same]

theorem recorded_step {after : StaleState} (reachable : (staleFleet.obeying actsOnRecorded).Reachable before)
    (taken : (staleFleet.obeying actsOnRecorded).step before action = some after) :
    executedSteps before.world.live.plan <+: executedSteps after.world.live.plan ∧
    ∀ job step, Fleet.event before action = some (.serve job (.executeStep step)) →
      (executedSteps before.world.live.plan).map (·.step) ++ [step.step] <+: (planSteps before.world.live.plan).map (·.step) := by
  obtain ⟨moved, permitted⟩ := staleFleet.obeying_step actsOnRecorded before after action taken
  obtain ⟨inv, followed⟩ := stale_sound reachable
  have sound : StaleSound before.world := inv.sound
  rcases staleFleet.step_world before after action moved with
    ⟨made, happens, changed⟩ | ⟨job, prog, happens, begun⟩ | ⟨key, fate, pass, request, next, happens, running, asks, served⟩ |
      ⟨index, fate, job, request, _, late, _⟩ | ⟨happens, same⟩
  · refine ⟨?_, fun job step executes => ?_⟩
    · have steps := (change_stale_sound inv.sound (permitted _ happens) changed).2.1
      exact steps ▸ prefix_refl _
    · rw [happens] at executes
      cases executes
  · refine ⟨?_, fun job step executes => ?_⟩
    · by_cases known : job.version ∈ before.world.versions
      · simp only [staleFleet, if_pos known, some.injEq, Prod.mk.injEq] at begun
        exact begun.1 ▸ prefix_refl _
      · simp [staleFleet, known] at begun
    · rw [happens] at executes
      cases executes
  · obtain ⟨_, follows⟩ := followed key pass running
    have known : pass.job.version ∈ before.world.versions := inv.known key pass.job () (by simp [Fleet.board, running])
    rw [asks] at follows
    have allowed := permitted _ happens
    refine ⟨?_, fun job step executes => ?_⟩
    · rw [served]
      exact (serve_stale_sound fate inv.sound known follows.1 allowed).2
    · rw [happens] at executes
      injection executes with executes
      injection executes with same executed
      subst executed
      obtain ⟨phase, found⟩ := follows.1
      obtain ⟨_, steps⟩ := sound.settled _ known (past_of_phase rfl phase)
      have current : executedSteps pass.job.version = executedSteps before.world.live.plan := by
        simpa [actsOnRecorded] using allowed
      rw [steps, current] at found
      apply append_next_prefix sound.ordered
      rw [length_map, getElem?_map, found]
      rfl
  · have empty : before.late = [] := inv.none_late
    rw [empty] at late
    cases late
  · refine ⟨same ▸ prefix_refl _, fun job step executes => ?_⟩
    rw [happens] at executes
    cases executes

theorem recorded_steps_kept (state later : StaleState) (reachable : (staleFleet.obeying actsOnRecorded).Reachable state)
    (actions : List StaleAction) (ran : (staleFleet.obeying actsOnRecorded).run state actions = some later) :
    (sealedPhase state.world.live.phase = true → later.world.live.phase = state.world.live.phase) ∧
    executedSteps state.world.live.plan <+: executedSteps later.world.live.plan ∧
    ∀ action next job step, (staleFleet.obeying actsOnRecorded).step later action = some next →
      Fleet.event later action = some (.serve job (.executeStep step)) →
        (executedSteps later.world.live.plan).map (·.step) ++ [step.step] <+: (planSteps later.world.live.plan).map (·.step) := by
  refine ⟨?_, ?_, ?_⟩
  · intro sealed
    refine System.run_keeps _ (fun other => other.world.live.phase = state.world.live.phase) ?_ state reachable rfl
      actions later ran
    intro before action after _ same taken
    rw [← same] at sealed
    exact (sealed_stays sealed (staleFleet.obeying_step actsOnRecorded _ _ _ taken).1).trans same
  · refine System.run_keeps _ (fun other => executedSteps state.world.live.plan <+: executedSteps other.world.live.plan)
      ?_ state reachable (prefix_refl _) actions later ran
    intro before action after reached grown taken
    exact grown.trans (recorded_step reached taken).1
  · intro action next job step taken executes
    have reached := System.reachable_run _ state reachable actions later ran
    exact (recorded_step reached taken).2 job step executes

def threeStepPlan (status : Option MigrationPlanStatus) : MigrationPlan :=
  { name := "stack-upgrade"
    ns := "apprafter-system"
    spec :=
      { scope := { type := .platform, platform := some ⟨["gateway"]⟩ }
        trigger := { type := "major-upgrade", field := "spec.pin" }
        plan := some [{ step := 1, action := "drain" }, { step := 2, action := "upgrade" }, { step := 3, action := "restore" }] }
    status := status }

def stepDone (step at_ : Nat) : ExecutedStep := ⟨step, at_, some at_, .succeeded, none⟩

def executingPlan (executed : List ExecutedStep) : MigrationPlan :=
  threeStepPlan (some { phase := some .executing, executedSteps := if executed.isEmpty then none else some executed })

def stalePass (pass at_ : Nat) (version : MigrationPlan) : List StaleAction :=
  [.begin ⟨pass, version⟩, .reply pass (smooth at_), .reply pass (smooth at_), .reply pass (smooth at_), .reply pass (smooth at_)]

def staleStart : StaleState :=
  Fleet.start ⟨⟨threeStepPlan none, 0⟩, [threeStepPlan none]⟩

def staleRun : List StaleAction :=
  [.change (.phase .approved none none), .begin ⟨0, threeStepPlan (some { phase := some .approved })⟩,
    .reply 0 (smooth 1)] ++
    stalePass 1 2 (executingPlan []) ++ stalePass 2 3 (executingPlan [stepDone 1 2])

def recordedSteps (state : StaleState) : List Nat := (executedSteps state.world.live.plan).map (·.step)

theorem stale_start_initial : staleFleet.system.initial staleStart := by
  refine ⟨_, ⟨⟨rfl, rfl, ?_, ?_⟩, rfl⟩, rfl⟩
  · intro completed
    cases completed
  · intro failed
    cases failed

theorem recorded_steps_kept_two :
    ∃ state later, (staleFleet.obeying actsOnRecorded).Reachable state ∧ recordedSteps state = [1, 2] ∧
      executedSteps state.world.live.plan <+: executedSteps later.world.live.plan ∧ recordedSteps later = [1, 2, 3] := by
  have finished : (((staleFleet.obeying actsOnRecorded).run staleStart staleRun).bind fun state =>
      ((staleFleet.obeying actsOnRecorded).run state (stalePass 3 4 (executingPlan [stepDone 1 2, stepDone 2 3]))).map
        fun later => (recordedSteps state, recordedSteps later)) = some ([1, 2], [1, 2, 3]) := by
    decide +kernel
  obtain ⟨state, ran, finished⟩ := bind_eq_some_iff.mp finished
  obtain ⟨later, continued, facts⟩ := map_eq_some_iff.mp finished
  have reachable := (staleFleet.obeying actsOnRecorded).reachable_run staleStart (.initial _ stale_start_initial)
    staleRun state ran
  refine ⟨state, later, reachable, congrArg Prod.fst facts, ?_, congrArg Prod.snd facts⟩
  exact (recorded_steps_kept state later reachable _ continued).2.1

-- A pass on an older version executes the first step again and leaves only its own record.
theorem recorded_steps_lost :
    ∃ state asking later job step fate, staleFleet.system.Reachable state ∧ recordedSteps state = [1, 2] ∧
      (∃ actions, staleFleet.system.run state actions = some asking) ∧
      Fleet.event asking (.reply 3 fate : StaleAction) = some (.serve job (.executeStep step)) ∧
      step.step ∈ recordedSteps asking ∧
      (∃ actions, staleFleet.system.run asking actions = some later) ∧ recordedSteps later = [1] := by
  have finished : ((staleFleet.system.run staleStart staleRun).bind fun state =>
      (staleFleet.system.run state ((stalePass 3 4 (executingPlan [])).take 2)).bind fun asking =>
        (staleFleet.system.run asking ((stalePass 3 4 (executingPlan [])).drop 2)).map fun later =>
          (recordedSteps state, recordedSteps asking, recordedSteps later,
            (Fleet.event asking (.reply 3 (smooth 4) : StaleAction)).bind fun
              | .serve _ (.executeStep step) => some step.step
              | _ => none)) = some ([1, 2], [1, 2], [1], some 1) := by
    decide +kernel
  obtain ⟨state, ran, finished⟩ := bind_eq_some_iff.mp finished
  obtain ⟨asking, waited, finished⟩ := bind_eq_some_iff.mp finished
  obtain ⟨later, continued, facts⟩ := map_eq_some_iff.mp finished
  obtain ⟨two, facts⟩ := Prod.mk.inj facts
  obtain ⟨still, facts⟩ := Prod.mk.inj facts
  obtain ⟨one, executes⟩ := Prod.mk.inj facts
  obtain ⟨happening, found, served⟩ := bind_eq_some_iff.mp executes
  have reachable := staleFleet.system.reachable_run staleStart (.initial _ stale_start_initial) staleRun state ran
  cases happening with
  | serve job request =>
    cases request with
    | executeStep step =>
      refine ⟨state, asking, later, job, step, smooth 4, reachable, two, ⟨_, waited⟩, found, ?_, ⟨_, continued⟩, one⟩
      rw [still, some.inj served]
      decide
    | _ => cases served
  | _ => cases served

end AppRafter.Migration
