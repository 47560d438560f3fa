import AppRafter.Platform.Controller

set_option autoImplicit false

namespace AppRafter.Platform

open Lib List

variable (stack : PlatformStack) (history : List (Exchange stackApi))

-- What the pass's first question was answered, or what the status it was given has.
def toldVersion : String :=
  match history.head? with
  | some ⟨.channelLatest _ _, .ok resolved⟩ => resolved.1
  | _ => stack.prior.availableVersion.getD ""

def wantedVersion : String :=
  stack.spec.pin.getD (toldVersion stack history)

-- A completed plan of exactly this name, or no such plan and a safe class for this pair.
def Approved (current target : String) : Prop :=
  (∃ plan, (⟨.getPlan (synthesizePlatformPlanName current target), .ok (some plan)⟩ : Exchange stackApi) ∈ history ∧
    plan.phaseText = "completed") ∨
  ((⟨.getPlan (synthesizePlatformPlanName current target), .ok none⟩ : Exchange stackApi) ∈ history ∧
    (⟨.pathMaxChangeClass stack.spec.upstream current target, .ok .safe⟩ : Exchange stackApi) ∈ history)

def ClassFailed : Prop :=
  ∃ upstream source target why, (⟨.pathMaxChangeClass upstream source target, .error why⟩ : Exchange stackApi) ∈ history

structure Opened (stack : PlatformStack) (history : List (Exchange stackApi)) (current target : String) : Prop where
  allowed : allowsBump stack = true
  wanted : target = wantedVersion stack history
  approved : Approved stack history current target
  classed : ¬ ClassFailed history

def Unpatched : Prop :=
  ∀ target values pending reply, (⟨.patchApplication target values pending, reply⟩ : Exchange stackApi) ∉ history

def stackAllowed : StackRequest → Prop
  | .patchApplication target _ _ => ∃ parent, (⟨.getParent, .ok parent⟩ : Exchange stackApi) ∈ history ∧ Unpatched history ∧
      (target = parent.targetRevision ∨ Opened stack history parent.targetRevision target)
  | .deletePlan name => ∃ parent, (⟨.getParent, .ok parent⟩ : Exchange stackApi) ∈ history ∧ Unpatched history ∧
      (∀ read plan, (⟨.getPlan read, .ok (some plan)⟩ : Exchange stackApi) ∈ history → name ≠ read) ∧
      (parent.targetRevision ≠ wantedVersion stack history → allowsBump stack = true →
        ∃ answer, (⟨.getPlan (synthesizePlatformPlanName parent.targetRevision (wantedVersion stack history)), .ok answer⟩ :
          Exchange stackApi) ∈ history)
  | .pathMaxChangeClass _ _ _ => Unpatched history
  | _ => True

def early : StackRequest → Bool
  | .channelLatest _ _ => true
  | .getParent => true
  | .assessBackupHealth => true
  | _ => false

def calm : StackRequest → Bool
  | .channelLatest _ _ => false
  | .getParent => false
  | .getPlan _ => false
  | .pathMaxChangeClass _ _ _ => false
  | .patchApplication _ _ _ => false
  | .deletePlan _ => false
  | _ => true

variable {request : StackRequest} {history : List (Exchange stackApi)} {stack : PlatformStack} {parent : Parent}
  {decision : Decision}

theorem calm_allowed (stack : PlatformStack) (history : List (Exchange stackApi))
    (quiet : calm request = true) : stackAllowed stack history request := by
  cases request with
  | deletePlan name => cases quiet
  | patchApplication target values pending => cases quiet
  | pathMaxChangeClass upstream source target => cases quiet
  | _ => trivial

theorem mem_snoc (history : List (Exchange stackApi)) (request : StackRequest) (response : stackApi.Response request)
    {exchange : Exchange stackApi} (apart : exchange.request ≠ request) :
    exchange ∈ history ++ [⟨request, response⟩] ↔ exchange ∈ history := by
  rw [mem_append, mem_singleton]
  constructor
  · rintro (earlier | same)
    · exact earlier
    · exact absurd (congrArg Exchange.request same) apart
  · exact .inl

theorem told_snoc (stack : PlatformStack) (history : List (Exchange stackApi)) (response : stackApi.Response request)
    (later : ∀ upstream channel, request ≠ .channelLatest upstream channel) :
    toldVersion stack (history ++ [⟨request, response⟩]) = toldVersion stack history := by
  cases history with
  | cons first rest => rfl
  | nil =>
    cases request with
    | channelLatest upstream channel => exact absurd rfl (later upstream channel)
    | _ => rfl

theorem wanted_snoc (stack : PlatformStack) (history : List (Exchange stackApi)) (request : StackRequest) (response : stackApi.Response request)
    (later : ∀ upstream channel, request ≠ .channelLatest upstream channel) :
    wantedVersion stack (history ++ [⟨request, response⟩]) = wantedVersion stack history := by
  rw [wantedVersion, wantedVersion, told_snoc stack history response later]

theorem wanted_kept (stack : PlatformStack) (last : Exchange stackApi)
    (filled : history ≠ []) : wantedVersion stack (history ++ [last]) = wantedVersion stack history := by
  cases history with
  | nil => exact absurd rfl filled
  | cons first rest => rfl

variable (response : stackApi.Response request)

theorem approved_snoc {current target : String} (approved : Approved stack history current target) :
    Approved stack (history ++ [⟨request, response⟩]) current target := by
  rcases approved with ⟨plan, read, completed⟩ | ⟨absent, safe⟩
  · exact .inl ⟨plan, mem_append_left _ read, completed⟩
  · exact .inr ⟨mem_append_left _ absent, mem_append_left _ safe⟩

theorem class_failed_snoc (history : List (Exchange stackApi)) (response : stackApi.Response request)
    (unclassed : ∀ upstream source target, request ≠ .pathMaxChangeClass upstream source target) :
    ClassFailed (history ++ [⟨request, response⟩]) ↔ ClassFailed history := by
  constructor
  · rintro ⟨upstream, source, target, why, member⟩
    exact ⟨upstream, source, target, why, (mem_snoc history _ response (unclassed upstream source target).symm).mp member⟩
  · rintro ⟨upstream, source, target, why, member⟩
    exact ⟨upstream, source, target, why, mem_append_left _ member⟩

theorem opened_snoc {current target : String} {response : stackApi.Response request}
    (wants : wantedVersion stack (history ++ [⟨request, response⟩]) = wantedVersion stack history)
    (unclassed : ∀ upstream source target, request ≠ .pathMaxChangeClass upstream source target)
    (opened : Opened stack history current target) : Opened stack (history ++ [⟨request, response⟩]) current target where
  allowed := opened.allowed
  wanted := by rw [wants]; exact opened.wanted
  approved := approved_snoc response opened.approved
  classed := by rw [class_failed_snoc history response unclassed]; exact opened.classed

theorem unpatched_snoc (history : List (Exchange stackApi)) (response : stackApi.Response request)
    (patchless : ∀ target values pending, request ≠ .patchApplication target values pending) :
    Unpatched (history ++ [⟨request, response⟩]) ↔ Unpatched history := by
  refine forall_congr' fun target => forall_congr' fun values => forall_congr' fun pending => forall_congr' fun reply => ?_
  rw [mem_snoc history _ response (patchless target values pending).symm]

structure Started (stack : PlatformStack) (history : List (Exchange stackApi)) (parent : Parent) (wanted : String) : Prop where
  read : (⟨.getParent, .ok parent⟩ : Exchange stackApi) ∈ history
  only : ∀ exchange ∈ history, early exchange.request = true
  wants : wantedVersion stack history = wanted

structure Decided (stack : PlatformStack) (history : List (Exchange stackApi)) (parent : Parent) (decision : Decision) : Prop where
  read : (⟨.getParent, .ok parent⟩ : Exchange stackApi) ∈ history
  unpatched : Unpatched history
  moves : decision.target = parent.targetRevision ∨ Opened stack history parent.targetRevision decision.target
  keeps : ∀ name plan, (⟨.getPlan name, .ok (some plan)⟩ : Exchange stackApi) ∈ history → decision.keep = name
  asked : parent.targetRevision ≠ wantedVersion stack history → allowsBump stack = true →
    ∃ answer, (⟨.getPlan (synthesizePlatformPlanName parent.targetRevision (wantedVersion stack history)), .ok answer⟩ :
      Exchange stackApi) ∈ history

theorem decided_snoc (later : ∀ upstream channel, request ≠ .channelLatest upstream channel)
    (unclassed : ∀ upstream source target, request ≠ .pathMaxChangeClass upstream source target)
    (unplanned : ∀ name, request ≠ .getPlan name)
    (patchless : ∀ target values pending, request ≠ .patchApplication target values pending)
    (decided : Decided stack history parent decision) : Decided stack (history ++ [⟨request, response⟩]) parent decision where
  read := mem_append_left _ decided.read
  unpatched := (unpatched_snoc history response patchless).mpr decided.unpatched
  moves := decided.moves.imp_right (opened_snoc (wanted_snoc stack history _ response later) unclassed)
  keeps name plan member := decided.keeps name plan ((mem_snoc history _ response (unplanned name).symm).mp member)
  asked := by
    rw [wanted_snoc stack history _ response later]
    intro apart allowed
    obtain ⟨answer, read⟩ := decided.asked apart allowed
    exact ⟨answer, mem_append_left _ read⟩

theorem decided_calm (quiet : calm request = true) (decided : Decided stack history parent decision) :
    Decided stack (history ++ [⟨request, response⟩]) parent decision := by
  refine decided_snoc response ?_ ?_ ?_ ?_ decided
  · intro upstream channel same
    rw [same] at quiet
    cases quiet
  · intro upstream source target same
    rw [same] at quiet
    cases quiet
  · intro name same
    rw [same] at quiet
    cases quiet
  · intro target values pending same
    rw [same] at quiet
    cases quiet

section Decide

variable (stack : PlatformStack) (history : List (Exchange stackApi)) (parent : Parent) (wanted : String)

variable (started : Started stack history parent wanted)

include started in
theorem started_absent {exchange : Exchange stackApi} (other : early exchange.request = false) : exchange ∉ history := by
  intro member
  rw [started.only exchange member] at other
  cases other

include started in
theorem started_unpatched : Unpatched history := fun _ _ _ _ => started_absent stack _ _ _ started rfl

include started in
theorem started_unclassed : ¬ ClassFailed history := by
  rintro ⟨upstream, source, target, why, member⟩
  exact started_absent stack _ _ _ started rfl member

include started in
theorem decided_untouched (idle : ¬ (parent.targetRevision ≠ wanted ∧ allowsBump stack = true)) :
    Decided stack history parent { target := parent.targetRevision } where
  read := started.read
  unpatched := started_unpatched stack _ _ _ started
  moves := .inl rfl
  keeps _ _ member := absurd member (started_absent stack _ _ _ started rfl)
  asked := by
    rw [started.wants]
    exact fun apart allowed => absurd ⟨apart, allowed⟩ idle

variable (started : Started stack history parent wanted)
variable (answer : Option PlatformPlan)

def afterPlan : List (Exchange stackApi) :=
  history ++ [⟨.getPlan (synthesizePlatformPlanName parent.targetRevision wanted), .ok answer⟩]

include started

theorem after_plan_unpatched : Unpatched (afterPlan history parent wanted answer) :=
  (unpatched_snoc history _ fun _ _ _ => by nofun).mpr (started_unpatched stack _ _ _ started)

theorem after_plan_wants : wantedVersion stack (afterPlan history parent wanted answer) = wanted := by
  rw [afterPlan, wanted_snoc stack history _ _ fun _ _ => by nofun, started.wants]

theorem after_plan_unclassed : ¬ ClassFailed (afterPlan history parent wanted answer) := by
  rw [afterPlan, class_failed_snoc history _ fun _ _ _ => by nofun]
  exact started_unclassed stack _ _ _ started

theorem after_plan_read (name : String) (plan : PlatformPlan)
    (member : (⟨.getPlan name, .ok (some plan)⟩ : Exchange stackApi) ∈ afterPlan history parent wanted answer) :
    name = synthesizePlatformPlanName parent.targetRevision wanted ∧ answer = some plan := by
  rcases mem_append.mp member with earlier | last
  · exact absurd earlier (started_absent stack _ _ _ started rfl)
  · cases mem_singleton.mp last
    exact ⟨rfl, rfl⟩

variable {history parent answer} {decision : Decision}

theorem after_plan_decided (moves : decision.target = parent.targetRevision ∨
      Opened stack (afterPlan history parent wanted answer) parent.targetRevision decision.target)
    (keeps : ∀ plan, answer = some plan → decision.keep = synthesizePlatformPlanName parent.targetRevision wanted) :
    Decided stack (afterPlan history parent wanted answer) parent decision where
  read := mem_append_left _ started.read
  unpatched := after_plan_unpatched stack _ _ _ started answer
  moves := moves
  keeps name plan member := by
    obtain ⟨same, held⟩ := after_plan_read stack _ _ _ started _ name plan member
    rw [same]
    exact keeps plan held
  asked := by
    rw [after_plan_wants stack _ _ _ started answer]
    exact fun _ _ => ⟨answer, mem_append_right _ (mem_singleton_self _)⟩

theorem by_plan_decided (allowed : allowsBump stack = true) (plan : PlatformPlan) :
    Decided stack (afterPlan history parent wanted (some plan)) parent (decideByPlan plan parent.targetRevision wanted) := by
  refine after_plan_decided stack _ started ?_ ?_
  · by_cases completed : plan.phaseText = "completed"
    · rw [decideByPlan, if_pos completed]
      refine .inr ⟨allowed, (after_plan_wants stack _ _ _ started _).symm, .inl ⟨plan, ?_, completed⟩, ?_⟩
      · exact mem_append_right _ (mem_singleton_self _)
      · exact after_plan_unclassed stack _ _ _ started _
    · rw [decideByPlan, if_neg completed]
      exact .inl rfl
  · intro _ _
    by_cases completed : plan.phaseText = "completed"
    · rw [decideByPlan, if_pos completed]
      rfl
    · rw [decideByPlan, if_neg completed]
      rfl

theorem unplanned_decided (decision : Decision) (moves : decision.target = parent.targetRevision ∨
      Opened stack (afterPlan history parent wanted none) parent.targetRevision decision.target) :
    Decided stack (afterPlan history parent wanted none) parent decision :=
  after_plan_decided stack _ started moves fun _ => nofun

variable {stack}

omit started in
theorem raise_gate_runs (change : ChangeClass) (later : List (Exchange stackApi))
    (decided : ∀ decision : Decision, decision.target = parent.targetRevision → Decided stack later parent decision) :
    (raiseGate parent.targetRevision wanted change).Runs (stackAllowed stack)
      (fun later decision => Decided stack later parent decision) later := by
  refine ⟨trivial, fun _ => ⟨trivial, fun reply => ?_⟩⟩
  cases reply with
  | error why => trivial
  | ok done =>
    have held := decided
      { target := parent.targetRevision
        pending := some ⟨changeClassToString change, synthesizePlatformPlanName parent.targetRevision wanted⟩ } rfl
    exact decided_calm _ rfl (decided_calm _ rfl held)

theorem classed_decided (allowed : allowsBump stack = true) {reply : Reply ChangeClass}
    (moves : decision.target = parent.targetRevision ∨ (reply = .ok .safe ∧ decision.target = wanted)) :
    Decided stack (afterPlan history parent wanted none ++
      [⟨.pathMaxChangeClass stack.spec.upstream parent.targetRevision wanted, reply⟩]) parent decision := by
  have before := unplanned_decided stack _ started { target := parent.targetRevision } (.inl rfl)
  have wants := wanted_snoc stack (afterPlan history parent wanted none)
    (.pathMaxChangeClass stack.spec.upstream parent.targetRevision wanted) reply fun _ _ => nofun
  refine ⟨mem_append_left _ before.read, (unpatched_snoc _ _ fun _ _ _ => by nofun).mpr before.unpatched, ?_, ?_, ?_⟩
  · rcases moves with held | ⟨safe, bumped⟩
    · exact .inl held
    · refine .inr ⟨allowed, ?_, .inr ⟨?_, ?_⟩, ?_⟩
      · rw [bumped, wants, after_plan_wants stack _ _ _ started]
      · rw [bumped]
        exact mem_append_left _ (mem_append_right _ (mem_singleton_self _))
      · rw [bumped, ← safe]
        exact mem_append_right _ (mem_singleton_self _)
      · rintro ⟨upstream, source, target, why, member⟩
        rcases mem_append.mp member with earlier | last
        · exact after_plan_unclassed stack _ _ _ started _ ⟨upstream, source, target, why, earlier⟩
        · rw [safe] at last
          cases mem_singleton.mp last
  · intro name plan member
    have earlier := (mem_snoc _ (.pathMaxChangeClass _ _ _) reply (by nofun)).mp member
    cases (after_plan_read stack history parent wanted started none name plan earlier).2
  · rw [wants]
    intro apart may
    obtain ⟨answer, read⟩ := before.asked apart may
    exact ⟨answer, mem_append_left _ read⟩

theorem by_class_runs (allowed : allowsBump stack = true) :
    (decideByClass stack parent.targetRevision wanted).Runs (stackAllowed stack)
      (fun later decision => Decided stack later parent decision) (afterPlan history parent wanted none) := by
  refine ⟨after_plan_unpatched stack _ _ _ started none, fun reply => ?_⟩
  cases reply with
  | error why => exact classed_decided _ started allowed (.inl rfl)
  | ok change =>
    change (if change = .safe then (.done { target := wanted } : StackProg Decision)
      else raiseGate parent.targetRevision wanted change).Runs _ _ _
    by_cases safe : change = .safe
    · rw [if_pos safe]
      exact classed_decided _ started allowed (.inr ⟨congrArg Except.ok safe, rfl⟩)
    · rw [if_neg safe]
      exact raise_gate_runs wanted change _ fun decision held =>
        classed_decided _ started allowed (.inl held)

theorem decide_runs : (decideTarget stack parent.targetRevision wanted).Runs (stackAllowed stack)
      (fun later decision => Decided stack later parent decision) history := by
  by_cases moves : parent.targetRevision ≠ wanted ∧ allowsBump stack = true
  · rw [decideTarget, if_pos moves]
    refine ⟨trivial, fun reply => ?_⟩
    cases reply with
    | error why => trivial
    | ok answer =>
      cases answer with
      | some plan => exact by_plan_decided stack _ started moves.2 plan
      | none => exact by_class_runs _ started moves.2
  · rw [decideTarget, if_neg moves]
    exact decided_untouched stack _ _ _ started moves

end Decide

section Late

variable (stack : PlatformStack) (history : List (Exchange stackApi))

theorem late_runs {prog : StackProg Unit} (asks : prog.Asks fun request => calm request = true) :
    prog.Runs (stackAllowed stack) (fun _ _ => True) history :=
  Prog.runs_asks history (fun _ => True) _ prog (fun _ _ _ _ _ => trivial)
    (fun later request _ quiet => calm_allowed stack later quiet) (fun _ _ _ => trivial) trivial asks

theorem try_asks {Value : Type} (may : StackRequest → Prop) (reply : Reply Value) : (try_ reply).Asks may := by
  cases reply <;> trivial

variable (new : PlatformStackStatus)

theorem write_status_asks : (writeStatus new).Asks fun request => calm request = true := by
  refine ⟨rfl, fun reply => ?_⟩
  cases reply with
  | error why => trivial
  | ok server => exact ⟨rfl, fun reply => try_asks _ reply⟩

theorem write_if_changed_asks : (writeStatusIfChanged stack new).Asks fun request => calm request = true := by
  rw [writeStatusIfChanged]
  split
  · trivial
  · split
    · refine Prog.asks_bind (write_status_asks _) fun _ => ?_
      split
      · trivial
      · exact write_status_asks new
    · exact write_status_asks new

variable (clock : PassClock)

theorem set_stalled_asks : (setStalled stack clock).Asks fun request => calm request = true := ⟨rfl, fun _ => trivial⟩

theorem mark_asks : (mark stack clock).Asks fun request => calm request = true := by
  rw [mark]
  split
  · trivial
  · refine ⟨rfl, fun reply => ?_⟩
    rcases reply with why | merges
    · trivial
    · cases merges with
      | false => trivial
      | true =>
        rw [markWrites]
        split
        · refine ⟨rfl, fun reply => ?_⟩
          cases reply with
          | error why => trivial
          | ok after => exact set_stalled_asks stack clock
        · exact set_stalled_asks stack clock

theorem after_release_asks (released : PlatformStack) : (afterRelease released).Asks fun request => calm request = true := by
  rw [afterRelease]
  split
  · trivial
  · split
    · refine ⟨rfl, fun reply => ?_⟩
      cases reply with
      | error why => trivial
      | ok after => exact ⟨rfl, fun _ => trivial⟩
    · trivial

theorem clear_asks : (clear stack).Asks fun request => calm request = true := by
  rw [clear]
  split
  · trivial
  · refine ⟨rfl, fun reply => ?_⟩
    rcases reply with why | merges
    · trivial
    · cases merges with
      | false => trivial
      | true =>
        refine ⟨rfl, fun reply => ?_⟩
        cases reply with
        | error why => trivial
        | ok released => exact after_release_asks released

theorem closing_asks (finished : Option Unit) : (closing stack clock finished).Asks fun request => calm request = true := by
  cases finished with
  | none => exact mark_asks stack clock
  | some done => exact clear_asks stack

variable (time : Rfc3339) (latest : Latest) (verdicts : Verdict × Verdict) (parent : Parent) (decision : Decision)

theorem report_asks : (report time stack clock latest verdicts parent decision).Asks fun request => calm request = true :=
  ⟨rfl, fun _ => ⟨rfl, fun _ => Prog.asks_bind (write_if_changed_asks stack _) fun _ => ⟨rfl, fun _ => trivial⟩⟩⟩

theorem after_patch_asks (foreign : Option String) :
    (do noteLanded time clock parent decision
        publishReverted foreign decision : StackProg Unit).Asks fun request => calm request = true := by
  refine Prog.asks_bind ?_ fun _ => ?_
  · rw [noteLanded]
    split
    · exact ⟨rfl, fun _ => trivial⟩
    · trivial
  · rw [publishReverted]
    split
    · exact ⟨rfl, fun _ => trivial⟩
    · trivial

end Late

section Settle

variable (time : Rfc3339) (stack : PlatformStack) (clock : PassClock) (history : List (Exchange stackApi)) (parent : Parent)

theorem delete_runs (decision : Decision) (names : List String) (others : ∀ name ∈ names, name ≠ decision.keep)
    (decided : Decided stack history parent decision) :
    (deletePlans names).Runs (stackAllowed stack) (fun later _ => Decided stack later parent decision) history := by
  induction names generalizing history with
  | nil => exact decided
  | cons name rest ih =>
    refine ⟨⟨parent, decided.read, decided.unpatched, ?_, decided.asked⟩, fun response => ?_⟩
    · intro read plan member
      rw [← decided.keeps read plan member]
      exact others name mem_cons_self
    · refine ih _ (fun other member => others other (mem_cons_of_mem _ member)) ?_
      exact decided_snoc response (fun _ _ => nofun) (fun _ _ _ => nofun)
        (fun _ => nofun) (fun _ _ _ => nofun) decided

theorem superseded_others {plans : List PlatformPlan} {keep : String} (name : String)
    (member : name ∈ supersededPlatformPlanNames plans keep) : name ≠ keep := by
  obtain ⟨plan, held, same⟩ := mem_map.mp member
  have passed := (mem_filter.mp held).2
  simp only [Bool.and_eq_true, bne_iff_ne] at passed
  rw [← same]
  exact passed.1.1

variable {decision : Decision}

theorem collect_runs (decided : Decided stack history parent decision) :
    (collectPlans decision).Runs (stackAllowed stack) (fun later _ => Decided stack later parent decision) history := by
  refine ⟨trivial, fun reply => ?_⟩
  have listed := decided_calm reply rfl decided
  cases reply with
  | error why => exact listed
  | ok plans => exact delete_runs stack _ _ _ _ superseded_others listed

theorem detection_runs (foreign : Option String) (decided : Decided stack history parent decision) :
    (publishDetection foreign decision).Runs (stackAllowed stack) (fun later _ => Decided stack later parent decision)
      history := by
  cases foreign with
  | none => exact decided
  | some manager => exact ⟨trivial, fun response => decided_calm response rfl decided⟩

theorem enforce_runs (wanted : String) (decided : Decided stack history parent decision) :
    (enforce time stack clock parent wanted decision).Runs (stackAllowed stack) (fun _ _ => True) history := by
  rw [enforce]
  split
  · rw [Prog.runs_bind]
    refine Prog.runs_mono _ ?_ (detection_runs stack _ _ (detectOutsideWriter parent) decided)
    intro later _ held
    refine ⟨⟨parent, held.read, held.unpatched, held.moves⟩, fun reply => ?_⟩
    cases reply with
    | error why => trivial
    | ok done => exact late_runs stack _ (after_patch_asks clock time parent decision _)
  · trivial

variable (latest : Latest) (verdicts : Verdict × Verdict)

theorem settle_runs (started : Started stack history parent (policyTarget stack latest)) :
    (settle time stack clock latest verdicts parent).Runs (stackAllowed stack) (fun _ _ => True) history := by
  rw [settle, Prog.runs_bind]
  refine Prog.runs_mono _ ?_ (decide_runs _ started)
  intro later decision decided
  rw [Prog.runs_bind]
  refine Prog.runs_mono _ ?_ (collect_runs stack later _ decided)
  intro later _ decided
  refine ⟨trivial, fun response => ?_⟩
  have marked := decided_calm response rfl decided
  change (Prog.Runs _ _ _ (enforce time stack clock parent (policyTarget stack latest) decision >>= fun _ =>
    report time stack clock latest verdicts parent decision))
  rw [Prog.runs_bind]
  refine Prog.runs_mono _ ?_ (enforce_runs time stack clock _ _ (policyTarget stack latest) marked)
  intro later _ _
  exact late_runs stack later (report_asks stack clock time latest verdicts parent decision)

theorem pass_runs (first : ∀ exchange ∈ history, early exchange.request = true)
    (told : ∀ request response, (∀ upstream channel, request ≠ .channelLatest upstream channel) →
      wantedVersion stack (history ++ [⟨request, response⟩]) = policyTarget stack latest) :
    (pass time stack clock latest).Runs (stackAllowed stack) (fun _ _ => True) history := by
  refine ⟨trivial, fun reply => ?_⟩
  cases reply with
  | error why => trivial
  | ok parent =>
    refine ⟨trivial, fun verdicts => ?_⟩
    have wants := told .getParent (.ok parent) fun _ _ => nofun
    have started : Started stack (history ++ [⟨.getParent, .ok parent⟩] ++ [⟨.assessBackupHealth, verdicts⟩]) parent
        (policyTarget stack latest) := by
      refine ⟨mem_append_left _ (mem_append_right _ (mem_singleton_self _)), ?_, ?_⟩
      · intro exchange member
        rcases mem_append.mp member with member | last
        · rcases mem_append.mp member with earlier | second
          · exact first exchange earlier
          · rw [mem_singleton.mp second]
            rfl
        · rw [mem_singleton.mp last]
          rfl
      · rw [wanted_snoc stack _ _ _ fun _ _ => by nofun, wants]
    split
    · exact late_runs stack _ (write_if_changed_asks stack _)
    · exact settle_runs time stack clock _ _ _ verdicts started

theorem told_empty {request : StackRequest} (response : stackApi.Response request)
    (later : ∀ upstream channel, request ≠ .channelLatest upstream channel) :
    toldVersion stack [⟨request, response⟩] = stack.prior.availableVersion.getD "" := by
  cases request with
  | channelLatest upstream channel => exact absurd rfl (later upstream channel)
  | _ => rfl

def Goes (later : List (Exchange stackApi)) (latest : Latest) : Prop :=
  (∀ exchange ∈ later, early exchange.request = true) ∧
    ∀ request response, (∀ upstream channel, request ≠ .channelLatest upstream channel) →
      wantedVersion stack (later ++ [⟨request, response⟩]) = policyTarget stack latest

theorem cached_runs : (cached stack).Runs (stackAllowed stack) (Goes stack) [] := by
  rw [cached]
  cases held : stack.prior.availableVersion with
  | none => trivial
  | some version =>
    refine ⟨forall_mem_nil _, fun _ response later => ?_⟩
    rw [wantedVersion, nil_append, told_empty stack response later, held]
    rfl

theorem degraded_runs (upstream : String) (channel : Channel) (why : String) :
    (degraded stack why).Runs (stackAllowed stack) (Goes stack) [⟨.channelLatest upstream channel, .error why⟩] := by
  rw [degraded]
  cases known : degradeOnResolutionFailure stack.spec.pin.isSome stack.prior.availableVersion with
  | none => trivial
  | some version =>
    refine ⟨fun exchange member => by rw [mem_singleton.mp member]; rfl, fun request response later => ?_⟩
    rw [wantedVersion, policyTarget]
    cases pinned : stack.spec.pin with
    | some pin => rfl
    | none =>
      rw [pinned] at known
      have prior : stack.prior.availableVersion = some version := known
      change stack.prior.availableVersion.getD "" = version
      rw [prior]
      rfl

theorem resolve_runs : (resolveLatest time stack clock).Runs (stackAllowed stack) (Goes stack) [] := by
  rw [resolveLatest]
  split
  · refine ⟨trivial, fun reply => ?_⟩
    cases reply with
    | error why => exact degraded_runs stack _ _ why
    | ok resolved =>
      refine ⟨fun exchange member => by rw [mem_singleton.mp member]; rfl, fun request response later => ?_⟩
      exact wanted_snoc stack _ _ response later
  · exact cached_runs stack

theorem reconcile_runs : (reconcile time stack clock).Runs (stackAllowed stack) (fun _ _ => True) [] := by
  rw [reconcile]
  split
  · trivial
  · rw [Prog.runs_bind]
    refine Prog.runs_mono _ ?_ (resolve_runs time stack clock)
    intro later latest goes
    exact pass_runs time stack clock later _ goes.1 goes.2

theorem deadline_runs (deadline : Option (Nat × Bool)) :
    (reconcileWithDeadline stack clock time deadline).Runs (stackAllowed stack) (fun _ _ => True) [] := by
  cases deadline with
  | none =>
    rw [reconcileWithDeadline, Prog.runs_bind]
    exact Prog.runs_mono _ (fun later _ _ => late_runs stack later (clear_asks stack)) (reconcile_runs time stack clock)
  | some deadline =>
    obtain ⟨left, sent⟩ := deadline
    change Prog.Runs _ _ _ ((reconcile time stack clock).within left sent >>= closing stack clock)
    rw [Prog.runs_bind]
    have closes : ∀ later finished, (closing stack clock finished).Runs (stackAllowed stack) (fun _ _ => True) later :=
      fun later finished => late_runs stack later (closing_asks stack clock finished)
    refine Prog.runs_within _ _ _ left sent _ (fun later => closes later none) ?_
    exact Prog.runs_mono _ (fun later _ _ => closes later _) (reconcile_runs time stack clock)

end Settle

end AppRafter.Platform
