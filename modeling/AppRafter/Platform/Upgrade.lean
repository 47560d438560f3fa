import AppRafter.Platform.Gate

set_option autoImplicit false

namespace AppRafter.Platform

open Lib List Option

abbrev StackPass : Type := Machine.Pass stackApi String Unit StackWorld

def planned (world : StackWorld) (current target : String) : Bool :=
  authorises (world.plans.map (·.toMigrationPlan)) current target

def keeping (others : Others) (current target : String) : Others :=
  { others with
    plans := fun before after => others.plans before after &&
      (!authorises (before.map (·.toMigrationPlan)) current target || authorises (after.map (·.toMigrationPlan)) current target) }

def Underway (current target : String) (world : StackWorld) : Prop :=
  world.parent.targetRevision = target ∨ (world.parent.targetRevision = current ∧ planned world current target = true)

def steadfast (target : String) (pass : StackPass) : Bool :=
  match pass.asks with
  | some (.channelLatest _ _) => true
  | some _ => decide (wantedVersion pass.start.cached pass.history = target) && allowsBump pass.start.cached
  | none => true

section Serve

variable {world after : StackWorld} {request : StackRequest} (served : Leaves world request after)

include served

theorem served_target : after.parent.targetRevision = world.parent.targetRevision ∨
    ∃ values pending, request = .patchApplication after.parent.targetRevision values pending := by
  cases served with
  | patched target values pending parent revision => exact .inr ⟨values, pending, by rw [revision]⟩
  | _ => exact .inl rfl

theorem served_planned {current target : String}
    (others : ∀ name, request = .deletePlan name → name ≠ synthesizePlatformPlanName current target)
    (before : planned world current target = true) : planned after current target = true := by
  cases served with
  | created plan free =>
    rw [planned, authorises, existingPlan, Option.any_eq_true] at before ⊢
    obtain ⟨found, searched, completed⟩ := before
    refine ⟨found, ?_, completed⟩
    rw [map_append, find?_append, searched]
    rfl
  | deleted name =>
    have kept : ((world.plans.filter fun plan => plan.name != name).map (·.toMigrationPlan)).find?
          (fun plan => plan.name == synthesizePlatformPlanName current target) =
        (world.plans.map (·.toMigrationPlan)).find? fun plan => plan.name == synthesizePlatformPlanName current target := by
      induction world.plans with
      | nil => rfl
      | cons plan rest ih =>
        by_cases gone : plan.name = name
        · have missed : plan.name ≠ synthesizePlatformPlanName current target := gone ▸ others name rfl
          rw [filter_cons_of_neg (by simpa using gone), map_cons, find?_cons_of_neg (by simpa using missed), ih]
        · rw [filter_cons_of_pos (by simpa using gone), map_cons, map_cons, find?_cons, find?_cons, ih]
    rw [planned, authorises, existingPlan] at before ⊢
    rw [kept]
    exact before
  | _ => exact before

end Serve

structure StackLinked (start : StackWorld) (record : List (StackWorld × Exchange stackApi)) (world : StackWorld) : Prop where
  read : ∀ parent, (⟨.getParent, .ok parent⟩ : Exchange stackApi) ∈ record.map Prod.snd → Unpatched (record.map Prod.snd) →
    world.parent.targetRevision = parent.targetRevision
  moved : ∀ then_ target values pending reply,
    (then_, (⟨.patchApplication target values pending, reply⟩ : Exchange stackApi)) ∈ record →
      target = then_.parent.targetRevision ∨
        Opened start.cached (record.map Prod.snd) then_.parent.targetRevision target

theorem linked_begin (start world : StackWorld) : StackLinked start [] world where
  read _ member := absurd member not_mem_nil
  moved _ _ _ _ _ member := absurd member not_mem_nil

theorem change_target {others : Others} {world after : StackWorld} (change : StackChange)
    (changed : changeStack others world change = some after) :
    after.parent.targetRevision = world.parent.targetRevision := by
  cases change with
  | live stack =>
    by_cases may : others.stack world.live stack = true
    · rw [changeStack, if_pos may] at changed
      rw [← some.inj changed]
    · rw [changeStack, if_neg may] at changed
      cases changed
  | parent parent =>
    by_cases same : parent.targetRevision = world.parent.targetRevision
    · rw [changeStack, if_pos same] at changed
      rw [← some.inj changed, ← same]
    · rw [changeStack, if_neg same] at changed
      cases changed
  | plans plans =>
    by_cases may : others.plans world.plans plans = true
    · rw [changeStack, if_pos may] at changed
      rw [← some.inj changed]
    · rw [changeStack, if_neg may] at changed
      cases changed
  | _ => rw [← some.inj changed]

theorem linked_changed {start : StackWorld} {record : List (StackWorld × Exchange stackApi)} {world after : StackWorld}
    (linked : StackLinked start record world) (same : after.parent.targetRevision = world.parent.targetRevision) :
    StackLinked start record after where
  read parent member unpatched := by rw [same]; exact linked.read parent member unpatched
  moved := linked.moved

theorem read_replied {Value : Type} (fate : StackFate) (value shown : Value) (replied : fate.read value = .ok shown) :
    value = shown := by
  rw [StackFate.read] at replied
  cases answered : fate.answer with
  | error why =>
    rw [answered] at replied
    cases replied
  | ok done =>
    rw [answered] at replied
    exact Except.ok.inj replied

section Linked

variable {start : StackWorld} (record : List (StackWorld × Exchange stackApi)) (world : StackWorld) (fate : StackFate)
variable (request : StackRequest)

theorem history_snoc : (record ++ [(world, (⟨request, (serveStack world fate request).1⟩ : Exchange stackApi))]).map Prod.snd =
    record.map Prod.snd ++ [⟨request, (serveStack world fate request).1⟩] := by
  rw [map_append]
  rfl

variable {world}

theorem parent_read {parent : Parent} (member : (⟨.getParent, .ok parent⟩ : Exchange stackApi) ∈
      record.map Prod.snd ++ [⟨request, (serveStack world fate request).1⟩]) :
    (⟨.getParent, .ok parent⟩ : Exchange stackApi) ∈ record.map Prod.snd ∨ world.parent = parent := by
  rcases mem_append.mp member with earlier | last
  · exact .inl earlier
  · have same := mem_singleton.mp last
    cases request with
    | getParent =>
      have replied : (Except.ok parent : Reply Parent) = fate.read world.parent := eq_of_heq (Exchange.mk.inj same).2
      exact .inr (read_replied fate world.parent parent replied.symm)
    | _ => simp at same

theorem patchless_target (unpatched : Unpatched (record.map Prod.snd ++ [⟨request, (serveStack world fate request).1⟩])) :
    (serveStack world fate request).2.parent.targetRevision = world.parent.targetRevision := by
  by_cases patch : ∃ target values pending, request = .patchApplication target values pending
  · obtain ⟨target, values, pending, rfl⟩ := patch
    exact absurd (mem_append_right _ (mem_singleton_self _)) (unpatched target values pending _)
  · rcases served_target (serve_served world fate request) with same | ⟨values, pending, made⟩
    · exact same
    · exact absurd ⟨_, values, pending, made⟩ patch

theorem linked_served (linked : StackLinked start record world)
    (admitted : stackAllowed start.cached (record.map Prod.snd) request) :
    StackLinked start (record ++ [(world, ⟨request, (serveStack world fate request).1⟩)]) (serveStack world fate request).2 := by
  have earlier : Unpatched (record.map Prod.snd ++ [⟨request, (serveStack world fate request).1⟩]) →
      Unpatched (record.map Prod.snd) := fun unpatched target values pending reply member =>
    unpatched target values pending reply (mem_append_left _ member)
  constructor
  · rw [history_snoc]
    intro parent member unpatched
    rw [patchless_target _ fate _ unpatched]
    rcases parent_read _ fate _ member with before | now
    · exact linked.read parent before (earlier unpatched)
    · rw [now]
  · rw [history_snoc]
    intro then_ target values pending reply member
    rcases mem_append.mp member with before | last
    · have patched := mem_map_of_mem (f := Prod.snd) before
      refine (linked.moved then_ target values pending reply before).imp_right fun opened => ?_
      refine opened_snoc (wanted_kept start.cached _ (ne_nil_of_mem patched)) ?_ opened
      rintro upstream source revision rfl
      exact admitted target _ pending reply patched
    · obtain ⟨same, made⟩ := Prod.mk.inj (mem_singleton.mp last)
      obtain rfl : request = .patchApplication target values pending := (congrArg Exchange.request made).symm
      obtain ⟨parent, read, unpatched, moves⟩ := admitted
      rw [same, linked.read parent read unpatched]
      exact moves.imp_right (opened_snoc (wanted_kept start.cached _ (ne_nil_of_mem read)) (fun _ _ _ => nofun))

end Linked

section Runs

variable {time : Rfc3339} {others : Others} {initial : StackWorld → Prop}

variable {state : Machine.State stackApi String Unit StackWorld} {pass : StackPass}

variable (reachable : (stackMachine time others initial).system.Reachable state)

include reachable in
theorem stack_flight (running : state.pass = some pass) : StackLinked pass.start pass.record state.world ∧
      pass.prog.Runs (stackAllowed pass.start.cached) (fun _ _ => True) pass.history := by
  have holds := (stackMachine time others initial).holds_run (fun _ => True) (fun _ _ => True) (fun _ => True)
    StackLinked (fun start => stackAllowed start.cached) (fun _ _ => trivial) (fun _ _ _ _ _ => trivial)
    (fun start record world change after _ linked changed =>
      linked_changed linked (change_target change changed))
    (fun world _ _ => ⟨linked_begin world world, deadline_runs time world.cached world.clock world.deadline⟩)
    (fun pass world fate request _ _ linked _ admitted _ =>
      ⟨trivial, linked_served _ fate _ linked admitted⟩)
    state ((stackMachine time others initial).run_of_reachable state reachable)
  exact holds.2 pass running

include reachable in
theorem moves_opened {next : Machine.State stackApi String Unit StackWorld} {action : Machine.Action StackFate StackChange}
    (taken : (stackMachine time others initial).step state action = some next)
    (moved : next.world.parent.targetRevision ≠ state.world.parent.targetRevision) :
    ∃ pass, state.pass = some pass ∧
      Opened pass.start.cached pass.history state.world.parent.targetRevision next.world.parent.targetRevision := by
  rcases (stackMachine time others initial).step_cases state next action taken with
    ⟨change, changed, _⟩ | ⟨_, same, _⟩ | ⟨_, same⟩ | ⟨pass, request, rest, fate, _, running, waiting, world, _⟩
  · exact absurd (change_target change changed) moved
  · exact absurd (by rw [same]) moved
  · exact absurd (by rw [same]) moved
  · obtain ⟨linked, runs⟩ := stack_flight reachable running
    rw [waiting] at runs
    have made : next.world = (serveStack state.world fate request).2 := world
    rcases served_target (serve_served state.world fate request) with same | ⟨values, pending, patch⟩
    · rw [← made] at same
      exact absurd same moved
    · rw [← made] at patch
      have admitted := runs.1
      rw [patch] at admitted
      obtain ⟨parent, read, unpatched, moves⟩ := admitted
      refine ⟨pass, running, ?_⟩
      have current := linked.read parent read unpatched
      rw [← current] at moves
      exact moves.resolve_left moved

include reachable in
theorem withheld_holds (running : state.pass = some pass)
    (withheld : ClassFailed pass.history ∨ allowsBump pass.start.cached = false) {then_ : StackWorld} {target values : String}
    {pending : Option PendingUpgrade} {reply : Reply Unit}
    (member : (then_, (⟨.patchApplication target values pending, reply⟩ : Exchange stackApi)) ∈ pass.record) :
    target = then_.parent.targetRevision := by
  have linked := (stack_flight reachable running).1
  refine (linked.moved then_ target values pending reply member).resolve_right fun opened => ?_
  rcases withheld with failed | barred
  · exact opened.classed failed
  · rw [opened.allowed] at barred
    cases barred

include reachable in
theorem own_plan_kept (running : state.pass = some pass)
    {name read : String} {plan : PlatformPlan} (asked : pass.asks = some (.deletePlan name))
    (member : (⟨.getPlan read, .ok (some plan)⟩ : Exchange stackApi) ∈ pass.history) : name ≠ read := by
  obtain ⟨_, runs⟩ := stack_flight reachable running
  obtain ⟨rest, waiting⟩ := Machine.asks_call asked
  rw [waiting] at runs
  obtain ⟨_, _, _, others, _⟩ := runs.1
  exact others read plan member

end Runs

-- While every pass wants `target` and users leave its plan alone.
section Approval

variable (current target : String)

structure Rides (start : StackWorld) (record : List (StackWorld × Exchange stackApi)) (world : StackWorld) : Prop where
  linked : StackLinked start record world
  answered : ∀ answer, (⟨.getPlan (synthesizePlatformPlanName current target), .ok answer⟩ : Exchange stackApi) ∈
      record.map Prod.snd → Unpatched (record.map Prod.snd) → world.parent.targetRevision = current →
        current = target ∨ answer ≠ none

variable {current target} {start world : StackWorld} {record : List (StackWorld × Exchange stackApi)} {others : Others}
  {pass : StackPass} {request : StackRequest}

theorem rides_changed {after : StackWorld}
    (rides : Rides current target start record world) (same : after.parent.targetRevision = world.parent.targetRevision) :
    Rides current target start record after where
  linked := linked_changed rides.linked same
  answered := by rw [same]; exact rides.answered

theorem underway_changed {after : StackWorld} (change : StackChange)
    (underway : Underway current target world) (changed : changeStack (keeping others current target) world change = some after) :
    Underway current target after := by
  have revision := change_target change changed
  rcases underway with landed | ⟨waiting, approved⟩
  · exact .inl (revision.trans landed)
  · refine .inr ⟨revision.trans waiting, ?_⟩
    cases change with
    | plans plans =>
      by_cases may : (keeping others current target).plans world.plans plans = true
      · rw [changeStack, if_pos may] at changed
        rw [← some.inj changed]
        have kept := (Bool.and_eq_true_iff.mp may).2
        rw [planned] at approved
        rwa [approved, Bool.not_true, Bool.false_or] at kept
      · rw [changeStack, if_neg may] at changed
        cases changed
    | live stack =>
      by_cases may : (keeping others current target).stack world.live stack = true
      · rw [changeStack, if_pos may] at changed
        rw [← some.inj changed]
        exact approved
      · rw [changeStack, if_neg may] at changed
        cases changed
    | parent parent =>
      by_cases same : parent.targetRevision = world.parent.targetRevision
      · rw [changeStack, if_pos same] at changed
        rw [← some.inj changed]
        exact approved
      · rw [changeStack, if_neg same] at changed
        cases changed
    | _ =>
      rw [← some.inj changed]
      exact approved

theorem steadfast_asks {rest : stackApi.Response request → StackProg Unit}
    (waiting : pass.prog = .call request rest) (later : ∀ upstream channel, request ≠ .channelLatest upstream channel)
    (held : steadfast target pass = true) :
    wantedVersion pass.start.cached pass.history = target ∧ allowsBump pass.start.cached = true := by
  rw [steadfast, Machine.call_asks waiting] at held
  cases request with
  | channelLatest upstream channel => exact absurd rfl (later upstream channel)
  | _ => simpa using held

theorem rides_served (fate : StackFate) (underway : Underway current target world) (rides : Rides current target start record world)
    (admitted : stackAllowed start.cached (record.map Prod.snd) request) :
    Rides current target start (record ++ [(world, ⟨request, (serveStack world fate request).1⟩)])
      (serveStack world fate request).2 := by
  refine ⟨linked_served _ fate _ rides.linked admitted, ?_⟩
  rw [history_snoc]
  intro answer member unpatched waiting
  rw [patchless_target _ fate _ unpatched] at waiting
  rcases mem_append.mp member with before | last
  · exact rides.answered answer before (fun revision values pending reply member =>
      unpatched revision values pending reply (mem_append_left _ member)) waiting
  · have same := mem_singleton.mp last
    obtain rfl : request = .getPlan (synthesizePlatformPlanName current target) := (congrArg Exchange.request same).symm
    have replied : (Except.ok answer : Reply (Option PlatformPlan)) = fate.read (findPlan world.plans _) :=
      eq_of_heq (Exchange.mk.inj same).2
    have shown := read_replied fate _ answer replied.symm
    rcases underway with landed | ⟨_, approved⟩
    · exact .inl (waiting.symm.trans landed)
    · refine .inr fun absent => ?_
      rw [absent, findPlan, find?_eq_none] at shown
      rw [planned, authorises, Option.any_eq_true] at approved
      obtain ⟨found, searched, _⟩ := approved
      obtain ⟨plan, member, same⟩ := mem_map.mp (mem_of_find?_eq_some searched)
      refine shown plan member ?_
      have named := find?_some searched
      rwa [← same] at named

theorem underway_served (fate : StackFate)
    {rest : stackApi.Response request → StackProg Unit} (underway : Underway current target world)
    (rides : Rides current target pass.start pass.record world) (waiting : pass.prog = .call request rest)
    (admitted : stackAllowed pass.start.cached pass.history request) (held : steadfast target pass = true) :
    Underway current target (serveStack world fate request).2 := by
  have served := serve_served world fate request
  by_cases patch : ∃ revision values pending, request = .patchApplication revision values pending
  · obtain ⟨revision, values, pending, rfl⟩ := patch
    obtain ⟨parent, read, unpatched, moves⟩ := admitted
    have here := rides.linked.read parent read unpatched
    have wants := (steadfast_asks waiting (fun _ _ => nofun) held).1
    have approved : planned world current target = true → planned (serveStack world fate _).2 current target = true :=
      served_planned served fun _ => nofun
    rcases served_target served with same | ⟨_, _, made⟩
    · exact underway.imp same.trans fun ⟨there, plan⟩ => ⟨same.trans there, approved plan⟩
    · have revision_eq : revision = (serveStack world fate (.patchApplication revision values pending)).2.parent.targetRevision :=
        (StackRequest.patchApplication.inj made).1
      rcases moves with stays | opened
      · have same := revision_eq.symm.trans (stays.trans here.symm)
        exact underway.imp same.trans fun ⟨there, plan⟩ => ⟨same.trans there, approved plan⟩
      · exact .inl (revision_eq.symm.trans (opened.wanted.trans wants))
  · have same : (serveStack world fate request).2.parent.targetRevision = world.parent.targetRevision := by
      rcases served_target served with same | ⟨values, pending, made⟩
      · exact same
      · exact absurd ⟨_, values, pending, made⟩ patch
    rcases underway with landed | ⟨there, approved⟩
    · exact .inl (same.trans landed)
    · by_cases arrived : current = target
      · exact .inl (same.trans (there.trans arrived))
      · refine .inr ⟨same.trans there, served_planned served ?_ approved⟩
        rintro name rfl
        obtain ⟨parent, read, unpatched, others, asked⟩ := admitted
        obtain ⟨wants, allowed⟩ := steadfast_asks waiting (fun _ _ => nofun) held
        have here := rides.linked.read parent read unpatched
        rw [wants, ← here, there] at asked
        obtain ⟨answer, found⟩ := asked arrived allowed
        cases answer with
        | some plan => exact others _ plan found
        | none => exact absurd rfl ((rides.answered none found unpatched there).resolve_left arrived)

theorem approval_survives {time : Rfc3339} {initial : StackWorld → Prop}
    (initially : ∀ world, initial world → Underway current target world)
    {state : Machine.State stackApi String Unit StackWorld}
    (ran : (stackMachine time (keeping others current target) initial).Run (fun _ => True)
      (fun pass _ => steadfast target pass = true) state) : Underway current target state.world := by
  refine ((stackMachine time (keeping others current target) initial).holds_run (fun _ => True)
    (fun pass _ => steadfast target pass = true) (Underway current target) (Rides current target)
    (fun start => stackAllowed start.cached) initially ?_ ?_ ?_ ?_ state ran).1
  · exact fun world change after underway changed => underway_changed change underway changed
  · exact fun start record world change after _ rides changed =>
      rides_changed rides (change_target change changed)
  · intro world _ _
    refine ⟨⟨linked_begin world world, nofun⟩, ?_⟩
    exact deadline_runs time world.cached world.clock world.deadline
  · intro pass world fate request rest underway rides waiting admitted held
    exact ⟨underway_served fate underway rides waiting admitted held, rides_served fate underway rides admitted⟩

end Approval

-- What a pass has read to move the parent, and how long an approval lasts.
theorem upgrade_gated (time : Rfc3339) (others : Others) (initial : StackWorld → Prop) :
    (∀ state, (stackMachine time others initial).system.Reachable state →
      (∀ action next, (stackMachine time others initial).step state action = some next →
        next.world.parent.targetRevision ≠ state.world.parent.targetRevision → ∃ pass, state.pass = some pass ∧
            Opened pass.start.cached pass.history state.world.parent.targetRevision next.world.parent.targetRevision) ∧
      ∀ pass, state.pass = some pass →
        ((ClassFailed pass.history ∨ allowsBump pass.start.cached = false) → ∀ then_ target values pending reply,
          (then_, (⟨.patchApplication target values pending, reply⟩ : Exchange stackApi)) ∈ pass.record →
            target = then_.parent.targetRevision) ∧
        ∀ name read plan, pass.asks = some (.deletePlan name) →
          (⟨.getPlan read, .ok (some plan)⟩ : Exchange stackApi) ∈ pass.history → name ≠ read) ∧
    ∀ current target, (∀ world, initial world → Underway current target world) →
      ∀ state, (stackMachine time (keeping others current target) initial).Run (fun _ => True)
        (fun pass _ => steadfast target pass = true) state → Underway current target state.world := by
  refine ⟨fun state reachable => ⟨?_, fun pass running => ⟨?_, ?_⟩⟩, ?_⟩
  · exact fun action next taken moved => moves_opened reachable taken moved
  · exact fun withheld then_ target values pending reply member =>
      withheld_holds reachable running withheld member
  · exact fun name read plan asked member =>
      own_plan_kept reachable running asked member
  · exact fun current target initially state ran => approval_survives initially ran

def juneTime : Rfc3339 where
  write _ := "2026-06-01T00:00:10+00:00"
  read text := if text = "2026-06-01T00:00:00+00:00" then some 1780272000000000000 else none

variable (pin : Option String) (available : String)

def juneStack : PlatformStack :=
  { spec := { pin := pin }
    status := some { availableVersion := some available, lastUpstreamCheck := some "2026-06-01T00:00:00+00:00" } }

def juneWorld : StackWorld :=
  { live := juneStack pin available
    cached := juneStack pin available
    parent := { targetRevision := "1.0.0", helmValues := "\x7b\x7d" }
    plans := [{ name := "platform-0-9-0-to-1-0-0", scopeType := "platform", phase := some "completed" },
        { name := "platform-1-0-0-to-2-0-0", scopeType := "platform", phase := some "completed" }]
    clock := ⟨1780272010000000000, fun _ => "2026-06-01T00:00:10+00:00"⟩ }

abbrev juneMachine : StackMachine :=
  stackMachine juneTime {} fun world => world = juneWorld pin available

def replies (n : Nat) : List (Machine.Action StackFate StackChange) := .begin :: List.replicate n (.reply {})

def juneRun (actions : List (Machine.Action StackFate StackChange)) :
    Option (Machine.State stackApi String Unit StackWorld) :=
  (juneMachine pin available).system.run ⟨juneWorld pin available, none⟩ actions

variable (state : Machine.State stackApi String Unit StackWorld)

def askedIn : Option StackRequest := state.pass.bind (·.asks)

def gateView : Option StackRequest × String × Bool :=
  (askedIn state, state.world.parent.targetRevision, planned state.world "1.0.0" "2.0.0")

theorem june_reached (actions : List (Machine.Action StackFate StackChange))
    (view : Option StackRequest × String × Bool) (ran : (juneRun pin available actions).map gateView = some view) :
    ∃ state, (juneMachine pin available).system.Reachable state ∧ juneRun pin available actions = some state ∧
      gateView state = view := by
  obtain ⟨state, finished, viewed⟩ := map_eq_some_iff.mp ran
  exact ⟨state, (juneMachine pin available).system.reachable_run ⟨juneWorld pin available, none⟩
    (.initial _ ⟨rfl, rfl⟩) actions state finished, finished, viewed⟩

def bumpAsked : StackRequest := .patchApplication "2.0.0" "\x7b\x7d" none

def staleAsked : StackRequest := .deletePlan "platform-0-9-0-to-1-0-0"

def patchedTo : Exchange stackApi → Option String
  | ⟨.patchApplication target _ _, _⟩ => some target
  | _ => none

def planRead : Exchange stackApi → Option String
  | ⟨.getPlan name, .ok (some _)⟩ => some name
  | _ => none

variable (exchange : Exchange stackApi)

theorem patched_to_some (target : String) (read : patchedTo exchange = some target) :
    ∃ values pending reply, exchange = ⟨.patchApplication target values pending, reply⟩ := by
  obtain ⟨request, response⟩ := exchange
  cases request with
  | patchApplication made values pending =>
    cases some.inj read
    exact ⟨values, pending, response, rfl⟩
  | _ => cases read

theorem plan_read_some {name : String} (read : planRead exchange = some name) :
    ∃ plan, exchange = ⟨.getPlan name, .ok (some plan)⟩ := by
  obtain ⟨request, response⟩ := exchange
  cases request with
  | getPlan asked =>
    rcases response with why | plan
    · cases read
    · cases plan with
      | none => cases read
      | some plan =>
        cases some.inj read
        exact ⟨plan, rfl⟩
  | _ => cases read

def passView : List String × List String × Bool :=
  match state.pass with
  | some pass => (pass.history.filterMap patchedTo, pass.history.filterMap planRead, allowsBump pass.start.cached)
  | none => ([], [], false)

theorem june_pass (actions : List (Machine.Action StackFate StackChange))
    (view : List String × List String × Bool) (filled : view ≠ ([], [], false))
    (ran : (juneRun pin available actions).map passView = some view) :
    ∃ state pass, (juneMachine pin available).system.Reachable state ∧ juneRun pin available actions = some state ∧
      state.pass = some pass ∧ pass.history.filterMap patchedTo = view.1 ∧ pass.history.filterMap planRead = view.2.1 ∧
      allowsBump pass.start.cached = view.2.2 := by
  obtain ⟨state, finished, viewed⟩ := map_eq_some_iff.mp ran
  have reachable := (juneMachine pin available).system.reachable_run ⟨juneWorld pin available, none⟩
    (.initial _ ⟨rfl, rfl⟩) actions state finished
  cases running : state.pass with
  | none =>
    rw [passView, running] at viewed
    exact absurd viewed.symm filled
  | some pass =>
    rw [passView, running] at viewed
    exact ⟨state, pass, reachable, finished, running, congrArg Prod.fst viewed, congrArg (fun view => view.2.1) viewed,
      congrArg (fun view => view.2.2) viewed⟩

abbrev heldMachine : StackMachine :=
  stackMachine juneTime (keeping {} "1.0.0" "2.0.0") fun world => world = juneWorld (some "2.0.0") "1.0.0"

theorem june_gated :
    (∃ state next pass, (juneMachine (some "2.0.0") "1.0.0").step state (.reply {}) = some next ∧ state.pass = some pass ∧
      Opened pass.start.cached pass.history "1.0.0" "2.0.0") ∧
    (∃ state pass then_ values pending reply, (juneMachine none "2.0.0").system.Reachable state ∧ state.pass = some pass ∧
      (then_, (⟨.patchApplication "1.0.0" values pending, reply⟩ : Exchange stackApi)) ∈ pass.record ∧
      then_.parent.targetRevision = "1.0.0") ∧
    (∃ state pass, (juneMachine (some "2.0.0") "1.0.0").system.Reachable state ∧ state.pass = some pass ∧
      pass.asks = some staleAsked ∧ "platform-0-9-0-to-1-0-0" ≠ "platform-1-0-0-to-2-0-0") ∧
    ∃ state, askedIn state = some bumpAsked ∧ Underway "1.0.0" "2.0.0" state.world := by
  refine ⟨?_, ?_, ?_, ?_⟩
  · obtain ⟨state, reachable, finished, viewed⟩ := june_reached (some "2.0.0") "1.0.0" (replies 6)
      (some bumpAsked, "1.0.0", true) (by decide +kernel)
    have landed : ((juneRun (some "2.0.0") "1.0.0" (replies 6)).bind fun state =>
        (juneMachine (some "2.0.0") "1.0.0").step state (.reply {})).map gateView =
        some (some (.noteBump ⟨"2.0.0", "2026-06-01T00:00:10+00:00", "succeeded"⟩), "2.0.0", true) := by
      decide +kernel
    rw [finished, bind_some] at landed
    obtain ⟨next, taken, seen⟩ := map_eq_some_iff.mp landed
    have source : state.world.parent.targetRevision = "1.0.0" := congrArg (fun view => view.2.1) viewed
    have target : next.world.parent.targetRevision = "2.0.0" := congrArg (fun view => view.2.1) seen
    obtain ⟨pass, running, opened⟩ := ((upgrade_gated juneTime {} _).1 state reachable).1 (.reply {}) next taken
      (by rw [source, target]; decide)
    rw [source, target] at opened
    exact ⟨state, next, pass, taken, running, opened⟩
  · obtain ⟨state, pass, reachable, _, running, patches, _, barred⟩ := june_pass none "2.0.0" (replies 7)
      (["1.0.0"], [], false) (by decide) (by decide +kernel)
    have patched : "1.0.0" ∈ pass.history.filterMap patchedTo := by
      rw [patches]
      exact mem_singleton_self _
    obtain ⟨exchange, member, read⟩ := mem_filterMap.mp patched
    obtain ⟨values, pending, reply, rfl⟩ := patched_to_some exchange "1.0.0" read
    obtain ⟨⟨then_, exchange⟩, held, rfl⟩ := mem_map.mp member
    refine ⟨state, pass, then_, values, pending, reply, reachable, running, held, ?_⟩
    exact ((((upgrade_gated juneTime {} _).1 state reachable).2 pass running).1 (.inr barred) then_ _ values pending reply
      held).symm
  · obtain ⟨state, pass, reachable, finished, running, _, plans, _⟩ := june_pass (some "2.0.0") "1.0.0" (replies 4)
      ([], ["platform-1-0-0-to-2-0-0"], true) (by decide) (by decide +kernel)
    have deletes : (juneRun (some "2.0.0") "1.0.0" (replies 4)).map gateView = some (some staleAsked, "1.0.0", true) := by
      decide +kernel
    rw [finished] at deletes
    have asked : pass.asks = some staleAsked := by
      have seen := congrArg Prod.fst (some.inj deletes)
      rwa [gateView, askedIn, running] at seen
    have planned : "platform-1-0-0-to-2-0-0" ∈ pass.history.filterMap planRead := by
      rw [plans]
      exact mem_singleton_self _
    obtain ⟨exchange, member, read⟩ := mem_filterMap.mp planned
    obtain ⟨plan, rfl⟩ := plan_read_some exchange read
    exact ⟨state, pass, reachable, running, asked,
      (((upgrade_gated juneTime {} _).1 state reachable).2 pass running).2 _ _ plan asked member⟩
  · have ran : ((heldMachine).checkedRun (fun _ => True) (fun pass _ => steadfast "2.0.0" pass = true)
        ⟨juneWorld (some "2.0.0") "1.0.0", none⟩ (replies 6 ++ [.abandon] ++ replies 5)).map askedIn = some (some bumpAsked) := by
      decide +kernel
    obtain ⟨state, finished, asked⟩ := map_eq_some_iff.mp ran
    refine ⟨state, asked, (upgrade_gated juneTime {} _).2 "1.0.0" "2.0.0" ?_ state
      (heldMachine.run_checked _ _ ⟨juneWorld (some "2.0.0") "1.0.0", none⟩ state _ (.initial _ ⟨rfl, rfl⟩) finished)⟩
    rintro world rfl
    exact .inr ⟨rfl, by decide +kernel⟩

-- The pass is cut as it lands the bump, the pin is withdrawn, and the next deletes the plan.
theorem withdrawn_approval_collected :
    ∃ first last actions, (juneMachine (some "2.0.0") "1.0.0").system.Reachable first ∧ askedIn first = some bumpAsked ∧
      first.world.parent.targetRevision = "1.0.0" ∧ planned first.world "1.0.0" "2.0.0" = true ∧
      (juneMachine (some "2.0.0") "1.0.0").system.run first actions = some last ∧
      askedIn last = some (.deletePlan (synthesizePlatformPlanName "1.0.0" "2.0.0")) ∧
      last.world.parent.targetRevision = "1.0.0" := by
  obtain ⟨first, reachable, finished, viewed⟩ := june_reached (some "2.0.0") "1.0.0" (replies 6)
    (some bumpAsked, "1.0.0", true) (by decide +kernel)
  have continued : ((juneRun (some "2.0.0") "1.0.0" (replies 6)).bind fun first =>
      (juneMachine (some "2.0.0") "1.0.0").system.run first
        ([.abandon, .change (.cache (juneStack none "1.0.0"))] ++ replies 3)).map gateView =
      some (some (.deletePlan (synthesizePlatformPlanName "1.0.0" "2.0.0")), "1.0.0", true) := by
    decide +kernel
  rw [finished, bind_some] at continued
  obtain ⟨last, ran, seen⟩ := map_eq_some_iff.mp continued
  exact ⟨first, last, _, reachable, congrArg Prod.fst viewed, congrArg (fun view => view.2.1) viewed,
    congrArg (fun view => view.2.2) viewed, ran, congrArg Prod.fst seen, congrArg (fun view => view.2.1) seen⟩

end AppRafter.Platform
