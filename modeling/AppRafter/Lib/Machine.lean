import AppRafter.Lib.Await

set_option autoImplicit false

namespace AppRafter.Lib

open Option

-- The world answers each request as some `Fate` decides, and changes between the awaits.
structure Machine (api : Api) (Error Value World Fate Change : Type) where
  initial : World → Prop
  begin : World → Prog api Error Value
  serve : World → Fate → (request : api.Request) → api.Response request × World
  change : World → Change → Option World

namespace Machine

variable {api : Api} {Error Value World Fate Change : Type}

-- `start` is what the pass read; `record` keeps the world that answered each exchange.
structure Pass (api : Api) (Error Value World : Type) where
  start : World
  record : List (World × Exchange api)
  prog : Prog api Error Value

def Pass.history (pass : Pass api Error Value World) : List (Exchange api) := pass.record.map Prod.snd

def Pass.asks (pass : Pass api Error Value World) : Option api.Request :=
  match pass.prog with
  | .call request _ => some request
  | _ => none

variable {pass : Pass api Error Value World} {request : api.Request}

theorem asks_call (asked : pass.asks = some request) : ∃ rest, pass.prog = .call request rest := by
  unfold Pass.asks at asked
  cases waiting : pass.prog with
  | done | fail => simp [waiting] at asked
  | call other rest =>
    rw [waiting] at asked
    cases some.inj asked
    exact ⟨rest, rfl⟩

theorem call_asks {rest : api.Response request → Prog api Error Value} (waiting : pass.prog = .call request rest) :
    pass.asks = some request := by
  rw [Pass.asks, waiting]

structure State (api : Api) (Error Value World : Type) where
  world : World
  pass : Option (Pass api Error Value World)

-- A pass may be dropped at any await; passes of one object never overlap.
inductive Action (Fate Change : Type) where
  | change (change : Change)
  | begin
  | reply (fate : Fate)
  | abandon
  | abandonServed (fate : Fate)

variable (machine : Machine api Error Value World Fate Change)

def reply (world : World) (fate : Fate) (pass : Pass api Error Value World) : Option (State api Error Value World) :=
  match pass.prog with
  | .call request next =>
    let served := machine.serve world fate request
    some ⟨served.2, some ⟨pass.start, pass.record ++ [(world, ⟨request, served.1⟩)], next served.1⟩⟩
  | _ => none

def step (state : State api Error Value World) (action : Action Fate Change) : Option (State api Error Value World) :=
  match action, state.pass with
  | .change change, _ => (machine.change state.world change).map fun world => { state with world := world }
  | .begin, none => some { state with pass := some ⟨state.world, [], machine.begin state.world⟩ }
  | .reply fate, some pass => machine.reply state.world fate pass
  | .abandon, some _ => some { state with pass := none }
  | .abandonServed fate, some pass => (machine.reply state.world fate pass).map fun next => { next with pass := none }
  | _, _ => none

def system : System (State api Error Value World) (Action Fate Change) :=
  { initial := fun state => machine.initial state.world ∧ state.pass = none
    step := machine.step }

-- All that one step can do.
theorem step_cases (state next : State api Error Value World) (action : Action Fate Change)
    (taken : machine.step state action = some next) :
    (∃ change, machine.change state.world change = some next.world ∧ next.pass = state.pass) ∨
    (action = .begin ∧ next.world = state.world ∧
      next.pass = some ⟨state.world, [], machine.begin state.world⟩) ∨
    (next.pass = none ∧ next.world = state.world) ∨
    (∃ pass request rest fate, (action = .reply fate ∨ action = .abandonServed fate) ∧ state.pass = some pass ∧
      pass.prog = .call request rest ∧ next.world = (machine.serve state.world fate request).2 ∧
      ∀ followed ∈ next.pass, followed = ⟨pass.start,
        pass.record ++ [(state.world, ⟨request, (machine.serve state.world fate request).1⟩)],
        rest (machine.serve state.world fate request).1⟩) := by
  have replied : ∀ fate pass after, state.pass = some pass → machine.reply state.world fate pass = some after →
      ∃ request rest, pass.prog = .call request rest ∧ after.world = (machine.serve state.world fate request).2 ∧
        after.pass = some ⟨pass.start, pass.record ++ [(state.world, ⟨request, (machine.serve state.world fate request).1⟩)],
          rest (machine.serve state.world fate request).1⟩ := by
    intro fate pass after _ answered
    unfold reply at answered
    cases waiting : pass.prog with
    | done | fail => simp [waiting] at answered
    | call request rest =>
      rw [waiting] at answered
      have same := some.inj answered
      exact ⟨request, rest, rfl, by rw [← same], by rw [← same]⟩
  cases action with
  | change change =>
    obtain ⟨world, changed, same⟩ := map_eq_some_iff.mp taken
    exact .inl ⟨change, by rw [changed, ← same], by rw [← same]⟩
  | begin =>
    cases running : state.pass with
    | some pass => simp [step, running] at taken
    | none =>
      have same : { state with pass := some ⟨state.world, [], machine.begin state.world⟩ } = next := by
        simpa [step, running] using taken
      exact .inr (.inl ⟨rfl, by rw [← same], by rw [← same]⟩)
  | abandon =>
    cases running : state.pass with
    | none => simp [step, running] at taken
    | some pass =>
      have same : { state with pass := none } = next := by simpa [step, running] using taken
      exact .inr (.inr (.inl ⟨by rw [← same], by rw [← same]⟩))
  | reply fate =>
    cases running : state.pass with
    | none => simp [step, running] at taken
    | some pass =>
      have answered : machine.reply state.world fate pass = some next := by simpa [step, running] using taken
      obtain ⟨request, rest, waiting, world, followed⟩ := replied fate pass next running answered
      refine .inr (.inr (.inr ⟨pass, request, rest, fate, .inl rfl, rfl, waiting, world, ?_⟩))
      intro later found
      exact some.inj (found.symm.trans followed)
  | abandonServed fate =>
    cases running : state.pass with
    | none => simp [step, running] at taken
    | some pass =>
      have answered : ∃ after, machine.reply state.world fate pass = some after ∧ { after with pass := none } = next := by
        simpa [step, running] using taken
      obtain ⟨after, served, same⟩ := answered
      obtain ⟨request, rest, waiting, world, followed⟩ := replied fate pass after running served
      refine .inr (.inr (.inr ⟨pass, request, rest, fate, .inr rfl, rfl, waiting, by rw [← same]; exact world, ?_⟩))
      intro later found
      rw [← same] at found
      exact nomatch found

section Rule

-- A pass starts only where `starts` holds, and is answered only where `serving` does.
variable (starts : World → Prop) (serving : Pass api Error Value World → World → Prop)

inductive Run : State api Error Value World → Prop where
  | initial (state : State api Error Value World) (fresh : machine.system.initial state) : Run state
  | step (before after : State api Error Value World) (action : Action Fate Change) (previous : Run before)
      (taken : machine.system.step before action = some after) (started : action = .begin → starts before.world)
      (served : ∀ fate pass, action = .reply fate ∨ action = .abandonServed fate → before.pass = some pass →
        serving pass before.world) : Run after

theorem run_of_reachable (state : State api Error Value World) (reachable : machine.system.Reachable state) :
    machine.Run (fun _ => True) (fun _ _ => True) state := by
  induction reachable with
  | initial state fresh => exact .initial state fresh
  | step before after action _ taken ih => exact .step before after action ih taken (fun _ => trivial) (fun _ _ _ _ => trivial)

section Checked

variable [DecidablePred starts] [∀ pass, DecidablePred (serving pass)]

def Admits (state : State api Error Value World) : Action Fate Change → Prop
  | .begin => starts state.world
  | .reply _ => ∀ pass ∈ state.pass, serving pass state.world
  | .abandonServed _ => ∀ pass ∈ state.pass, serving pass state.world
  | _ => True

instance (state : State api Error Value World) : (action : Action Fate Change) → Decidable (Admits starts serving state action)
  | .begin => inferInstanceAs (Decidable (starts state.world))
  | .reply _ => inferInstanceAs (Decidable (∀ pass ∈ state.pass, serving pass state.world))
  | .abandonServed _ => inferInstanceAs (Decidable (∀ pass ∈ state.pass, serving pass state.world))
  | .change _ => inferInstanceAs (Decidable True)
  | .abandon => inferInstanceAs (Decidable True)

def checkedRun (state : State api Error Value World) : List (Action Fate Change) → Option (State api Error Value World)
  | [] => some state
  | action :: rest =>
    if Admits starts serving state action then (machine.step state action).bind fun next => checkedRun next rest
    else none

theorem run_checked (state last : State api Error Value World) (actions : List (Action Fate Change))
    (ran : machine.Run starts serving state) (finished : machine.checkedRun starts serving state actions = some last) :
    machine.Run starts serving last := by
  induction actions generalizing state with
  | nil => exact some.inj finished ▸ ran
  | cons action rest ih =>
    by_cases admitted : Admits starts serving state action
    · rw [checkedRun, if_pos admitted] at finished
      obtain ⟨next, taken, remaining⟩ := bind_eq_some_iff.mp finished
      refine ih next (.step state next action ran taken ?_ ?_) remaining
      · intro begun
        rw [begun] at admitted
        exact admitted
      · intro fate pass acted running
        cases acted with
        | inl replied =>
          rw [replied] at admitted
          exact admitted pass running
        | inr served =>
          rw [served] at admitted
          exact admitted pass running
    · rw [checkedRun, if_neg admitted] at finished
      cases finished

end Checked

variable (inv : World → Prop) (link : World → List (World × Exchange api) → World → Prop)
  (allowed : World → List (Exchange api) → api.Request → Prop)

def Holds (state : State api Error Value World) : Prop :=
  inv state.world ∧ ∀ pass ∈ state.pass, link pass.start pass.record state.world ∧
    Prog.Runs (allowed pass.start) (fun _ _ => True) pass.history pass.prog

-- `inv` holds of the world, and `link` ties the pass in flight to it.
theorem holds_run (initially : ∀ world, machine.initial world → inv world)
    (changes : ∀ world change after, inv world → machine.change world change = some after → inv after)
    (changesLinked : ∀ start record world change after, inv world → link start record world →
      machine.change world change = some after → link start record after)
    (begins : ∀ world, inv world → starts world → link world [] world ∧
      Prog.Runs (allowed world) (fun _ _ => True) [] (machine.begin world))
    (serves : ∀ (pass : Pass api Error Value World) world fate request rest, inv world →
      link pass.start pass.record world → pass.prog = .call request rest → allowed pass.start pass.history request →
        serving pass world → inv (machine.serve world fate request).2 ∧
          link pass.start (pass.record ++ [(world, ⟨request, (machine.serve world fate request).1⟩)])
            (machine.serve world fate request).2)
    (state : State api Error Value World) (ran : machine.Run starts serving state) : Holds inv link allowed state := by
  induction ran with
  | initial fresh initial =>
    refine ⟨initially _ initial.1, ?_⟩
    rw [initial.2]
    exact nofun
  | step before after action _ taken started served ih =>
    obtain ⟨sound, flight⟩ := ih
    rcases machine.step_cases before after action taken with
      ⟨change, changed, same⟩ | ⟨begun, same, fresh⟩ | ⟨stopped, same⟩ |
        ⟨pass, request, rest, fate, acted, running, waiting, world, followed⟩
    · refine ⟨changes _ _ _ sound changed, ?_⟩
      intro pass running
      have linked := flight pass (same ▸ running)
      exact ⟨changesLinked _ _ _ _ _ sound linked.1 changed, linked.2⟩
    · refine ⟨same ▸ sound, ?_⟩
      intro pass running
      rw [fresh] at running
      rw [← some.inj running, same]
      exact begins before.world sound (started begun)
    · refine ⟨same ▸ sound, ?_⟩
      rw [stopped]
      exact nofun
    · obtain ⟨linked, runs⟩ := flight pass running
      rw [waiting] at runs
      obtain ⟨kept, relinked⟩ := serves pass _ fate _ rest sound linked waiting runs.1 (served fate pass acted running)
      refine ⟨world ▸ kept, ?_⟩
      intro later found
      rw [followed later found, world]
      refine ⟨relinked, ?_⟩
      have continued := runs.2 (machine.serve before.world fate request).1
      simpa [Pass.history] using continued

end Rule

end Machine

end AppRafter.Lib
