import Mathlib.Logic.Function.Basic
import AppRafter.Lib.Await

set_option autoImplicit false

namespace AppRafter.Lib

open Option

-- Passes of one key never overlap; a dropped pass may leave a request that commits later.
structure Fleet (api : Api) (Error Value World Key Job Fate Change : Type) where
  initial : World → Prop
  key : Job → Key
  begin : World → Job → Option (World × Prog api Error Value)
  serve : World → Fate → (request : api.Request) → api.Response request × World
  lingers : api.Request → Bool
  change : World → Change → Option World

namespace Fleet

structure Pass (api : Api) (Error Value Job : Type) where
  job : Job
  history : List (Exchange api)
  prog : Prog api Error Value

structure State (api : Api) (Error Value World Key Job : Type) where
  world : World
  pass : Key → Option (Pass api Error Value Job)
  late : List (Job × api.Request)

inductive Action (Key Job Fate Change : Type) where
  | change (change : Change)
  | begin (job : Job)
  | reply (key : Key) (fate : Fate)
  | drop (key : Key)
  | leave (key : Key)
  | commit (index : Nat) (fate : Fate)

inductive Event (api : Api) (Job Change : Type) where
  | change (change : Change)
  | begin (job : Job)
  | serve (job : Job) (request : api.Request)
  | commit (job : Job) (request : api.Request)

variable {api : Api} {Error Value World Key Job Fate Change : Type}

def Pass.asks (pass : Pass api Error Value Job) : Option api.Request :=
  match pass.prog with
  | .call request _ => some request
  | _ => none

variable [DecidableEq Key] (fleet : Fleet api Error Value World Key Job Fate Change)

def start (world : World) : State api Error Value World Key Job := ⟨world, fun _ => none, []⟩

variable (state : State api Error Value World Key Job)

def answer (key : Key) (fate : Fate) :
    Option (State api Error Value World Key Job) :=
  match state.pass key with
  | some ⟨job, history, .call request next⟩ =>
    let served := fleet.serve state.world fate request
    some { state with
      world := served.2
      pass := Function.update state.pass key (some ⟨job, history ++ [⟨request, served.1⟩], next served.1⟩) }
  | _ => none

def abandon (key : Key) : Option (State api Error Value World Key Job) :=
  match state.pass key with
  | some ⟨job, _, .call request _⟩ =>
    if fleet.lingers request = true then
      some { state with pass := Function.update state.pass key none, late := state.late ++ [(job, request)] }
    else none
  | _ => none

def step : Action Key Job Fate Change → Option (State api Error Value World Key Job)
  | .change change => (fleet.change state.world change).map fun world => { state with world := world }
  | .begin job =>
    match state.pass (fleet.key job) with
    | some _ => none
    | none => (fleet.begin state.world job).map fun begun =>
      { state with
        world := begun.1
        pass := Function.update state.pass (fleet.key job) (some ⟨job, [], begun.2⟩) }
  | .reply key fate => fleet.answer state key fate
  | .drop key => (state.pass key).map fun _ => { state with pass := Function.update state.pass key none }
  | .leave key => fleet.abandon state key
  | .commit index fate => (state.late[index]?).map fun left =>
    { state with world := (fleet.serve state.world fate left.2).2, late := state.late.eraseIdx index }

def event : Action Key Job Fate Change → Option (Event api Job Change)
  | .change change => some (.change change)
  | .begin job => some (.begin job)
  | .reply key _ => (state.pass key).bind fun pass => pass.asks.map (.serve pass.job)
  | .commit index _ => (state.late[index]?).map fun left => .commit left.1 left.2
  | _ => none

def system : System (State api Error Value World Key Job) (Action Key Job Fate Change) :=
  { initial := fun state => ∃ world, fleet.initial world ∧ state = start world
    step := fleet.step }

variable (permits : World → Event api Job Change → Bool)

def permitted (state : State api Error Value World Key Job)
    (action : Action Key Job Fate Change) : Bool :=
  (event state action).all (permits state.world)

def obeying :
    System (State api Error Value World Key Job) (Action Key Job Fate Change) :=
  fleet.system.restrict (permitted permits)

theorem obeying_step (before after : State api Error Value World Key Job)
    (action : Action Key Job Fate Change) (taken : (fleet.obeying permits).step before action = some after) :
    fleet.step before action = some after ∧
      ∀ happening, event before action = some happening → permits before.world happening = true := by
  obtain ⟨allowed, moved⟩ := fleet.system.restrict_step (permitted permits) before after action taken
  refine ⟨moved, ?_⟩
  intro happening found
  simpa [permitted, found] using allowed

omit [DecidableEq Key] in
theorem event_serve {state : State api Error Value World Key Job} {action : Action Key Job Fate Change} {job : Job}
    {request : api.Request} (happens : event state action = some (.serve job request)) :
    ∃ key pass, state.pass key = some pass ∧ pass.job = job ∧ ∃ next, pass.prog = .call request next := by
  cases action with
  | reply key fate =>
    obtain ⟨pass, found, asked⟩ := bind_eq_some_iff.mp happens
    obtain ⟨wanted, asks, same⟩ := map_eq_some_iff.mp asked
    cases same
    obtain ⟨job, history, prog⟩ := pass
    cases prog with
    | done value => cases asks
    | fail error => cases asks
    | call request next =>
      cases some.inj asks
      exact ⟨key, _, found, rfl, next, rfl⟩
  | change change => cases happens
  | begin job => cases happens
  | drop key => cases happens
  | leave key => cases happens
  | commit index fate =>
    obtain ⟨left, _, same⟩ := map_eq_some_iff.mp happens
    cases same

-- All that one step can do to the world, with the event it is.
theorem step_world (before after : State api Error Value World Key Job) (action : Action Key Job Fate Change)
    (taken : fleet.step before action = some after) :
    (∃ change, event before action = some (.change change) ∧ fleet.change before.world change = some after.world) ∨
    (∃ job prog, event before action = some (.begin job) ∧ fleet.begin before.world job = some (after.world, prog)) ∨
    (∃ key fate pass request next, event before action = some (.serve pass.job request) ∧
      before.pass key = some pass ∧ pass.prog = .call request next ∧
      after.world = (fleet.serve before.world fate request).2) ∨
    (∃ (index : Nat) (fate : Fate) (job : Job) (request : api.Request), event before action = some (.commit job request) ∧
      before.late[index]? = some (job, request) ∧ after.world = (fleet.serve before.world fate request).2) ∨
    (event before action = none ∧ after.world = before.world) := by
  cases action with
  | change change =>
    obtain ⟨world, changed, rfl⟩ := map_eq_some_iff.mp taken
    exact .inl ⟨change, rfl, changed⟩
  | begin job =>
    cases free : before.pass (fleet.key job) with
    | some running => simp [step, free] at taken
    | none =>
      simp only [step, free] at taken
      obtain ⟨⟨world, prog⟩, begun, rfl⟩ := map_eq_some_iff.mp taken
      exact .inr (.inl ⟨job, prog, rfl, begun⟩)
  | reply key fate =>
    change fleet.answer before key fate = some after at taken
    cases found : before.pass key with
    | none => simp [answer, found] at taken
    | some pass =>
      obtain ⟨job, history, prog⟩ := pass
      cases prog with
      | done | fail => simp [answer, found] at taken
      | call request next =>
        simp only [answer, found] at taken
        cases some.inj taken
        exact .inr (.inr (.inl ⟨key, fate, _, request, next, by simp [event, found, Pass.asks], found, rfl, rfl⟩))
  | drop key =>
    obtain ⟨pass, _, rfl⟩ := map_eq_some_iff.mp taken
    exact .inr (.inr (.inr (.inr ⟨rfl, rfl⟩)))
  | leave key =>
    change fleet.abandon before key = some after at taken
    unfold abandon at taken
    split at taken
    · split at taken
      · cases some.inj taken
        exact .inr (.inr (.inr (.inr ⟨rfl, rfl⟩)))
      · cases taken
    · cases taken
  | commit index fate =>
    obtain ⟨⟨job, request⟩, found, rfl⟩ := map_eq_some_iff.mp taken
    exact .inr (.inr (.inr (.inl ⟨index, fate, job, request, by simp [event, found], found, rfl⟩)))

end Fleet

-- An automaton over one pass: where it stands, and what it may ask there.
structure Monitor (api : Api) (Job Mark : Type) where
  first : Job → Mark
  next : Job → Mark → Exchange api → Mark
  allowed : Job → Mark → api.Request → Prop

namespace Monitor

variable {api : Api} {Error Value Job Mark : Type} (monitor : Monitor api Job Mark)

def Follows (job : Job) (returned : Mark → Value → Prop) (mark : Mark) : Prog api Error Value → Prop
  | .done value => returned mark value
  | .fail _ => True
  | .call request rest => monitor.allowed job mark request ∧
      ∀ response, Follows job returned (monitor.next job mark ⟨request, response⟩) (rest response)

def reached (job : Job) (history : List (Exchange api)) : Mark := history.foldl (monitor.next job) (monitor.first job)

variable (job : Job)

theorem reached_snoc (history : List (Exchange api)) (exchange : Exchange api) :
    monitor.reached job (history ++ [exchange]) = monitor.next job (monitor.reached job history) exchange := by
  rw [reached, List.foldl_append]
  rfl

-- A program that asks only what is allowed at any mark follows the monitor.
theorem follows_runs (may : List (Exchange api) → api.Request → Prop)
    (returned : List (Exchange api) → Value → Prop) (implied : ∀ history mark request, may history request →
      monitor.allowed job mark request) (history : List (Exchange api)) (mark : Mark) (prog : Prog api Error Value)
    (runs : Prog.Runs may returned history prog) : monitor.Follows job (fun _ _ => True) mark prog := by
  induction prog generalizing history mark with
  | done value => trivial
  | fail error => trivial
  | call request next ih => exact ⟨implied _ _ _ runs.1, fun response => ih response _ _ (runs.2 response)⟩

end Monitor

-- A fleet with each pass reduced to the mark its monitor has reached.
structure Board (api : Api) (World Key Job Mark : Type) where
  world : World
  mark : Key → Option (Job × Mark)
  late : List (Job × api.Request)

namespace Board

variable {Key Job Mark : Type} [DecidableEq Key]

-- What holds of every mark, after one mark is set or cleared.
theorem marks_set (mark : Key → Option (Job × Mark)) (key : Key) (set : Option (Job × Mark))
    (holds : Key → Job → Mark → Prop) (others : ∀ other job reached, other ≠ key → mark other = some (job, reached) →
      holds other job reached) (fresh : ∀ job reached, set = some (job, reached) → holds key job reached)
    (other : Key) (job : Job) (reached : Mark) (found : Function.update mark key set other = some (job, reached)) :
    holds other job reached :=
  (Function.forall_update_iff mark fun key held => ∀ job reached, held = some (job, reached) → holds key job reached).mpr
    ⟨fresh, fun other different job reached => others other job reached different⟩ other job reached found

end Board

namespace Fleet

variable {api : Api} {Error Value World Key Job Fate Change Mark : Type} [DecidableEq Key]
  (fleet : Fleet api Error Value World Key Job Fate Change) (monitor : Monitor api Job Mark)
  (permits : World → Event api Job Change → Bool) (state : State api Error Value World Key Job)

def board : Board api World Key Job Mark :=
  { world := state.world
    mark := fun key => (state.pass key).map fun pass => (pass.job, monitor.reached pass.job pass.history)
    late := state.late }

def Followed : Prop :=
  ∀ key pass, state.pass key = some pass → fleet.key pass.job = key ∧
    monitor.Follows pass.job (fun _ _ => True) (monitor.reached pass.job pass.history) pass.prog

structure Keeps (inv : Board api World Key Job Mark → Prop) : Prop where
  changes : ∀ board change world, inv board → permits board.world (.change change) = true →
    fleet.change board.world change = some world → inv { board with world := world }
  begins : ∀ board job world prog, inv board → board.mark (fleet.key job) = none →
    permits board.world (.begin job) = true → fleet.begin board.world job = some (world, prog) →
      inv { board with world := world, mark := Function.update board.mark (fleet.key job) (some (job, monitor.first job)) }
  serves : ∀ board job mark request fate, inv board → board.mark (fleet.key job) = some (job, mark) →
    monitor.allowed job mark request → permits board.world (.serve job request) = true →
      inv { board with
        world := (fleet.serve board.world fate request).2
        mark := Function.update board.mark (fleet.key job)
          (some (job, monitor.next job mark ⟨request, (fleet.serve board.world fate request).1⟩)) }
  drops : ∀ board key, inv board → inv { board with mark := Function.update board.mark key none }
  leaves : ∀ board job mark request, inv board → board.mark (fleet.key job) = some (job, mark) →
    monitor.allowed job mark request → fleet.lingers request = true →
      inv { board with
        mark := Function.update board.mark (fleet.key job) none
        late := board.late ++ [(job, request)] }
  commits : ∀ board index job request fate, inv board → board.late[index]? = some (job, request) →
    permits board.world (.commit job request) = true →
      inv { board with world := (fleet.serve board.world fate request).2, late := board.late.eraseIdx index }

theorem board_set (key : Key) (pass : Option (Pass api Error Value Job)) :
    (fun other => ((Function.update state.pass key pass) other).map fun pass =>
      (pass.job, monitor.reached pass.job pass.history)) =
    Function.update (board monitor state).mark key
      (pass.map fun pass => (pass.job, monitor.reached pass.job pass.history)) :=
  Function.comp_update (Option.map fun pass : Pass api Error Value Job => (pass.job, monitor.reached pass.job pass.history))
    state.pass key pass

theorem followed_set {state : State api Error Value World Key Job} (world : World) (late : List (Job × api.Request))
    {key : Key} {pass : Option (Pass api Error Value Job)} (followed : fleet.Followed monitor state)
    (set : ∀ running ∈ pass, fleet.key running.job = key ∧
      monitor.Follows running.job (fun _ _ => True) (monitor.reached running.job running.history) running.prog) :
    fleet.Followed monitor ⟨world, Function.update state.pass key pass, late⟩ :=
  (Function.forall_update_iff state.pass fun key held => ∀ running, held = some running →
    fleet.key running.job = key ∧
      monitor.Follows running.job (fun _ _ => True) (monitor.reached running.job running.history) running.prog).mpr
    ⟨set, fun other _ => followed other⟩

variable (inv : Board api World Key Job Mark → Prop) (keeps : fleet.Keeps monitor permits inv)
  (programs : ∀ world job after prog, permits world (.begin job) = true → fleet.begin world job = some (after, prog) →
    monitor.Follows job (fun _ _ => True) (monitor.first job) prog)

include keeps programs

theorem keeps_step {before after : State api Error Value World Key Job} {action : Action Key Job Fate Change}
    (holds : inv (board monitor before)) (followed : fleet.Followed monitor before)
    (taken : (fleet.obeying permits).step before action = some after) :
    inv (board monitor after) ∧ fleet.Followed monitor after := by
  obtain ⟨taken, allowed⟩ := fleet.obeying_step permits before after action taken
  cases action with
  | change change =>
    obtain ⟨world, changed, rfl⟩ := map_eq_some_iff.mp taken
    exact ⟨keeps.changes _ change world holds (allowed _ rfl) changed, followed⟩
  | begin job =>
    cases free : before.pass (fleet.key job) with
    | some running => simp [step, free] at taken
    | none =>
      simp only [step, free] at taken
      obtain ⟨⟨world, prog⟩, begun, rfl⟩ := map_eq_some_iff.mp taken
      have allowed := allowed (.begin job) rfl
      refine ⟨?_, followed_set fleet _ world before.late followed ?_⟩
      · rw [board, board_set]
        exact keeps.begins _ job world prog holds (by simp [board, free]) allowed begun
      · intro running found
        cases some.inj found
        exact ⟨rfl, programs before.world job world prog allowed begun⟩
  | reply key fate =>
    change fleet.answer before key fate = some after at taken
    cases found : before.pass key with
    | none => simp [answer, found] at taken
    | some pass =>
      obtain ⟨job, history, prog⟩ := pass
      cases prog with
      | done | fail => simp [answer, found] at taken
      | call request next =>
        simp only [answer, found] at taken
        cases some.inj taken
        obtain ⟨named, asks, continues⟩ := followed key _ found
        subst named
        have allowed := allowed (.serve job request) (by simp [event, found, Pass.asks])
        refine ⟨?_, followed_set fleet _ _ _ followed ?_⟩
        · have kept := keeps.serves _ job _ request fate holds (by simp [board, found]) asks allowed
          simpa only [board, board_set, map_some, monitor.reached_snoc] using kept
        · intro running same
          cases some.inj same
          refine ⟨rfl, ?_⟩
          rw [monitor.reached_snoc]
          exact continues _
  | drop key =>
    obtain ⟨pass, _, rfl⟩ := map_eq_some_iff.mp taken
    refine ⟨?_, followed_set fleet _ _ _ followed (fun _ found => nomatch found)⟩
    simpa only [board, board_set, map_none] using keeps.drops _ key holds
  | leave key =>
    change fleet.abandon before key = some after at taken
    cases found : before.pass key with
    | none => simp [abandon, found] at taken
    | some pass =>
      obtain ⟨job, history, prog⟩ := pass
      cases prog with
      | done | fail => simp [abandon, found] at taken
      | call request next =>
        by_cases lingers : fleet.lingers request = true
        · simp only [abandon, found, if_pos lingers] at taken
          cases some.inj taken
          obtain ⟨named, asks, _⟩ := followed key _ found
          subst named
          refine ⟨?_, followed_set fleet _ _ _ followed (fun _ found => nomatch found)⟩
          have kept := keeps.leaves _ job _ request holds (by simp [board, found]) asks lingers
          simpa only [board, board_set, map_none] using kept
        · simp [abandon, found, lingers] at taken
  | commit index fate =>
    obtain ⟨⟨job, request⟩, found, rfl⟩ := map_eq_some_iff.mp taken
    have allowed := allowed (.commit job request) (by simp [event, found])
    exact ⟨keeps.commits _ index job request fate holds found allowed, followed⟩

-- What every step on the board keeps, every run keeps, where programs ask what marks allow.
theorem keeps_reachable (initially : ∀ world, fleet.initial world → inv ⟨world, fun _ => none, []⟩)
    (state : State api Error Value World Key Job) (reachable : (fleet.obeying permits).Reachable state) :
    inv (board monitor state) ∧ fleet.Followed monitor state := by
  refine (fleet.obeying permits).invariant (fun state => inv (board monitor state) ∧ fleet.Followed monitor state)
    ?_ ?_ state reachable
  · rintro _ ⟨world, initial, rfl⟩
    exact ⟨initially world initial, fun _ _ found => nomatch found⟩
  · intro before action after holds taken
    exact keeps_step fleet _ _ inv keeps programs holds.1 holds.2 taken

end Fleet

end AppRafter.Lib
