import Mathlib.Logic.Relation
import AppRafter.Lib.Fleet

set_option autoImplicit false

namespace AppRafter.Lib

open Option

namespace Fleet

variable {api : Api} {Error Value World Job Fate Change : Type}

def Pass.finished (pass : Pass api Error Value Job) : Bool :=
  match pass.prog with
  | .call _ _ => false
  | _ => true

-- A pass ends by itself, or is cut where `cuts` says so; its calls are answered or not made.
def soloAction (cuts : Bool) (state : State api Error Value World Unit Job) : Action Unit Job Fate Change → Bool
  | .drop key => cuts || (state.pass key).all Pass.finished
  | .leave _ => false
  | _ => true

variable (fleet : Fleet api Error Value World Unit Job Fate Change) (permits : World → Event api Job Change → Bool) (cuts : Bool)

def solo : System (State api Error Value World Unit Job) (Action Unit Job Fate Change) :=
  fleet.system.restrict fun state action => permitted permits state action && soloAction cuts state action

def Changes (before after : World) : Prop :=
  ∃ change, permits before (.change change) = true ∧ fleet.change before change = some after

def Relies : World → World → Prop := Relation.ReflTransGen (fleet.Changes permits)

variable (inv safe : World → Prop) (check : Job → World → api.Request → Prop)

-- It asks only what `check` admits and stays safe, whatever changes between its calls.
def Guards (job : Job) : Prog api Error Value → World → Prop
  | .done _, world => inv world
  | .fail _, world => inv world
  | .call request next, world => safe world ∧
      ∀ later, fleet.Relies permits world later → permits later (.serve job request) = true → check job later request ∧
          ∀ fate, Guards job (next (fleet.serve later fate request).1) (fleet.serve later fate request).2

structure Sound : Prop where
  initially : ∀ world, fleet.initial world → inv world
  inv_safe : ∀ world, inv world → safe world
  cut : cuts = true → ∀ world, safe world → inv world
  inv_stable : ∀ before after, inv before → fleet.Changes permits before after → inv after
  safe_stable : ∀ before after, safe before → fleet.Changes permits before after → safe after
  begins : ∀ before job after prog, inv before → permits before (.begin job) = true →
    fleet.begin before job = some (after, prog) → fleet.Guards permits inv safe check job prog after

def SoloInv (state : State api Error Value World Unit Job) : Prop :=
  state.late = [] ∧ match state.pass () with
    | none => inv state.world
    | some pass => ∃ since, fleet.Relies permits since state.world ∧ fleet.Guards permits inv safe check pass.job pass.prog since

theorem relies_keeps (kept : World → Prop) (stable : ∀ before after, kept before → fleet.Changes permits before after → kept after)
    (before after : World) (relied : fleet.Relies permits before after) (holds : kept before) : kept after := by
  induction relied with
  | refl => exact holds
  | tail _ changed ih => exact stable _ _ ih changed

-- One call, by facts that hold before it and that no change breaks.
theorem guards_facts (facts : World → Prop) (held : ∀ world, facts world → safe world)
    (stable : ∀ before after, facts before → fleet.Changes permits before after → facts after) (job : Job) (request : api.Request)
    (next : api.Response request → Prog api Error Value) (world : World) (holds : facts world)
    (rest : ∀ later, facts later → permits later (.serve job request) = true → check job later request ∧
        ∀ fate, fleet.Guards permits inv safe check job (next (fleet.serve later fate request).1) (fleet.serve later fate request).2) :
    fleet.Guards permits inv safe check job (.call request next) world := by
  refine ⟨held world holds, ?_⟩
  intro later relied permit
  exact rest later (fleet.relies_keeps permits facts stable world later relied holds) permit

variable {fleet permits cuts inv safe check}

variable {before after state : State api Error Value World Unit Job} {key : Unit} {job : Job}
  {action : Action Unit Job Fate Change}

theorem solo_reply {fate : Fate}
    (holds : fleet.SoloInv permits inv safe check before) (permit : permitted permits before (.reply key fate) = true)
    (moved : fleet.answer before key fate = some after) : fleet.SoloInv permits inv safe check after := by
  obtain ⟨none, standing⟩ := holds
  cases found : before.pass key with
  | none => simp [answer, found] at moved
  | some pass =>
    obtain ⟨job, history, prog⟩ := pass
    cases prog with
    | done | fail => simp [answer, found] at moved
    | call request next =>
      have running : before.pass () = some ⟨job, history, .call request next⟩ := found
      simp only [running] at standing
      obtain ⟨since, relied, guards⟩ := standing
      simp only [answer, found] at moved
      cases some.inj moved
      have asked : permits before.world (.serve job request) = true := by
        simpa [permitted, event, found, Pass.asks] using permit
      refine ⟨none, ?_⟩
      exact ⟨_, .refl, (guards.2 before.world relied asked).2 fate⟩

variable (sound : fleet.Sound permits cuts inv safe check)

include sound

theorem Guards.leaves (job : Job) (prog : Prog api Error Value) (world later : World)
    (guards : fleet.Guards permits inv safe check job prog world) (relied : fleet.Relies permits world later) : safe later := by
  have held : safe world := by
    cases prog with
    | done | fail => exact sound.inv_safe world guards
    | call request next => exact guards.1
  exact fleet.relies_keeps permits safe sound.safe_stable world later relied held

theorem solo_change (change : Change)
    (holds : fleet.SoloInv permits inv safe check before) (permit : permits before.world (.change change) = true)
    (moved : fleet.step before (.change change) = some after) : fleet.SoloInv permits inv safe check after := by
  obtain ⟨none, standing⟩ := holds
  obtain ⟨world, changed, rfl⟩ := map_eq_some_iff.mp moved
  have step : fleet.Changes permits before.world world := ⟨change, permit, changed⟩
  refine ⟨none, ?_⟩
  cases found : before.pass () with
  | none =>
    simp only [found] at standing ⊢
    exact sound.inv_stable _ _ standing step
  | some pass =>
    simp only [found] at standing ⊢
    obtain ⟨since, relied, guards⟩ := standing
    exact ⟨since, relied.tail step, guards⟩

variable (holds : fleet.SoloInv permits inv safe check before)

include holds in
theorem solo_begin (permit : permits before.world (.begin job) = true)
    (moved : fleet.step before (.begin job) = some after) : fleet.SoloInv permits inv safe check after := by
  obtain ⟨none, standing⟩ := holds
  cases free : before.pass (fleet.key job) with
  | some running => simp [step, free] at moved
  | none =>
    simp only [step, free] at moved
    obtain ⟨⟨world, prog⟩, begun, rfl⟩ := map_eq_some_iff.mp moved
    have idle : before.pass () = Option.none := free
    simp only [idle] at standing
    refine ⟨none, ?_⟩
    simp only [Function.update_self]
    exact ⟨world, .refl, sound.begins before.world job world prog standing permit begun⟩

include holds in
-- A pass that has ended leaves the invariant; one that is cut leaves what is safe.
theorem solo_drop (ends : (cuts || (before.pass key).all Pass.finished) = true)
    (moved : fleet.step before (.drop key) = some after) : fleet.SoloInv permits inv safe check after := by
  obtain ⟨none, standing⟩ := holds
  obtain ⟨pass, found, rfl⟩ := map_eq_some_iff.mp moved
  have running : before.pass () = some pass := found
  simp only [running] at standing
  obtain ⟨since, relied, guards⟩ := standing
  refine ⟨none, ?_⟩
  simp only [Function.update_self]
  by_cases cutting : cuts = true
  · exact sound.cut cutting _ (guards.leaves sound pass.job pass.prog since before.world relied)
  · have ended : pass.finished = true := by simpa [cutting, found] using ends
    have kept : inv since := by
      obtain ⟨job, history, prog⟩ := pass
      cases prog with
      | done value => exact guards
      | fail error => exact guards
      | call request next => cases ended
    exact fleet.relies_keeps permits inv sound.inv_stable since _ relied kept

include holds in
theorem solo_step (taken : (fleet.solo permits cuts).step before action = some after) :
    fleet.SoloInv permits inv safe check after := by
  obtain ⟨allowed, moved⟩ := fleet.system.restrict_step _ before after action taken
  obtain ⟨permit, ends⟩ := Bool.and_eq_true_iff.mp allowed
  change fleet.step before action = some after at moved
  cases action with
  | change change => exact solo_change sound change holds permit moved
  | begin job => exact solo_begin sound holds permit moved
  | reply key fate => exact solo_reply holds permit moved
  | drop key => exact solo_drop sound holds ends moved
  | leave key => cases ends
  | commit index fate =>
    rw [step, holds.1] at moved
    cases moved

theorem solo_reachable (reachable : (fleet.solo permits cuts).Reachable state) : fleet.SoloInv permits inv safe check state := by
  apply (fleet.solo permits cuts).invariant (fleet.SoloInv permits inv safe check) _ _ state reachable
  · rintro _ ⟨world, initial, rfl⟩
    exact ⟨rfl, sound.initially world initial⟩
  · intro before action after holds taken
    exact solo_step sound holds taken

theorem solo_safe (reachable : (fleet.solo permits cuts).Reachable state) : safe state.world := by
  have standing := (solo_reachable sound reachable).2
  cases found : state.pass () with
  | none =>
    simp only [found] at standing
    exact sound.inv_safe _ standing
  | some pass =>
    simp only [found] at standing
    obtain ⟨since, relied, guards⟩ := standing
    exact guards.leaves sound pass.job pass.prog since state.world relied

-- Every call made in a run is one that `check` admits.
theorem solo_checked {request : api.Request} (reachable : (fleet.solo permits cuts).Reachable before)
    (taken : (fleet.solo permits cuts).step before action = some after)
    (serves : event before action = some (.serve job request)) : check job before.world request := by
  have standing := (solo_reachable sound reachable).2
  obtain ⟨allowed, -⟩ := fleet.system.restrict_step _ before after action taken
  obtain ⟨permit, -⟩ := Bool.and_eq_true_iff.mp allowed
  obtain ⟨key, pass, found, same, next, asks⟩ := event_serve serves
  have running : before.pass () = some pass := found
  simp only [running] at standing
  obtain ⟨since, relied, guards⟩ := standing
  rw [asks, same] at guards
  have asked : permits before.world (.serve job request) = true := by simpa [permitted, serves] using permit
  exact (guards.2 before.world relied asked).1

end Fleet

end AppRafter.Lib
