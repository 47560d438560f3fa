import Mathlib.Logic.Basic
import Mathlib.Data.List.Chain

set_option autoImplicit false

namespace AppRafter.Lib

open List

theorem chain_last {α : Type} (keep : α → Prop) (step across : α → α → Prop)
    (append : ∀ a b c, across a b → keep b → keep c → step b c → across a c) (first : α) (rest : List α)
    (start : across first first) (kept : ∀ x ∈ first :: rest, keep x) (chain : (first :: rest).IsChain step) :
    across first ((first :: rest).getLast (cons_ne_nil first rest)) := by
  have linked := chain.imp_of_mem_imp fun b c here there taken => And.intro (kept b here) (And.intro (kept c there) taken)
  refine linked.induction (across first) _ ?_ (fun _ => start) _ (getLast_mem _)
  rintro b c ⟨keptB, keptC, taken⟩ reached
  exact append first b c reached keptB keptC taken

open Option

-- Each action carries its environment's choices, so it leaves one state behind or none.
structure System (State Action : Type) where
  initial : State → Prop
  step : State → Action → Option State

namespace System

variable {State Action : Type} (system : System State Action)

inductive Reachable : State → Prop where
  | initial (s : State) (start : system.initial s) : Reachable s
  | step (s t : State) (action : Action) (previous : Reachable s)
      (taken : system.step s action = some t) : Reachable t

theorem invariant (inv : State → Prop) (start : ∀ s, system.initial s → inv s)
    (preserved : ∀ s action t, inv s → system.step s action = some t → inv t)
    (s : State) (reachable : system.Reachable s) : inv s := by
  induction reachable with
  | initial s initially => exact start s initially
  | step s t action _ taken ih => exact preserved s action t ih taken

def run (s : State) : List Action → Option State
  | [] => some s
  | action :: rest => (system.step s action).bind fun t => run t rest

theorem reachable_run (s : State) (reachable : system.Reachable s) (actions : List Action) (t : State)
    (finished : system.run s actions = some t) : system.Reachable t := by
  induction actions generalizing s with
  | nil =>
    have same : s = t := some.inj finished
    exact same ▸ reachable
  | cons action rest ih =>
    obtain ⟨middle, taken, remaining⟩ := bind_eq_some_iff.mp finished
    exact ih middle (.step s middle action reachable taken) remaining

variable {s : State} {actions : List Action} {Shown : Type} {view : State → Shown} {shown : Shown}

theorem run_shows (finished : (system.run s actions).map view = some shown) (start : system.initial s) :
    ∃ t, system.Reachable t ∧ view t = shown := by
  obtain ⟨t, ran, seen⟩ := map_eq_some_iff.mp finished
  exact ⟨t, system.reachable_run s (.initial s start) actions t ran, seen⟩

theorem run_then_shows {last : Action} {view : State → State → Shown}
    (finished : ((system.run s actions).bind fun t => (system.step t last).map fun next => view t next) = some shown)
    (start : system.initial s) : ∃ t next, system.Reachable t ∧ system.step t last = some next ∧ view t next = shown := by
  obtain ⟨t, ran, finished⟩ := bind_eq_some_iff.mp finished
  obtain ⟨next, taken, seen⟩ := map_eq_some_iff.mp finished
  exact ⟨t, next, system.reachable_run s (.initial s start) actions t ran, taken, seen⟩

-- What every step from a reachable state keeps, every run keeps.
theorem run_keeps (kept : State → Prop)
    (preserved : ∀ s action t, system.Reachable s → kept s → system.step s action = some t → kept t)
    (s : State) (reachable : system.Reachable s) (holds : kept s) (actions : List Action) (t : State)
    (finished : system.run s actions = some t) : kept t := by
  induction actions generalizing s with
  | nil =>
    have same : s = t := some.inj finished
    exact same ▸ holds
  | cons action rest ih =>
    obtain ⟨middle, taken, remaining⟩ := bind_eq_some_iff.mp finished
    exact ih middle (.step s middle action reachable taken) (preserved s action middle reachable holds taken) remaining

def restrict (permits : State → Action → Bool) : System State Action :=
  { initial := system.initial
    step := fun s action => if permits s action then system.step s action else none }

theorem restrict_step (permits : State → Action → Bool) (s t : State) (action : Action)
    (taken : (system.restrict permits).step s action = some t) :
    permits s action = true ∧ system.step s action = some t := by
  by_cases permitted : permits s action = true
  · simp only [restrict, permitted] at taken
    exact ⟨permitted, taken⟩
  · simp only [restrict, permitted] at taken
    cases taken

end System

end AppRafter.Lib
