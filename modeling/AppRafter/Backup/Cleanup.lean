import AppRafter.Lib.Await

set_option autoImplicit false

namespace AppRafter.Backup

open Lib

structure HelperPod where
  ns : String
  name : String
  deriving DecidableEq

-- A pod to use, one left from an earlier run, or an error.
inductive Applied where
  | usable
  | stale (why : String)
  | failed (e : String)

-- `work` is any of the rest: waiting for the pod, the exec.
inductive WorkRequest where
  | beginApply (pod : HelperPod)
  | patch (pod : HelperPod)
  | endApply
  | delete (pod : HelperPod)
  | getPod (pod : HelperPod)
  | removePod (pod : HelperPod)
  | work
  | spawn (argv : List String)
  | waitExit (pid : Nat)
  | removePid (pid : Nat)
  | reap (pid : Nat)

def workApi : Api where
  Request := WorkRequest
  Response
    | .beginApply _ => Bool
    | .patch _ => Applied
    | .endApply => Unit
    | .delete _ => Except String Unit
    | .getPod _ => Except String Bool
    | .removePod _ => Unit
    | .work => Except String Unit
    | .spawn _ => Except String Nat
    | .waitExit _ => Unit
    | .removePid _ => Unit
    | .reap _ => Except String Unit

abbrev WorkProg (Value : Type) := Prog workApi String Value

def does (request : WorkRequest) : WorkProg (workApi.Response request) := .call request .done

def orFail {Value : Type} : Except String Value → WorkProg Value
  | .ok value => .done value
  | .error e => .fail e

variable (pod : HelperPod)

def notApplied : String :=
  "the run is being stopped, so helper pod " ++ pod.ns ++ "/" ++ pod.name ++ " was not applied"

def begun (accepted : Bool) : WorkProg Unit := if accepted then pure () else .fail (notApplied pod)

def stillThere : String :=
  "the stale helper pod " ++ pod.name ++ " in " ++ pod.ns ++ " was still there 60s after it was deleted (its node may be " ++
    "unreachable); delete it with `kubectl delete pod " ++ pod.name ++ " -n " ++ pod.ns ++
    " --force --grace-period=0` and run again"

-- The polls the bound leaves, one after another.
def waitGone (pod : HelperPod) : Nat → WorkProg Unit
  | 0 => .fail (stillThere pod)
  | polls + 1 => do
      let answer ← does (.getPod pod)
      let present ← orFail answer
      if present then waitGone pod polls else pure ()

variable (polls : Nat)

def deleteAndWaitGone : WorkProg Unit := do
  let answer ← does (.delete pod)
  orFail answer
  waitGone pod polls

def appliedOnce : Applied → WorkProg Unit
  | .failed e => .fail e
  | _ => pure ()

def replaceStale : WorkProg Unit := do
  deleteAndWaitGone pod polls
  let accepted ← does (.beginApply pod)
  begun pod accepted
  let applied ← does (.patch pod)
  does .endApply
  appliedOnce applied

def afterApply : Applied → WorkProg Unit
  | .usable => pure ()
  | .stale _ => replaceStale pod polls
  | .failed e => .fail e

def applyReplacingStale : WorkProg Unit := do
  let accepted ← does (.beginApply pod)
  begun pod accepted
  let applied ← does (.patch pod)
  does .endApply
  afterApply pod polls applied

def useHelper : WorkProg Unit := do
  applyReplacingStale pod polls
  let answer ← does .work
  orFail answer

-- The pod is deleted, and then forgotten whatever the delete answered.
def withHelper : WorkProg (Except String Unit) := do
  let result ← (useHelper pod polls).attempt
  let _ ← does (.delete pod)
  does (.removePod pod)
  pure result

def resticChild (pid : Nat) : WorkProg Unit := do
  does (.waitExit pid)
  does (.removePid pid)
  let status ← does (.reap pid)
  orFail status

def output (argv : List String) : WorkProg Unit := do
  let spawned ← does (.spawn argv)
  let pid ← orFail spawned
  resticChild pid

inductive RunPlan where
  | finished
  | helper (pod : HelperPod) (polls : Nat) (next : Except String Unit → RunPlan)
  | restic (argv : List String) (next : Except String Unit → RunPlan)

def RunPlan.prog : RunPlan → WorkProg Unit
  | .finished => pure ()
  | .helper pod polls next => do
      let result ← withHelper pod polls
      (next result).prog
  | .restic argv next => do
      let result ← (output argv).attempt
      (next result).prog

inductive CleanupEvent where
  | created (pod : HelperPod)
  | deleted (pod : HelperPod)
  | started (pid : Nat)
  | exited (pid : Nat)
  | reaped (pid : Nat)
  | closed
  | signalled (pid : Nat)
  deriving DecidableEq

structure LiveHelpers where
  pods : List HelperPod
  applying : Nat
  stopping : Bool

structure LiveChildren where
  pids : List Nat
  stopping : Bool

-- The stop's work on the helper pods: its deletes, once it has taken the list.
inductive HelperStop where
  | idle
  | closed
  | settled
  | deleting (left : List HelperPod)
  deriving DecidableEq

-- The log, newest first, is the apiserver's and the kernel's.
structure CleanupState where
  helpers : LiveHelpers
  children : LiveChildren
  log : List CleanupEvent
  run : WorkProg Unit
  stop : HelperStop

def CleanupEvent.ofPod (event : CleanupEvent) : Bool := event = .created pod || event = .deleted pod

def CleanupEvent.ofPid (pid : Nat) (event : CleanupEvent) : Bool :=
  event = .started pid || event = .exited pid || event = .reaped pid

def lastOfPod (log : List CleanupEvent) (pod : HelperPod) : Option CleanupEvent := log.find? (CleanupEvent.ofPod pod)

def lastOfPid (log : List CleanupEvent) (pid : Nat) : Option CleanupEvent := log.find? (CleanupEvent.ofPid pid)

variable (state : CleanupState)

def CleanupState.emit (event : CleanupEvent) : CleanupState := { state with log := event :: state.log }

def insertPod (pods : List HelperPod) (pod : HelperPod) : List HelperPod := if pod ∈ pods then pods else pod :: pods

def CleanupState.beginApply (pod : HelperPod) : CleanupState :=
  if state.helpers.stopping then state
  else { state with helpers :=
    { state.helpers with pods := insertPod state.helpers.pods pod, applying := state.helpers.applying + 1 } }

def CleanupState.endApply : CleanupState :=
  { state with helpers := { state.helpers with applying := state.helpers.applying - 1 } }

def CleanupState.removePod (pod : HelperPod) : CleanupState :=
  { state with helpers := { state.helpers with pods := state.helpers.pods.filter fun other => other ≠ pod } }

def CleanupState.removePid (pid : Nat) : CleanupState :=
  { state with children := { state.children with pids := state.children.pids.filter fun other => other ≠ pid } }

def refusedStart (argv : List String) : String :=
  "the run is being stopped, so restic " ++ argv.head?.getD "?" ++ " was not started"

-- The kernel gives a new child the pid of none that is still to be reaped.
def CleanupState.spawned (argv : List String) :
    Except String Nat → Option (Except String Nat × CleanupState)
  | .error e => some (if state.children.stopping then .error (refusedStart argv) else .error e, state)
  | .ok pid =>
    if state.children.stopping then some (.error (refusedStart argv), state)
    else if lastOfPid state.log pid = none ∨ lastOfPid state.log pid = some (.reaped pid) then
      some (.ok pid, { state.emit (.started pid) with
        children := { state.children with pids := pid :: state.children.pids } })
    else none

variable (answers : (request : WorkRequest) → workApi.Response request)

def CleanupState.serve :
    (request : WorkRequest) → Option (workApi.Response request × CleanupState)
  | .beginApply pod => some (!state.helpers.stopping, state.beginApply pod)
  | .patch pod => some (answers (.patch pod), state)
  | .endApply => some ((), state.endApply)
  | .delete pod => some (answers (.delete pod), state.emit (.deleted pod))
  | .getPod pod => some (answers (.getPod pod), state)
  | .removePod pod => some ((), state.removePod pod)
  | .work => some (answers .work, state)
  | .spawn argv => state.spawned argv (answers (.spawn argv))
  | .waitExit pid => if lastOfPid state.log pid = some (.exited pid) then some ((), state) else none
  | .removePid pid => some ((), state.removePid pid)
  | .reap pid => some (answers (.reap pid), state.emit (.reaped pid))

inductive CleanupAction where
  | run (answers : (request : WorkRequest) → workApi.Response request)
  | create
  | exit (pid : Nat)
  | close
  | settle (expired : Bool)
  | snapshot
  | delete (pod : HelperPod)
  | closeAndSignal

def CleanupState.runStep :
    Option CleanupState :=
  match state.run with
  | .call request next =>
    (state.serve answers request).map fun answered => { answered.2 with run := next answered.1 }
  | _ => none

def CleanupState.create : Option CleanupState :=
  match state.run with
  | .call (.patch pod) _ => some (state.emit (.created pod))
  | _ => none

def CleanupState.closeAndSignal : CleanupState :=
  { state with
    children := { state.children with stopping := true }
    log := state.children.pids.map CleanupEvent.signalled ++ .closed :: state.log }

def CleanupState.stopStep : CleanupAction → Option CleanupState
  | .close =>
    if state.stop = .idle then
      some { state with helpers := { state.helpers with stopping := true }, stop := .closed }
    else none
  | .settle expired =>
    if state.stop = .closed ∧ (state.helpers.applying = 0 ∨ expired = true) then some { state with stop := .settled }
    else none
  | .snapshot => if state.stop = .settled then some { state with stop := .deleting state.helpers.pods } else none
  | .delete pod =>
    match state.stop with
    | .deleting left =>
      if pod ∈ left then
        some { state.emit (.deleted pod) with stop := .deleting (left.filter fun other => other ≠ pod) }
      else none
    | _ => none
  | _ => none

def CleanupState.step : CleanupAction → Option CleanupState
  | .run answers => state.runStep answers
  | .create => state.create
  | .exit pid => if lastOfPid state.log pid = some (.started pid) then some (state.emit (.exited pid)) else none
  | .closeAndSignal => some state.closeAndSignal
  | action => state.stopStep action

def startedWith (plan : RunPlan) : CleanupState := ⟨⟨[], 0, false⟩, ⟨[], false⟩, [], plan.prog, .idle⟩

def cleanupSystem (plan : RunPlan) : System CleanupState CleanupAction where
  initial state := state = startedWith plan
  step := CleanupState.step

def answeredInTime : CleanupAction → Bool
  | .settle _ => state.helpers.applying = 0
  | _ => true

-- Every created pod has had a delete; no restic starts late, runs unsignalled or is signalled reaped.
structure NothingOutlives (state : CleanupState) : Prop where
  pods : state.stop = .deleting [] → ∀ pod, lastOfPod state.log pod ≠ some (.created pod)
  refused : ∀ later earlier, state.log = later ++ .closed :: earlier → ∀ pid, CleanupEvent.started pid ∉ later
  signalled : ∀ later earlier, state.log = later ++ .closed :: earlier → ∀ pid,
    lastOfPid earlier pid = some (.started pid) → .signalled pid ∈ later
  unreaped : ∀ later earlier pid, state.log = later ++ .signalled pid :: earlier →
    lastOfPid earlier pid = some (.started pid) ∨ lastOfPid earlier pid = some (.exited pid)

-- An apply under way, a pod deleted and not yet forgotten, a child at a point of its end.
inductive Holding where
  | free
  | applying (pod : HelperPod)
  | deleted (pod : HelperPod)
  | child (pid : Nat)
  | exitedChild (pid : Nat)
  | removedChild (pid : Nat)
  deriving DecidableEq

def Holding.quiet : Holding → Prop
  | .free => True
  | .deleted _ => True
  | _ => False

section Orderly

variable {Value Result : Type}

-- An apply counts while its request is out; a pod is forgotten right after its delete.
def Orderly : WorkProg Value → Holding → Prop
  | .done _, holding => holding.quiet
  | .fail _, holding => holding.quiet
  | .call (.beginApply pod) next, holding =>
    holding.quiet ∧ Orderly (next true) (.applying pod) ∧ Orderly (next false) .free
  | .call (.patch pod) next, holding => holding = .applying pod ∧ ∀ answer, Orderly (next answer) (.applying pod)
  | .call .endApply next, holding => (∃ pod, holding = .applying pod) ∧ Orderly (next ()) .free
  | .call (.delete pod) next, holding => holding.quiet ∧ ∀ answer, Orderly (next answer) (.deleted pod)
  | .call (.getPod _) next, holding => holding.quiet ∧ ∀ answer, Orderly (next answer) .free
  | .call (.removePod pod) next, holding => holding = .deleted pod ∧ Orderly (next ()) .free
  | .call .work next, holding => holding.quiet ∧ ∀ answer, Orderly (next answer) .free
  | .call (.spawn _) next, holding =>
    holding.quiet ∧ (∀ e, Orderly (next (.error e)) .free) ∧ ∀ pid, Orderly (next (.ok pid)) (.child pid)
  | .call (.waitExit pid) next, holding => holding = .child pid ∧ Orderly (next ()) (.exitedChild pid)
  | .call (.removePid pid) next, holding => holding = .exitedChild pid ∧ Orderly (next ()) (.removedChild pid)
  | .call (.reap pid) next, holding => holding = .removedChild pid ∧ ∀ answer, Orderly (next answer) .free

theorem orderly_quiet {prog : WorkProg Value} {holding : Holding} (quiet : holding.quiet) (orderly : Orderly prog .free) :
    Orderly prog holding := by
  cases prog with
  | done value => exact quiet
  | fail e => exact quiet
  | call request next =>
    cases request with
    | beginApply pod => exact ⟨quiet, orderly.2⟩
    | patch pod => cases orderly.1
    | endApply => obtain ⟨pod, held⟩ := orderly.1; cases held
    | delete | getPod => exact ⟨quiet, orderly.2⟩
    | removePod pod => cases orderly.1
    | work | spawn => exact ⟨quiet, orderly.2⟩
    | waitExit | removePid | reap => cases orderly.1

variable (prog : WorkProg Value)

theorem orderly_bind {rest : Value → WorkProg Result} (holding : Holding)
    (first : Orderly prog holding) (after : ∀ value, Orderly (rest value) .free) : Orderly (prog >>= rest) holding := by
  induction prog generalizing holding with
  | done value => exact orderly_quiet first (after value)
  | fail e => exact first
  | call request next ih =>
    cases request with
    | beginApply pod => exact ⟨first.1, ih _ _ first.2.1, ih _ _ first.2.2⟩
    | patch pod => exact ⟨first.1, fun answer => ih _ _ (first.2 answer)⟩
    | endApply => exact ⟨first.1, ih _ _ first.2⟩
    | delete | getPod => exact ⟨first.1, fun answer => ih _ _ (first.2 answer)⟩
    | removePod pod => exact ⟨first.1, ih _ _ first.2⟩
    | work => exact ⟨first.1, fun answer => ih _ _ (first.2 answer)⟩
    | spawn argv => exact ⟨first.1, fun e => ih _ _ (first.2.1 e), fun pid => ih _ _ (first.2.2 pid)⟩
    | waitExit | removePid => exact ⟨first.1, ih _ _ first.2⟩
    | reap pid => exact ⟨first.1, fun answer => ih _ _ (first.2 answer)⟩

theorem orderly_attempt (holding : Holding) (orderly : Orderly prog holding) :
    Orderly (prog.attempt : WorkProg (Except String Value)) holding := by
  induction prog generalizing holding with
  | done value => exact orderly
  | fail e => exact orderly
  | call request next ih =>
    cases request with
    | beginApply pod => exact ⟨orderly.1, ih _ _ orderly.2.1, ih _ _ orderly.2.2⟩
    | patch pod => exact ⟨orderly.1, fun answer => ih _ _ (orderly.2 answer)⟩
    | endApply => exact ⟨orderly.1, ih _ _ orderly.2⟩
    | delete | getPod => exact ⟨orderly.1, fun answer => ih _ _ (orderly.2 answer)⟩
    | removePod pod => exact ⟨orderly.1, ih _ _ orderly.2⟩
    | work => exact ⟨orderly.1, fun answer => ih _ _ (orderly.2 answer)⟩
    | spawn argv => exact ⟨orderly.1, fun e => ih _ _ (orderly.2.1 e), fun pid => ih _ _ (orderly.2.2 pid)⟩
    | waitExit | removePid => exact ⟨orderly.1, ih _ _ orderly.2⟩
    | reap pid => exact ⟨orderly.1, fun answer => ih _ _ (orderly.2 answer)⟩

theorem or_fail_orderly (answer : Except String Value) (holding : Holding) (quiet : holding.quiet) :
    Orderly (orFail answer) holding := by
  cases answer with
  | ok value => exact quiet
  | error e => exact quiet

end Orderly

variable (pod : HelperPod) (polls : Nat)

theorem wait_gone_orderly : Orderly (waitGone pod polls) .free := by
  induction polls with
  | zero => trivial
  | succ polls ih =>
    refine ⟨trivial, fun answer => ?_⟩
    refine orderly_bind (orFail answer) .free (or_fail_orderly answer .free trivial) fun present => ?_
    cases present with
    | true => exact ih
    | false => trivial

theorem apply_orderly {rest : Applied → WorkProg Unit} (after : ∀ applied, Orderly (rest applied) .free) : Orderly (do
      let accepted ← does (.beginApply pod)
      begun pod accepted
      let applied ← does (.patch pod)
      does .endApply
      rest applied) .free := by
  refine ⟨trivial, ⟨rfl, fun applied => ⟨⟨pod, rfl⟩, after applied⟩⟩, trivial⟩

theorem replace_orderly : Orderly (replaceStale pod polls) .free := by
  have gone : Orderly (deleteAndWaitGone pod polls) .free := by
    refine ⟨trivial, fun answer => ?_⟩
    exact orderly_bind (orFail answer) (.deleted pod) (or_fail_orderly answer _ trivial) fun _ => wait_gone_orderly pod polls
  refine orderly_bind _ .free gone fun _ => apply_orderly pod ?_
  intro applied
  cases applied <;> trivial

theorem use_orderly : Orderly (useHelper pod polls) .free := by
  have applies : Orderly (applyReplacingStale pod polls) .free := by
    refine apply_orderly pod ?_
    intro applied
    cases applied with
    | usable => trivial
    | stale why => exact replace_orderly pod polls
    | failed e => trivial
  exact orderly_bind _ .free applies fun _ => ⟨trivial, fun answer => or_fail_orderly answer .free trivial⟩

theorem helper_orderly : Orderly (withHelper pod polls) .free := by
  refine orderly_bind _ .free (orderly_attempt _ .free (use_orderly pod polls)) fun result => ?_
  exact ⟨trivial, fun _ => ⟨rfl, trivial⟩⟩

theorem output_orderly (argv : List String) : Orderly (output argv) .free := by
  refine ⟨trivial, fun e => trivial, fun pid => ⟨rfl, rfl, rfl, fun status => ?_⟩⟩
  exact or_fail_orderly status .free trivial

theorem plan_orderly (plan : RunPlan) : Orderly plan.prog .free := by
  induction plan with
  | finished => trivial
  | helper pod polls next ih => exact orderly_bind _ .free (helper_orderly pod polls) ih
  | restic argv next ih => exact orderly_bind _ .free (orderly_attempt _ .free (output_orderly argv)) ih

end AppRafter.Backup
