import AppRafter.Backup.CheckRun

set_option autoImplicit false

namespace AppRafter.Backup

open Lib

def Record.phase : Record → Option CheckPhase
  | .backup .. => none
  | .check .. => some .check
  | .prune .. => some .prune
  | .stats .. => some .stats

-- A stop while the figures are read has nothing to record.
def stopRecord (phase : CheckPhase) (error now : String) : Option Record :=
  match phase with
  | .check => some (.check (.failed error) now)
  | .prune => some (.prune (.failed error) now)
  | .stats => none

-- Its restic runs or is about to, or nothing of it is left but its record.
inductive Standing where
  | inside (phase : CheckPhase)
  | enters (phase : CheckPhase)
  | past
  deriving DecidableEq

def Standing.phase : Standing → Option CheckPhase
  | .inside phase => some phase
  | .enters phase => some phase
  | .past => none

def ahead {Value : Type} : RunProg Value → Standing
  | .call (.setPhase phase) _ => .enters phase
  | .call (.unlock _) _ => .inside .check
  | .call (.check _ _) _ => .inside .check
  | .call (.repository _) _ => .inside .prune
  | .call .readClusterUid _ => .inside .prune
  | .call (.stats _) _ => .inside .stats
  | .call .getStatus next => ahead (next (.error ""))
  | .call (.applyStatus _ _) next => ahead (next (.ok ()))
  | .call .isClaimed _ => .past
  | .call .claim _ => .past
  | .done _ => .past
  | .fail _ => .past

-- From the figures on, the check and the prune are recorded.
def standing {Value : Type} (phase : CheckPhase) (run : RunProg Value) : Standing :=
  match ahead run with
  | .enters next => if next = phase then .inside phase else .enters next
  | .inside next => .inside next
  | .past => if phase = .stats then .inside .stats else .past

inductive Owner where
  | run
  | stop
  deriving DecidableEq

-- The steps of `stopRunWith` once it holds the claim; at its end, how the write went.
inductive StopPoint where
  | releasing (error : String)
  | reading (error : String)
  | getting (record : Record)
  | applying (record : Record) (live : Option (Dict String))
  | ended (result : Option (Except String Unit))

structure StopRun where
  point : StopPoint
  standing : Standing
  moves : Nat

structure JobState where
  claimed : Bool
  phase : CheckPhase
  live : Option (Dict String)
  written : List (Owner × Record)
  run : RunProg (Option Nat)
  stop : Option StopRun

def StopRun.moved (stop : StopRun) : StopRun := { stop with moves := stop.moves + 1 }

variable (state : JobState)

def JobState.move (phase : CheckPhase) : JobState :=
  if phase = state.phase then state else { state with phase := phase, stop := state.stop.map StopRun.moved }

def JobState.land (owner : Owner) (record : Record) (live : Option (Dict String)) : JobState :=
  { state with live := some (appliedData live record.data), written := (owner, record) :: state.written }

def JobState.answered (owner : Owner) (record : Record) (live : Option (Dict String)) (lands : Bool) :
    Except String Unit → JobState
  | .ok () => state.land owner record live
  | .error _ => if lands then state.land owner record live else state

variable (live : Option (Dict String))

def readLive : Except String (Option (Dict String)) → Except String (Option (Dict String))
  | .ok _ => .ok live
  | .error e => .error e

variable (answers : (request : RunRequest) → runApi.Response request)

def JobState.response :
    (request : RunRequest) → runApi.Response request
  | .isClaimed => state.claimed
  | .claim => !state.claimed
  | .getStatus => readLive state.live (answers .getStatus)
  | request => answers request

def JobState.serve (lands : Bool) :
    RunRequest → JobState
  | .setPhase phase => state.move phase
  | .claim => { state with claimed := true }
  | .applyStatus record live => state.answered .run record live lands (answers (.applyStatus record live))
  | _ => state

inductive JobAction where
  | run (answers : (request : RunRequest) → runApi.Response request) (lands : Bool)
  | arrive (error : String)
  | release
  | readPhase (now : String)
  | stopGet (answer : Except String Unit)
  | stopApply (answer : Except String Unit) (lands : Bool)

def JobState.at_ (stop : StopRun) (point : StopPoint) : JobState :=
  { state with stop := some { stop with point := point } }

def recordPoint : Option Record → StopPoint
  | some record => .getting record
  | none => .ended none

def writePoint (record : Record) (live : Option (Dict String)) : Except String Unit → StopPoint
  | .ok () => .applying record live
  | .error e => .ended (some (.error e))

-- A second signal, or one that comes when the run has ended, finds the exit claimed.
def JobState.arrive (error : String) : JobState :=
  if state.claimed then state
  else { state with claimed := true, stop := some ⟨.releasing error, standing state.phase state.run, 0⟩ }

def JobState.stopStep (stop : StopRun) : JobAction → Option JobState
  | .release =>
    match stop.point with
    | .releasing error => some (state.at_ stop (.reading error))
    | _ => none
  | .readPhase now =>
    match stop.point with
    | .reading error => some (state.at_ stop (recordPoint (stopRecord state.phase error now)))
    | _ => none
  | .stopGet answer =>
    match stop.point with
    | .getting record => some (state.at_ stop (writePoint record state.live answer))
    | _ => none
  | .stopApply answer lands =>
    match stop.point with
    | .applying record live => some ((state.answered .stop record live lands answer).at_ stop (.ended (some answer)))
    | _ => none
  | _ => none

def JobState.runStep (lands : Bool) :
    Option JobState :=
  match state.run with
  | .call request next => some { state.serve answers lands request with run := next (state.response answers request) }
  | _ => none

def JobState.step (action : JobAction) : Option JobState :=
  match action with
  | .run answers lands => state.runStep answers lands
  | .arrive error => some (state.arrive error)
  | _ => state.stop.bind fun stop => state.stopStep stop action

def unstarted (run : RunProg (Option Nat)) : JobState := ⟨false, .check, live, [], run, none⟩

def jobSystem (run : RunProg (Option Nat)) : System JobState JobAction where
  initial state := state = unstarted live run
  step := JobState.step

-- Each step is recorded once: the stop's is the one in hand when it claimed the exit.
structure Agrees (state : JobState) : Prop where
  single : ∀ phase, (state.written.filter fun entry => entry.2.phase = some phase).length ≤ 1
  recorded : ∀ stop, state.stop = some stop → ∀ phase, stop.standing.phase = some phase → phase ≠ .stats →
    ∀ result, stop.point = .ended result → ∃ answer, result = some answer ∧
      (answer = .ok () → ∃ record, (Owner.stop, record) ∈ state.written ∧ record.phase = some phase)
  passed : ∀ error now before, (Owner.stop, .check (.failed error) now) ∈ state.written →
    (Owner.run, .check .passed before) ∉ state.written
  named : ∀ record, (Owner.stop, record) ∈ state.written →
    ∃ stop, state.stop = some stop ∧ stop.standing.phase = record.phase
  last : state.written.Pairwise fun later earlier => earlier.1 = .stop → later.1 = .stop

-- A run about to set the phase of its step sets that one and no other.
def StopRun.unmoved (stop : StopRun) : Bool :=
  match stop.standing with
  | .inside _ => stop.moves = 0
  | .enters _ => stop.moves = 1
  | .past => false

def undisturbed : JobAction → Bool
  | .readPhase _ => state.stop.all StopRun.unmoved
  | _ => true

inductive Mode where
  | before
  | working
  | writing
  | settled
  deriving DecidableEq

def CheckPhase.rank : CheckPhase → Nat
  | .check => 0
  | .prune => 1
  | .stats => 2

def Enters (phase : CheckPhase) (mode : Mode) (next : CheckPhase) : Prop :=
  mode = .before ∧ phase = .check ∧ next = .check ∨ mode = .settled ∧ phase.rank < next.rank

def Works (phase : CheckPhase) (mode : Mode) (step : CheckPhase) : Prop := mode = .working ∧ phase = step

section Follows

variable {Value : Type}

-- A run that does a step's work in its phase and records it once the exit is unclaimed.
def Follows : RunProg Value → CheckPhase → Mode → Prop
  | .done _, _, _ => True
  | .fail _, _, _ => True
  | .call (.setPhase step) next, phase, mode => Enters phase mode step ∧ Follows (next ()) step .working
  | .call (.unlock _) next, phase, mode => Works phase mode .check ∧ ∀ answer, Follows (next answer) phase .working
  | .call (.check _ _) next, phase, mode => Works phase mode .check ∧ ∀ answer, Follows (next answer) phase .working
  | .call (.repository _) next, phase, mode => Works phase mode .prune ∧ ∀ answer, Follows (next answer) phase .working
  | .call .readClusterUid next, phase, mode => Works phase mode .prune ∧ ∀ answer, Follows (next answer) phase .working
  | .call (.stats _) next, phase, mode => Works phase mode .stats ∧ ∀ answer, Follows (next answer) phase .working
  | .call .isClaimed next, phase, mode =>
    mode = .working ∧ Follows (next true) phase .settled ∧ Follows (next false) phase .writing
  | .call .getStatus next, phase, mode =>
    mode = .writing ∧ (∀ answer, ahead (next answer) = ahead (next (.error ""))) ∧
      (∀ e, Follows (next (.error e)) phase .settled) ∧ ∀ live, Follows (next (.ok live)) phase .writing
  | .call (.applyStatus record _) next, phase, mode =>
    mode = .writing ∧ record.phase = some phase ∧ (∀ answer, ahead (next answer) = ahead (next (.ok ()))) ∧
      ∀ answer, Follows (next answer) phase .settled
  | .call .claim next, phase, mode => mode ≠ .writing ∧ ∀ answer, Follows (next answer) phase mode

theorem follows_of_restic {Outcome : Type} (prog : Prog restic String Outcome) {rest : Except String Outcome → RunProg Value}
    (after : ∀ outcome, Follows (rest outcome) .prune .working) : Follows (ofRestic prog >>= rest) .prune .working := by
  induction prog with
  | done value => exact after (.ok value)
  | fail e => exact after (.error e)
  | call request next ih => exact ⟨⟨rfl, rfl⟩, ih⟩

theorem follows_unless_claimed {record : Record} {phase : CheckPhase} {rest : Unit → RunProg Value}
    (about : record.phase = some phase) (after : Follows (rest ()) phase .settled) :
    Follows (unlessClaimed record >>= rest) phase .working := by
  refine ⟨rfl, after, rfl, ?_, fun e => after, ?_⟩
  · intro answer
    cases answer <;> rfl
  · intro live
    exact ⟨rfl, about, fun answer => rfl, fun answer => after⟩

end Follows

section Job

variable (snapshotInstant : String → Option Instant) (rfc3339 : Instant → String) (plan : CheckPlan) (clock : CheckClock)

def finish (run : CheckRun) : RunProg (Option Nat) := do
  let first ← ask .claim
  pure (exitOf run first)

theorem finish_follows (run : CheckRun) (phase : CheckPhase) {mode : Mode} (ended : mode ≠ .writing) :
    Follows (finish run) phase mode := ⟨ended, fun _ => trivial⟩

theorem stats_follows {phase : CheckPhase} (earlier : phase.rank < CheckPhase.stats.rank) (run : Option RepoStats → CheckRun) :
    Follows (statsStep rfc3339 plan clock >>= fun stats => finish (run stats)) phase .settled := by
  refine ⟨.inr ⟨rfl, earlier⟩, ⟨rfl, rfl⟩, ?_⟩
  intro out
  change Follows ((recordFigures rfc3339 plan clock _ >>= fun _ => pure (figuresOf out)) >>= _) .stats .working
  cases figuresOf out with
  | none => exact finish_follows _ .stats nofun
  | some s =>
    rw [Prog.bind_assoc]
    exact follows_unless_claimed rfl (finish_follows _ .stats nofun)

variable (check : CheckResult)

theorem prune_recorded_follows (outcome : Except String PruneOutcome) :
    Follows ((unlessClaimed (.prune (pruneRecordOf outcome) (rfc3339 clock.pruned)) >>= fun _ =>
      pure (some (pruneRecordOf outcome))) >>= fun prune =>
        statsStep rfc3339 plan clock >>= fun stats => finish ⟨check, prune, stats⟩) .prune .working := by
  rw [Prog.bind_assoc]
  exact follows_unless_claimed rfl (stats_follows rfc3339 plan clock (by decide) _)

theorem prune_follows : Follows (pruneStep snapshotInstant rfc3339 plan clock >>= fun prune =>
      statsStep rfc3339 plan clock >>= fun stats => finish ⟨check, prune, stats⟩) .check .settled := by
  rw [pruneStep]
  by_cases enforced : plan.enforce = .check
  · rw [if_pos enforced]
    refine ⟨.inr ⟨rfl, by decide⟩, ⟨rfl, rfl⟩, ?_⟩
    intro uid
    change Follows ((pruneWith snapshotInstant plan clock uid >>= _) >>= _) .prune .working
    rw [Prog.bind_assoc]
    cases uid with
    | error e => exact prune_recorded_follows rfc3339 plan clock check (.error e)
    | ok uid => exact follows_of_restic _ (prune_recorded_follows rfc3339 plan clock check)
  · rw [if_neg enforced]
    exact stats_follows rfc3339 plan clock (by decide) _

theorem after_check_follows : Follows (afterCheck snapshotInstant rfc3339 plan clock check >>= finish) .check .settled := by
  rw [afterCheck]
  by_cases failed : check ≠ .passed
  · rw [if_pos failed]
    exact finish_follows _ .check nofun
  · rw [if_neg failed]
    have steps := prune_follows snapshotInstant rfc3339 plan clock check
    simp only [Prog.bind_assoc]
    exact steps

theorem job_follows : Follows (checkJob snapshotInstant rfc3339 plan clock) .check .before := by
  refine ⟨.inl ⟨rfl, rfl, rfl⟩, ⟨rfl, rfl⟩, fun _ => ⟨⟨rfl, rfl⟩, fun checked => ?_⟩⟩
  change Follows ((unlessClaimed (.check (checkResult checked) (rfc3339 clock.checked)) >>= _) >>= finish) .check .working
  rw [Prog.bind_assoc]
  exact follows_unless_claimed rfl (after_check_follows snapshotInstant rfc3339 plan clock _)

end Job

end AppRafter.Backup
