import AppRafter.Backup.StatusRuns

set_option autoImplicit false

namespace AppRafter.Backup

open Lib

inductive CheckPhase where
  | check
  | prune
  | stats
  deriving DecidableEq

inductive Enforce where
  | check
  | cluster
  | operator
  deriving DecidableEq

inductive CheckDepth where
  | structureOnly
  | full
  | subset (spec : String)
  deriving DecidableEq

structure CheckPlan where
  repo : String
  depth : CheckDepth
  enforce : Enforce
  retention : RetentionPolicy
  backupRunDeadline : Duration

structure CheckClock where
  checked : Instant
  pruning : Instant
  pruned : Instant
  measured : Instant

structure CheckRun where
  check : CheckResult
  prune : Option PruneRecord
  stats : Option RepoStats
  deriving DecidableEq

def CheckRun.exitCode (run : CheckRun) : Nat :=
  match run.check with
  | .passed => 0
  | .failed _ => 1

-- What restic printed of its figures, where it was JSON.
structure StatsDocument where
  totalSize : Option Nat
  totalBlobCount : Option Nat
  snapshotsCount : Option Nat

def parseRepoStats (printed : Option StatsDocument) : Option RepoStats :=
  printed.bind fun v => v.totalSize.map fun totalSize => ⟨totalSize, v.totalBlobCount, v.snapshotsCount⟩

inductive RunRequest where
  | setPhase (phase : CheckPhase)
  | unlock (repo : String)
  | check (repo : String) (depth : CheckDepth)
  | repository (request : ResticRequest)
  | stats (repo : String)
  | readClusterUid
  | isClaimed
  | getStatus
  | applyStatus (record : Record) (live : Option (Dict String))
  | claim

def runApi : Api where
  Request := RunRequest
  Response
    | .setPhase _ => Unit
    | .unlock _ => Except String Unit
    | .check _ _ => Except String Unit
    | .repository request => restic.Response request
    | .stats _ => Except String (Option StatsDocument)
    | .readClusterUid => Except String String
    | .isClaimed => Bool
    | .getStatus => Except String (Option (Dict String))
    | .applyStatus _ _ => Except String Unit
    | .claim => Bool

abbrev RunProg (Value : Type) := Prog runApi Empty Value

def ask (request : RunRequest) : RunProg (runApi.Response request) := .call request .done

def ofRestic {Value : Type} : Prog restic String Value → RunProg (Except String Value)
  | .done value => .done (.ok value)
  | .fail e => .done (.error e)
  | .call request next => .call (.repository request) fun answer => ofRestic (next answer)

-- Best-effort: what cannot be read is not written.
def applyOver (record : Record) : Except String (Option (Dict String)) → RunProg Unit
  | .error _ => .done ()
  | .ok live => do
      let _ ← ask (.applyStatus record live)
      pure ()

def writeStatusData (record : Record) : RunProg Unit := do
  let live ← ask .getStatus
  applyOver record live

def recordIf (record : Record) (claimed : Bool) : RunProg Unit := if claimed then pure () else writeStatusData record

def unlessClaimed (record : Record) : RunProg Unit := do
  let claimed ← ask .isClaimed
  recordIf record claimed

def checkResult : Except String Unit → CheckResult
  | .ok () => .passed
  | .error e => .failed e

def pruneRecordOf : Except String PruneOutcome → PruneRecord
  | .ok outcome => .done outcome
  | .error e => .failed e

section Job

variable (snapshotInstant : String → Option Instant) (rfc3339 : Instant → String) (plan : CheckPlan) (clock : CheckClock)

def pruneWith : Except String String → RunProg (Except String PruneOutcome)
  | .error e => .done (.error e)
  | .ok uid => ofRestic (runPrune snapshotInstant plan.retention uid clock.pruning plan.backupRunDeadline)

def pruneStep : RunProg (Option PruneRecord) :=
  if plan.enforce = .check then do
    ask (.setPhase .prune)
    let uid ← ask .readClusterUid
    let outcome ← pruneWith snapshotInstant plan clock uid
    unlessClaimed (.prune (pruneRecordOf outcome) (rfc3339 clock.pruned))
    pure (some (pruneRecordOf outcome))
  else pure none

def figuresOf : Except String (Option StatsDocument) → Option RepoStats
  | .ok out => parseRepoStats out
  | .error _ => none

def recordFigures : Option RepoStats → RunProg Unit
  | some s => unlessClaimed (.stats s plan.repo (rfc3339 clock.measured))
  | none => pure ()

def statsStep : RunProg (Option RepoStats) := do
  ask (.setPhase .stats)
  let out ← ask (.stats plan.repo)
  recordFigures rfc3339 plan clock (figuresOf out)
  pure (figuresOf out)

def afterCheck (check : CheckResult) : RunProg CheckRun :=
  if check ≠ .passed then pure ⟨check, none, none⟩ else do
    let prune ← pruneStep snapshotInstant rfc3339 plan clock
    let stats ← statsStep rfc3339 plan clock
    pure ⟨check, prune, stats⟩

def runCheck : RunProg CheckRun := do
  ask (.setPhase .check)
  let _ ← ask (.unlock plan.repo)
  let checked ← ask (.check plan.repo plan.depth)
  unlessClaimed (.check (checkResult checked) (rfc3339 clock.checked))
  afterCheck snapshotInstant rfc3339 plan clock (checkResult checked)

-- Where it is claimed before, the run has no exit code of its own.
def exitOf (run : CheckRun) (first : Bool) : Option Nat := if first then some run.exitCode else none

def checkJob : RunProg (Option Nat) := do
  let run ← runCheck snapshotInstant rfc3339 plan clock
  let first ← ask .claim
  pure (exitOf run first)

end Job

end AppRafter.Backup
