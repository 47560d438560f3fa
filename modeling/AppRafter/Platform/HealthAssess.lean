import AppRafter.Platform.BackupHealth

set_option autoImplicit false

namespace AppRafter.Platform.BackupHealth

open Lib

section Assess

-- What a text is as an RFC 3339 time, in nanoseconds since the epoch.
variable (parseTime : String → Option Int)

def timeAt (v : Json) (path : List String) : Option Int := (strAt v path).bind parseTime

def created (v : Json) : Option Int := timeAt parseTime v ["metadata", "creationTimestamp"]

def finishedAt (pod : Json) : Option Int :=
  ((((((pod.pointer ["status", "containerStatuses"]).bind Json.asArr).getD []).findSome? fun c =>
    c.pointer ["state", "terminated", "finishedAt"]).bind Json.asStr)).bind parseTime

def earliest (a b : Option Int) : Option Int :=
  match a, b with
  | some x, some y => some (min x y)
  | some x, none => some x
  | none, y => y

def notYet (since : Option Int) (now : Int) : Option Int :=
  let due := since.getD now + notStartedGraceSecs * second
  if now < due then some due else none

variable (job : Json)

def lastFailedAttempt (pods : List Json) : Option Json :=
  maxByKey (created parseTime) ((pods.filter fun p => ownedBy p job).filter fun p => isFailedAttempt p job true)

def quoteError (error : String) : String :=
  let quoted := String.ofList (error.toList.take runnerErrorQuoteMax)
  if Text.byteLen quoted < Text.byteLen error then quoted ++ "…" else quoted

def recordedFailure (failedAt : Option Int) (record : Option Json) (keys : String × String) :
    Option (Int × String) := do
  let record ← record
  let started ← (timeAt parseTime job ["status", "startTime"]).or (created parseTime job)
  let failedAt ← failedAt
  let lastFailure ← ((record.get keys.1).bind Json.asStr).bind parseTime
  if lastFailure < started ∨ failedAt + 180 * second < lastFailure then none
  else
    let error ← nonEmpty (((record.get keys.2).bind Json.asStr).map fun e => String.intercalate " " (splitWhitespace e))
    some (lastFailure, quoteError error)

def runnerRecord (failedAt : Option Int) (record : Option Json) (keys : String × String) : Option String :=
  (recordedFailure parseTime job failedAt record keys).map Prod.snd

inductive Newest where
  | pod (pod : Json)
  | gone (stop : Stop)

variable (run : Run)

def newestFailedAttempt (job : Json) (observed : Observed) (prior : Option PlatformStackCondition) (now : Int) :
    Option Newest :=
  let pod := maxByKey (created parseTime)
    ((observed.pods.filter fun p => ownedBy p job).filter fun p => isFailedAttempt p job false)
  if goneAttempts job observed.pods = 0 then pod.map Newest.pod
  else
    let recordedAt := run.recordKeys.bind fun keys =>
      (recordedFailure parseTime job (some now) observed.runnerStatus keys).map Prod.fst
    let seen := seenStopped run job prior
    if recordedAt.isNone ∧ seen.isNone then pod.map Newest.pod
    else
      let gone := Newest.gone (seen.getD .outside)
      match pod with
      | none => some gone
      | some p =>
        match finishedAt parseTime p, recordedAt with
        | some ended, some time => if ended < time then some gone else some (.pod p)
        | _, _ => some (.pod p)

structure FailedAttempt where
  reason : String
  alone : String
  beside : String

def FailedAttempt.outcome (attempt : FailedAttempt) : Outcome := .trouble attempt.reason attempt.alone

def attemptsAllowed : Nat := ((job.pointer ["spec", "backoffLimit"]).bind asU64).getD defaultBackoffLimit + 1

def recordedText (recorded : Option String) : String := (recorded.map fun e => " The runner recorded: " ++ e).getD ""

def failedAttempt (job : Json) (observed : Observed) (prior : Option PlatformStackCondition) (now : Int) :
    Option FailedAttempt := do
  let newest ← newestFailedAttempt parseTime run job observed prior now
  let failed := max (failedAttempts job observed.pods) 1
  let attempts := attemptsAllowed job
  let attempt := "attempt " ++ toString failed ++ " of at most " ++ toString attempts
  let next := if failed < attempts then " The Job retries until its backoff limit." else " It was the last attempt the Job makes."
  let start := run.noun ++ " Job " ++ name job ++ ": its " ++ attempt
  let until_ := match newest with
    | .pod pod => (finishedAt parseTime pod).getD now
    | .gone _ => now
  let recorded := recordedText
    (run.recordKeys.bind fun keys => runnerRecord parseTime job (some until_) observed.runnerStatus keys)
  let cause := match newest with
    | .pod pod => attemptCause pod
    | .gone stop => stop.cause
  let alone := match cause with
    | .oomKilled what => start ++ " " ++ what ++ "; a killed runner records nothing itself." ++ next
    | .evicted what => start ++ " " ++ what ++ "; an evicted runner records nothing itself." ++ next
    | .preempted what => start ++ " " ++ what ++ "." ++ next ++ recorded
    | .stopped what => start ++ " " ++ what ++ "." ++ next ++ recorded
    | .exited what => start ++ " " ++ what ++ "." ++ whatAFailureMeans run ++ next ++ recorded
    | .unknown what => start ++ " " ++ what ++ "." ++ whatAFailureMeans run ++ next ++ recorded
  some { reason := cause.reason run, alone := alone, beside := " Its " ++ attempt ++ " " ++ cause.describe ++ "." }

inductive LivePod where
  | fine
  | waiting (due : Int)
  | trouble (reason message : String)

variable (pod : Json)

def unschedulable : Option Json :=
  (podCondition pod "PodScheduled").filter fun c =>
    (c.get "status").bind Json.asStr == some "False" && (c.get "reason").bind Json.asStr == some "Unschedulable"

def placed : Bool := (strAt pod ["spec", "nodeName"]).any fun n => n != ""

def nominated : Bool := (strAt pod ["status", "nominatedNodeName"]).any fun n => n != ""

def sinceUnschedulable (pod cond : Json) : Option String :=
  ((cond.get "lastTransitionTime").bind Json.asStr).or (strAt pod ["metadata", "creationTimestamp"])

def placedAt : Option String :=
  ((podCondition pod "PodScheduled").filter fun c => (c.get "status").bind Json.asStr == some "True").bind fun c =>
    (c.get "lastTransitionTime").bind Json.asStr

def waitingSince : Option Int :=
  if placed pod then ((placedAt pod).bind parseTime).or (created parseTime pod) else
    match unschedulable pod with
    | some cond => ((sinceUnschedulable pod cond).bind parseTime).or (created parseTime pod)
    | none => created parseTime pod

def unplacedMessage (job pod : Json) : String :=
  let start := run.noun ++ " Job " ++ name job ++ ": its pod " ++ name pod ++ " has not been scheduled since "
  match unschedulable pod with
  | some cond =>
    let said := (nonEmpty ((cond.get "message").bind Json.asStr)).getD "the scheduler gave no reason"
    let asks := ((requests pod).map fun r => " It asks for " ++ r ++ ".").getD ""
    start ++ (sinceUnschedulable pod cond).getD "its creation" ++ ": " ++ trimEndDots said ++ "." ++ asks
  | none =>
    let why := (((podCondition pod "PodScheduled").bind fun c =>
      reasonWithMessage (field c "reason") (field c "message")).map fun w => ": " ++ w).getD ""
    start ++ (strAt pod ["metadata", "creationTimestamp"]).getD "its creation" ++ why ++ "."

def unstartedMessage (job pod : Json) : String :=
  let waiting := ((waitingReason pod).map fun w => ": " ++ w).getD ""
  run.noun ++ " Job " ++ name job ++ ": its pod " ++ name pod ++ " was placed on " ++
    (strAt pod ["spec", "nodeName"]).getD "?" ++ " at " ++
    ((placedAt pod).or (strAt pod ["metadata", "creationTimestamp"])).getD "an unrecorded time" ++
    " and its container has not started" ++ waiting ++ "."

def livePod (job pod : Json) (now : Int) : LivePod :=
  if placed pod = false then
    if (unschedulable pod).isSome ∧ nominated pod = true then .fine
    else
      match notYet (waitingSince parseTime pod) now with
      | some due => .waiting due
      | none =>
        .trouble (if (unschedulable pod).isSome then "RunnerUnschedulable" else "RunnerNotStarted") (unplacedMessage run job pod)
  else if phaseIs pod "Pending" = false then .fine
  else
    match notYet (waitingSince parseTime pod) now with
    | some due => .waiting due
    | none => .trouble "RunnerNotStarted" (unstartedMessage run job pod)

def isLive : Bool := !phaseIs pod "Succeeded" && !phaseIs pod "Failed" && !deleting pod

def live (pods : List Json) : Option Json :=
  maxByKey (created parseTime) ((pods.filter fun p => ownedBy p job).filter isLive)

def holds (job : Json) : String := if (cronjobOwner job).isSome then holdsTheSchedule run.noun else ""

def noPodMessage (job : Json) : String :=
  let why := if suspended job then "the Job is suspended (its spec.suspend is true)"
    else "the Job controller has not created one. The Job's FailedCreate events say why: a quota or LimitRange the pod " ++
      "breaks, an admission webhook that refuses it, or a missing ServiceAccount"
  run.noun ++ " Job " ++ name job ++ ": it has had no pod since it was created at " ++
    (strAt job ["metadata", "creationTimestamp"]).getD "an unrecorded time" ++ ": " ++ why ++ "." ++ holds run job

def noPod (job : Json) (observed : Observed) (now : Int) : Option Outcome × Option Int :=
  if (observed.pods.filter fun p => ownedBy p job).isEmpty ∧ countsNoPod job = true then
    match notYet (created parseTime job) now with
    | some due => (none, some due)
    | none => (some (.trouble "RunnerNotStarted" (noPodMessage run job)), none)
  else (none, none)

def unfinishedTrouble (job : Json) (observed : Observed) (prior : Option PlatformStackCondition) (now : Int) :
    Option Outcome × Option Int :=
  let earlier := failedAttempt parseTime run job observed prior now
  let rest := match earlier with
    | some earlier => (some earlier.outcome, none)
    | none => noPod parseTime run job observed now
  match live parseTime job observed.pods with
  | none => rest
  | some pod =>
    match livePod parseTime run job pod now with
    | .trouble reason message =>
      (some (.trouble reason (message ++ (earlier.map FailedAttempt.beside).getD "" ++ holds run job)), none)
    | .waiting due => (earlier.map FailedAttempt.outcome, some due)
    | .fine => rest

def noFinishedRun (cronjob : Json) (jobs : List Json) : Outcome :=
  match strAt cronjob ["status", "lastSuccessfulTime"] with
  | some time => .succeeded ("the last scheduled " ++ run.noun ++ " succeeded at " ++ time ++ "; its Job is no longer kept")
  | none =>
    match jobs.head? with
    | some job => .noRun ("no " ++ run.noun ++ " has finished yet: Job " ++ name job ++ " has not finished")
    | none =>
      match strAt cronjob ["status", "lastScheduleTime"] with
      | some time =>
        .noRun ("no " ++ run.noun ++ " Job is left to read, and none has succeeded: CronJob " ++ run.cronjob ++
          " last started one at " ++ time)
      | none =>
        .noRun ("no " ++ run.noun ++ " has run yet: CronJob " ++ run.cronjob ++ " (schedule \"" ++
          (strAt cronjob ["spec", "schedule"]).getD "?" ++ "\") has not started one")

def saidBefore (job : Json) (prior : Option PlatformStackCondition) : Option String := do
  let prior ← prior.filter fun p => p.reason == some "RunnerUnschedulable" || p.reason == some "RunnerNotStarted"
  let message ← prior.message
  let said ← afterStart (ownPart message) (run.noun ++ " Job " ++ name job ++ ":")
  some (Text.trim ((beforeEnd said (holdsTheSchedule run.noun)).getD said))

def deadlineLimit : String :=
  (((job.pointer ["spec", "activeDeadlineSeconds"]).bind Json.asI64).map fun s => "its " ++ humanSecs s ++ " deadline").getD
    "its deadline"

def meansAfter : Cause → String
  | .exited _ => whatAFailureMeans run
  | .unknown _ => whatAFailureMeans run
  | _ => ""

def stoppedFromOutside : Cause → Bool
  | .preempted _ => true
  | .stopped _ => true
  | _ => false

def deadlineEvidence (cause : Option Cause) (before : Option String) (recorded : String) : String × String :=
  match cause with
  | some c =>
    if stoppedFromOutside c ∧ before.isSome then
      (c.reason run, " Its last pod never started: " ++ before.getD "" ++ recorded)
    else (c.reason run, " Its last failed attempt " ++ c.describe ++ "." ++ meansAfter run c ++ recorded)
  | none =>
    if recorded ≠ "" then ("DeadlineExceeded", recorded)
    else
      ("DeadlineExceeded", match before with
        | some before => " Its runner never started: " ++ before
        | none =>
          if run = .backup then
            " The runner recorded nothing for this run: its pod never started, or it was killed before it could."
          else " No pod of it is left to say how far it got.")

def afterAttempts (pods : List Json) : String :=
  match failedAttempts job pods with
  | 0 => ""
  | 1 => " after 1 failed attempt"
  | n => " after " ++ toString n ++ " failed attempts"

def backoffReason : Run → String
  | .backup => "BackoffLimitExceeded"
  | .check => "RepositoryCheckFailed"

def gaveUpEvidence (cause : Option Cause) : String × String :=
  match cause with
  | some (.exited what) => (backoffReason run, " The last one " ++ what ++ "." ++ whatAFailureMeans run)
  | some (.unknown what) => (backoffReason run, " The last one " ++ what ++ "." ++ whatAFailureMeans run)
  | some c => (c.reason run, " The last one " ++ c.describe ++ ".")
  | none => (backoffReason run, "")

def endedStart (job : Json) : String := run.noun ++ " Job " ++ name job ++ ": failed at "

def failedWords (job : Json) (jobReason jobMessage : String) (time : Option String) (observed : Observed)
    (prior : Option PlatformStackCondition) : String × String :=
  let recorded := run.recordKeys.bind fun keys =>
    runnerRecord parseTime job (time.bind parseTime) observed.runnerStatus keys
  let start := endedStart run job ++ time.getD "an unrecorded time"
  let cause := ((lastFailedAttempt parseTime job observed.pods).map attemptCause).or ((seenStopped run job prior).map Stop.cause)
  if jobReason = "DeadlineExceeded" then
    let evidence := deadlineEvidence run cause (saidBefore run job prior) (recordedText recorded)
    (evidence.1, start ++ ": DeadlineExceeded, active longer than " ++ deadlineLimit job ++ "." ++ evidence.2)
  else if jobReason = "BackoffLimitExceeded" then
    let outside := if 0 < goneAttempts job observed.pods ∧ recorded.isSome then some Stop.outside.cause else none
    let evidence := gaveUpEvidence run (cause.or outside)
    (evidence.1, start ++ afterAttempts job observed.pods ++ " (BackoffLimitExceeded)." ++ evidence.2 ++ recordedText recorded)
  else
    ("Failed", start ++ ": " ++ (reasonWithMessage jobReason jobMessage).getD "no reason given" ++ "." ++ recordedText recorded)

-- A description of the Job's ending, once written, is kept while its reason is.
def keptWords (job : Json) (prior : Option PlatformStackCondition) (reason : String) : Option String := do
  let prior ← prior.filter fun p => p.status == "False" && p.reason == some reason
  let message ← prior.message.filter fun m => Text.startsWith m (endedStart run job)
  some (ownPart message)

def failedJob (job : Json) (jobReason jobMessage : String) (time : Option String) (observed : Observed)
    (prior : Option PlatformStackCondition) : Outcome :=
  let words := failedWords parseTime run job jobReason jobMessage time observed prior
  .trouble words.1 ((keptWords run job prior words.1).getD words.2)

structure RunAssessment where
  outcome : Outcome
  recheckAt : Option Int
  subject : String

def newestJobFirst (a b : Json) : Ordering :=
  (compare (created parseTime b) (created parseTime a)).then (compare (name b) (name a))

variable (observed : Observed)

def jobsOf : List Json :=
  ((observed.jobs.filter run.owns).filter fun j => !deleting j).insertionSort fun a b => (newestJobFirst parseTime a b).isLE

def unfinishedStep (prior : Option PlatformStackCondition) (now : Int)
    (held : Option (Outcome × Json) × Option Int) (job : Json) : Option (Outcome × Json) × Option Int :=
  let found := unfinishedTrouble parseTime run job observed prior now
  (held.1.or (found.1.map fun outcome => (outcome, job)), earliest held.2 found.2)

def unfinishedJobs : List Json :=
  (jobsOf parseTime run observed).filter fun j => (ending j).isNone

def finishedJob : Option (Json × Ending) :=
  (jobsOf parseTime run observed).findSome? fun j => (ending j).map fun e => (j, e)

def finishedOutcome (cronjob : Json) (observed : Observed) (prior : Option PlatformStackCondition) : Outcome :=
  match finishedJob parseTime run observed with
  | some (job, .failed reason message time) => failedJob parseTime run job reason message time observed prior
  | some (job, .succeeded time) =>
    .succeeded ("the last " ++ run.noun ++ ", Job " ++ name job ++ ", succeeded at " ++ time.getD "an unrecorded time")
  | none => noFinishedRun run cronjob (jobsOf parseTime run observed)

def suspendedMessage : String :=
  "CronJob " ++ backupNamespace ++ "/" ++ run.cronjob ++ " is suspended: no scheduled " ++ run.noun ++
    " runs until its spec.suspend is cleared"

def assessRun (cronjob : Json) (observed : Observed) (prior : Option PlatformStackCondition) (now : Int) :
    RunAssessment :=
  if suspended cronjob then
    { outcome := .trouble "ScheduleSuspended" (suspendedMessage run)
      recheckAt := none
      subject := "CronJob " ++ backupNamespace ++ "/" ++ run.cronjob }
  else
    let unfinished := (unfinishedJobs parseTime run observed).foldl (unfinishedStep parseTime run observed prior now) (none, none)
    match unfinished.1 with
    | some (outcome, job) =>
      { outcome := outcome, recheckAt := unfinished.2, subject := run.noun ++ " Job " ++ name job }
    | none =>
      { outcome := finishedOutcome parseTime run cronjob observed prior
        recheckAt := unfinished.2
        subject := ((finishedJob parseTime run observed).map fun found => run.noun ++ " Job " ++ name found.1).getD "" }

structure Assessment where
  verdict : Verdict
  -- in seconds
  recheckAfter : Option Nat

def falseVerdict (reason message : String) : Verdict := .condition { status := "False", reason := reason, message := message }

def trueVerdict (message : String) : Verdict := .condition { status := "True", reason := "Succeeded", message := message }

def verdictOf (backup : RunAssessment) (check : Option RunAssessment) : Verdict :=
  match backup.outcome, check with
  | .trouble reason message, some ⟨.trouble r _, _, subject⟩ =>
    falseVerdict reason (message ++ alsoFailing ++ subject ++ " (" ++ r ++ ").")
  | .trouble reason message, _ => falseVerdict reason message
  | _, some ⟨.trouble reason message, _, _⟩ => falseVerdict reason message
  | .noRun message, _ => unknown "NoRunYet" message
  | .succeeded message, some ⟨.succeeded check, _, _⟩ => trueVerdict (message ++ "; " ++ check)
  | .succeeded message, _ => trueVerdict message

def recheckAt (backup : RunAssessment) (check : Option RunAssessment) : Option Int :=
  earliest backup.recheckAt (check.bind RunAssessment.recheckAt)

-- Whole seconds to the edge, and one more.
def recheckAfter (edge : Option Int) (now : Int) : Option Nat :=
  edge.map fun time => ((max ((time - now).tdiv second) 0) + 1).toNat

def cronjobNamed (cron : String) : Option Json :=
  observed.cronjobs.find? fun c => strAt c ["metadata", "name"] == some cron

def notDeployedMessage : String :=
  "spec.backup.enabled is true, but CronJob " ++ backupNamespace ++ "/" ++ backupCronjob ++
    " does not exist: the platform chart has not deployed the schedule"

def assessObserved (prior : Option PlatformStackCondition) (now : Int) : Assessment :=
  match cronjobNamed observed backupCronjob with
  | none => ⟨unknown "ScheduleNotDeployed" notDeployedMessage, none⟩
  | some cronjob =>
    let backup := assessRun parseTime .backup cronjob observed prior now
    let check := (cronjobNamed observed checkCronjob).map fun c => assessRun parseTime .check c observed prior now
    ⟨verdictOf backup check, recheckAfter (recheckAt backup check) now⟩

def assess (enabled : Bool) (observed : Except String Observed) (prior : List PlatformStackCondition) (now : Int) : Assessment :=
  if enabled = false then ⟨.absent, none⟩
  else
    match observed with
    | .error e => ⟨unknown "StateUnreadable" ("could not read the backup Jobs: " ++ e), none⟩
    | .ok observed => assessObserved parseTime observed (prior.find? fun c => c.type == condBackupHealthy) now

end Assess

end AppRafter.Platform.BackupHealth
