import AppRafter.Lib.Group
import AppRafter.Lib.Json
import AppRafter.Platform.Status

set_option autoImplicit false

namespace AppRafter.Platform

open Lib

def backupNamespace : String := "apprafter-system"

def backupCronjob : String := "apprafter-backup"

def checkCronjob : String := "apprafter-backup-check"

def manualJobStart : String := "apprafter-backup-manual-"

-- What is read of the backup's objects, as JSON.
structure Observed where
  cronjobs : List Json := []
  jobs : List Json := []
  pods : List Json := []
  runnerStatus : Option Json := none
  runnerStatusError : Option String := none

def unknown (reason message : String) : Verdict := .condition { status := "Unknown", reason := reason, message := message }

def Verdict.isTrue : Verdict → Bool
  | .absent => false
  | .condition wording => wording.status == "True"

end AppRafter.Platform

namespace AppRafter.Platform.BackupHealth

open Lib

def notStartedGraceSecs : Int := 600

def second : Int := 1000000000

def runnerErrorQuoteMax : Nat := 300

def defaultBackoffLimit : Nat := 6

def strAt (v : Json) (path : List String) : Option String := (v.pointer path).bind Json.asStr

def asBool : Json → Option Bool
  | .bool value => some value
  | _ => none

def asU64 : Json → Option Nat
  | .num value => if 0 ≤ value ∧ value ≤ 18446744073709551615 then some value.toNat else none
  | _ => none

def field (v : Json) (key : String) : String := ((v.get key).bind Json.asStr).getD ""

def name (v : Json) : String := (strAt v ["metadata", "name"]).getD "?"

def trimEndDots (s : String) : String := String.ofList (s.toList.rdropWhile (· == '.'))

def holdsText (s part : String) : Bool := s.toList.tails.any part.toList.isPrefixOf

def afterStart (s start : String) : Option String :=
  if start.toList.isPrefixOf s.toList then some (String.ofList (s.toList.drop start.toList.length)) else none

def beforeEnd (s ending : String) : Option String :=
  if ending.toList.isSuffixOf s.toList then some (String.ofList (s.toList.take (s.toList.length - ending.toList.length)))
  else none

def splitWhitespace (s : String) : List String :=
  ((s.toList.splitOnP Text.whiteSpace).filter fun word => !word.isEmpty).map String.ofList

inductive Run where
  | backup
  | check
  deriving DecidableEq

namespace Run

def cronjob : Run → String
  | backup => backupCronjob
  | check => checkCronjob

def noun : Run → String
  | backup => "backup"
  | check => "repository check"

def recordKeys : Run → Option (String × String)
  | backup => some ("lastFailure", "lastError")
  | check => some ("lastCheck", "lastCheckError")

end Run

variable (job : Json)

def cronjobOwner : Option String := do
  let refs ← (job.pointer ["metadata", "ownerReferences"]).bind Json.asArr
  let owner ← refs.find? fun r => (r.get "kind").bind Json.asStr == some "CronJob"
  (owner.get "name").bind Json.asStr

def Run.owns (run : Run) (job : Json) : Bool :=
  match cronjobOwner job with
  | some owner => owner == run.cronjob
  | none =>
    run == .backup && (strAt job ["metadata", "name"]).any (fun n => Text.startsWith n manualJobStart) &&
      strAt job ["metadata", "labels", "apprafter.io/manual"] == some "true"

inductive Outcome where
  | trouble (reason message : String)
  | succeeded (message : String)
  | noRun (message : String)
  deriving DecidableEq

inductive Ending where
  | succeeded (time : Option String)
  | failed (reason message : String) (time : Option String)
  deriving DecidableEq

def conditionOf (conds : List Json) (types : List String) : Option Json :=
  types.findSome? fun t => conds.find? fun c =>
    (c.get "type").bind Json.asStr == some t && (c.get "status").bind Json.asStr == some "True"

def ending : Option Ending := do
  let conds ← (job.pointer ["status", "conditions"]).bind Json.asArr
  match conditionOf conds ["Failed", "FailureTarget"] with
  | some c => some (.failed (field c "reason") (field c "message") ((c.get "lastTransitionTime").bind Json.asStr))
  | none =>
    (conditionOf conds ["Complete", "SuccessCriteriaMet"]).map fun c =>
      .succeeded ((strAt job ["status", "completionTime"]).or ((c.get "lastTransitionTime").bind Json.asStr))

def ownedBy (pod job : Json) : Bool :=
  (((pod.pointer ["metadata", "ownerReferences"]).bind Json.asArr).getD []).any fun r =>
    (r.get "kind").bind Json.asStr == some "Job" && match strAt job ["metadata", "uid"], strAt job ["metadata", "name"] with
      | some u, _ => (r.get "uid").bind Json.asStr == some u
      | none, some n => (r.get "name").bind Json.asStr == some n
      | none, none => false

variable (pod : Json)

def podCondition (type : String) : Option Json := do
  let conds ← (pod.pointer ["status", "conditions"]).bind Json.asArr
  conds.find? fun c => (c.get "type").bind Json.asStr == some type

def reasonWithMessage (reason message : String) : Option String :=
  let message := trimEndDots (Text.trim message)
  if reason = "" then (if message = "" then none else some message)
  else some (if message = "" then reason else reason ++ ": " ++ message)

def waitingReason : Option String :=
  let statuses := [["status", "initContainerStatuses"], ["status", "containerStatuses"]].flatMap fun path =>
    ((pod.pointer path).bind Json.asArr).getD []
  statuses.findSome? fun s => (s.pointer ["state", "waiting"]).bind fun w => reasonWithMessage (field w "reason") (field w "message")

def firstContainer : Option Json := ((pod.pointer ["spec", "containers"]).bind Json.asArr).bind List.head?

def requests : Option String := do
  let r ← (← firstContainer pod).pointer ["resources", "requests"]
  match (r.get "memory").bind Json.asStr, (r.get "cpu").bind Json.asStr with
  | some m, some c => some (m ++ " of memory and " ++ c ++ " of CPU")
  | some m, none => some (m ++ " of memory")
  | none, some c => some (c ++ " of CPU")
  | none, none => none

def memoryLimit : Option String :=
  (firstContainer pod).bind fun container => strAt container ["resources", "limits", "memory"]

def humanSecs (s : Int) : String :=
  if 0 < s ∧ s % 3600 = 0 then toString (s / 3600) ++ "h"
  else if 0 < s ∧ s % 60 = 0 then toString (s / 60) ++ "m"
  else toString s ++ "s"

def phaseIs (phase : String) : Bool := strAt pod ["status", "phase"] == some phase

def deleting (v : Json) : Bool := (v.pointer ["metadata", "deletionTimestamp"]).isSome

def suspended (v : Json) : Bool := (v.pointer ["spec", "suspend"]).bind asBool == some true

def disrupted : Option Json :=
  (podCondition pod "DisruptionTarget").filter fun c => (c.get "status").bind Json.asStr == some "True"

def disruptionReason : Option String := (disrupted pod).bind fun c => (c.get "reason").bind Json.asStr

-- A failed attempt of `job`: an undisrupted deletion is none once the Job has ended or is suspended.
def isFailedAttempt (pod job : Json) (ended : Bool) : Bool :=
  if phaseIs pod "Succeeded" then false
  else if (disrupted pod).isSome && (deleting pod || phaseIs pod "Failed") then true
  else if deleting pod then !ended && !suspended job
  else phaseIs pod "Failed"

def countedAsItStops : Bool := deleting pod && !phaseIs pod "Succeeded"

def countedFailures : Nat :=
  ((job.pointer ["status", "failed"]).bind asU64).getD 0 +
    (((job.pointer ["status", "uncountedTerminatedPods", "failed"]).bind Json.asArr).getD []).length

def stillThere (pods : List Json) : Nat :=
  (pods.filter fun p => ownedBy p job && (phaseIs p "Failed" || countedAsItStops p)).length

def goneAttempts (pods : List Json) : Nat := countedFailures job - stillThere job pods

def failedAttempts (pods : List Json) : Nat := max (countedFailures job) (stillThere job pods)

def countsNoPod : Bool :=
  ["active", "failed", "succeeded"].all fun key => ((job.pointer ["status", key]).bind asU64).getD 0 == 0

def ranAndFailed : Run → String
  | .backup => "RunnerFailed"
  | .check => "RepositoryCheckFailed"

def whatAFailureMeans : Run → String
  | .backup => ""
  | .check => " restic check exits non-zero when it finds the repository damaged, and when it cannot read the repository at " ++
      "all; its output is in that pod's log."

def holdsTheSchedule (noun : String) : String :=
  " Until it runs or its deadline stops it, no later scheduled " ++ noun ++ " starts."

inductive Stop where
  | preempted
  | outside
  deriving DecidableEq

def gonePreempted : String := "was preempted, and its pod is gone"

def goneStopped : String :=
  "was stopped from outside before it finished, and its pod is gone: the scheduler preempted it, a node drain evicted it, or " ++
    "it was deleted"

inductive Cause where
  | oomKilled (what : String)
  | evicted (what : String)
  | preempted (what : String)
  | stopped (what : String)
  | exited (what : String)
  | unknown (what : String)
  deriving DecidableEq

def Stop.cause : Stop → Cause
  | preempted => .preempted gonePreempted
  | outside => .stopped goneStopped

def Cause.describe : Cause → String
  | oomKilled s => s
  | evicted s => s
  | preempted s => s
  | stopped s => s
  | exited s => s
  | unknown s => s

def Cause.reason (run : Run) : Cause → String
  | oomKilled _ => "RunnerOOMKilled"
  | evicted _ => "RunnerEvicted"
  | preempted _ => "RunnerPreempted"
  | stopped _ => "RunnerStopped"
  | exited _ => ranAndFailed run
  | unknown _ => ranAndFailed run

def terminated : Option Json :=
  (((pod.pointer ["status", "containerStatuses"]).bind Json.asArr).getD []).findSome? fun c =>
    c.pointer ["state", "terminated"]

def nonEmpty (text : Option String) : Option String := text.filter fun t => t ≠ ""

def attemptCause : Cause :=
  let podName := name pod
  let disruption := disruptionReason pod
  let saidOf := (disrupted pod).bind fun c => (c.get "message").bind Json.asStr
  if disruption = some "PreemptionByScheduler" then
    let said := (nonEmpty (saidOf.map fun m => trimEndDots (Text.trim m))).getD "the scheduler gave no reason"
    .preempted ("was preempted (pod " ++ podName ++ "): " ++ said)
  else if strAt pod ["status", "reason"] = some "Evicted" ∨ disruption = some "TerminationByKubelet" then
    let why := ((nonEmpty (strAt pod ["status", "message"])).or saidOf).getD "the kubelet gave no reason"
    .evicted ("was evicted (pod " ++ podName ++ "): " ++ trimEndDots (Text.trim why))
  else
    let ended := terminated pod
    let podSaid := ((reasonWithMessage ((strAt pod ["status", "reason"]).getD "") ((strAt pod ["status", "message"]).getD "")).map
      fun w => ": " ++ w).getD ""
    let finished := ((ended.bind fun t => (t.get "finishedAt").bind Json.asStr).map fun f => ", at " ++ f).getD ""
    if (ended.bind fun t => (t.get "reason").bind Json.asStr) = some "OOMKilled" then
      let limit := ((memoryLimit pod).map fun l => " at its " ++ l ++ " memory limit").getD ""
      .oomKilled ("was OOMKilled" ++ limit ++ " (pod " ++ podName ++ finished ++ ")")
    else if deleting pod ∨ disruption.isSome then
      let said := ((disrupted pod).bind fun c => reasonWithMessage (field c "reason") (field c "message")).getD "its pod was deleted"
      .stopped ("was stopped from outside (pod " ++ podName ++ "): " ++ said)
    else
      match ended with
      | none => .unknown ("failed (pod " ++ podName ++ ")" ++ podSaid)
      | some t =>
        match (t.get "exitCode").bind Json.asI64 with
        | some code =>
          let reason := field t "reason"
          let named := if reason = "" ∨ reason = "Error" then "" else ", " ++ reason
          .exited ("exited with code " ++ toString code ++ named ++ " (pod " ++ podName ++ finished ++ ")")
        | none => .unknown ("failed (pod " ++ podName ++ ")" ++ podSaid)

def alsoFailing : String := " Also failing: "

def beforeLast (mark : List Char) : List Char → Option (List Char)
  | [] => if mark.isEmpty then some [] else none
  | c :: rest =>
    match beforeLast mark rest with
    | some front => some (c :: front)
    | none => if mark.isPrefixOf (c :: rest) then some [] else none

def ownPart (message : String) : String := ((beforeLast alsoFailing.toList message.toList).map String.ofList).getD message

def seenStopped (run : Run) (job : Json) (prior : Option PlatformStackCondition) : Option Stop := do
  let prior ← prior.filter fun p => p.status == "False"
  let message ← prior.message
  let jobName := name job
  let about ← afterStart (ownPart message) (run.noun ++ " Job " ++ jobName ++ ":")
  if holdsText about (" was preempted (pod " ++ jobName) || holdsText about gonePreempted then some .preempted
  else if holdsText about (" was stopped from outside (pod " ++ jobName) || holdsText about goneStopped then some .outside
  else none

end AppRafter.Platform.BackupHealth
