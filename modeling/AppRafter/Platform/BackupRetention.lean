import AppRafter.Backup.StatusHistory
import AppRafter.Platform.BackupHealth
import AppRafter.Restore.Suspend

set_option autoImplicit false

namespace AppRafter.Platform.BackupRetention

open Lib List Option

structure RetentionConfig where
  enforce : Option String := none

-- What of the stack's backup section the verdict reads.
structure BackupConfig where
  enabled : Bool
  checkSchedule : String
  retention : Option RetentionConfig := none

def defaultRetentionEnforce : String := "check"

def resolveRetentionEnforce (backup : BackupConfig) : String :=
  (backup.retention.bind RetentionConfig.enforce).getD defaultRetentionEnforce

def detailQuoteMax : Nat := 300

-- `n / d` to the nearest, and halfway to the even one.
def roundEven (n d : Nat) : Nat :=
  let below := n / d
  let left := n % d
  if 2 * left < d ∨ (2 * left = d ∧ below % 2 = 0) then below else below + 1

-- An integer as the f64 nearest to it.
def toF64 (n : Nat) : Nat :=
  let places := Nat.pow 2 (Nat.log2 n - 52)
  roundEven n places * places

def oneDecimal (n scale : Nat) : String :=
  let tenths := roundEven (10 * toF64 n) scale
  toString (tenths / 10) ++ "." ++ toString (tenths % 10)

def units : List (String × Nat) := [("TiB", 1099511627776), ("GiB", 1073741824), ("MiB", 1048576), ("KiB", 1024)]

def humanBytes (bytes : Int) : String :=
  match units.find? fun unit => unit.2 ≤ bytes.natAbs with
  | some (unit, scale) => (if bytes < 0 then "-" else "") ++ oneDecimal bytes.natAbs scale ++ " " ++ unit
  | none => toString bytes ++ " B"

def signed (n : Int) : String := if n < 0 then toString n else "+" ++ toString n

def signedBytes (delta : Int) : String := (if delta < 0 then "-" else "+") ++ humanBytes delta.natAbs

structure Record where
  data : Option Json

structure Check where
  time : String
  passed : Bool

structure Prune where
  time : String
  result : String
  detail : String
  after : String

variable (record : Record)

def Record.field (key : String) : Option String :=
  (((record.data.bind fun data => data.get key).bind Json.asStr).map Text.trim).filter fun text => text ≠ ""

def Record.check : Option Check :=
  (record.field "lastCheck").map fun time => ⟨time, record.field "lastCheckResult" = some "passed"⟩

def quoteDetail (detail : String) : String :=
  let quoted := String.ofList (detail.toList.take detailQuoteMax)
  if Text.byteLen quoted < Text.byteLen detail then quoted ++ "…" else quoted

def Record.prune : Option Prune := do
  let time ← record.field "lastPrune"
  let result ← record.field "lastPruneResult"
  some
    { time := time
      result := result
      detail := quoteDetail ((record.field "lastPruneDetail").getD "")
      after := if record.field "lastPruneBy" = some "backup" then "the backup" else "the weekly check" }

def Record.num (key : String) : Option Int := (record.field key).bind Restore.parseI64

def counted (count : Option Int) (noun : String) : List String := (count.map fun n => toString n ++ noun).toList

def moved (now before : Option Int) (noun : String) : List String :=
  match now, before with
  | some n, some p => [signed (n - p) ++ noun]
  | _, _ => []

def Record.repository : String :=
  match record.field "repoStatsAt", record.num "repoBytes" with
  | some time, some bytes =>
    let counts := counted (record.num "repoSnapshots") " snapshot(s)" ++ counted (record.num "repoBlobs") " blob(s)"
    let held := " The repository held " ++ humanBytes bytes ++
      (if counts.isEmpty then "" else " in " ++ String.intercalate " and " counts) ++ " at " ++ time
    let change := match record.field "repoPrevStatsAt", record.num "repoPrevBytes" with
      | some prevTime, some prevBytes =>
        let parts := signedBytes (bytes - prevBytes) ::
          (moved (record.num "repoSnapshots") (record.num "repoPrevSnapshots") " snapshot(s)" ++
            moved (record.num "repoBlobs") (record.num "repoPrevBlobs") " blob(s)")
        "; " ++ String.intercalate ", " parts ++ " since " ++ prevTime
      | _, _ => ""
    held ++ change ++ "."
  | _, _ => ""

def Prune.verdict (prune : Prune) (outside repo : String) : Verdict :=
  if prune.result = "pruned" then
    .condition
      { status := "True"
        reason := "Pruned"
        message := "the prune after " ++ prune.after ++ " at " ++ prune.time ++ ": " ++ prune.detail ++ "." ++ repo }
  else if prune.result = "nothing-to-prune" then
    .condition
      { status := "True"
        reason := "NothingToPrune"
        message := "the prune after " ++ prune.after ++ " at " ++ prune.time ++ ": " ++ prune.detail ++ "." ++ repo }
  else if prune.result = "not-permitted" then
    .condition
      { status := "False"
        reason := "PruneNotPermitted"
        message := "retention is not enforced: the cluster's S3 key may not delete, and the prune after " ++ prune.after ++
          " at " ++ prune.time ++ " was " ++ prune.detail ++ ". Run `apprafter backup prune` with full credentials." ++
          outside ++ repo }
  else if prune.result = "failed" then
    .condition
      { status := "False"
        reason := "PruneFailed"
        message := "the prune after " ++ prune.after ++ " at " ++ prune.time ++ " failed: " ++ prune.detail ++ "." ++ repo }
  else
    unknown "RecordUnreadable" ("the backup runner recorded a prune result this operator does not know, \"" ++ prune.result ++
      "\", at " ++ prune.time ++ "." ++ repo)

section Assess

-- What a text is as an RFC 3339 time, in nanoseconds since the epoch.
variable (parseTime : String → Option Int)

def notBefore (a b : String) : Bool :=
  match parseTime a, parseTime b with
  | some a, some b => b ≤ a
  | _, _ => b ≤ a

def assessCheck (schedule : String) (record : Record) (outside repo : String) : Verdict :=
  if Text.trim schedule = "" then
    .condition
      { status := "False"
        reason := "CheckOff"
        message := "spec.backup.retention.enforce is check, which prunes after the weekly check, and the weekly check is off " ++
          "(spec.backup.checkSchedule is empty): nothing in the cluster prunes the repository." ++ outside ++ repo }
  else
    match record.check with
    | none =>
      unknown "NoCheckYet" ("the weekly check prunes after a check that passes, and no check has recorded a result yet " ++
        "(schedule \"" ++ schedule ++ "\")." ++ repo)
    | some check =>
      match record.prune.filter fun prune => notBefore parseTime prune.time check.time with
      | some prune => prune.verdict outside repo
      | none =>
        if check.passed then
          unknown "NoPruneYet" ("the weekly check at " ++ check.time ++ " passed, and no prune after it is recorded." ++ repo)
        else
          .condition
            { status := "False"
              reason := "CheckFailed"
              message := "the weekly check at " ++ check.time ++ " did not pass, and a check that does not pass never " ++
                "prunes: retention waits for one that passes." ++ repo }

def assessCluster (outside repo : String) : Verdict :=
  match record.prune with
  | some prune => prune.verdict outside repo
  | none =>
    unknown "NoPruneYet" ("spec.backup.retention.enforce is cluster: the backup Job prunes after each backup, and none " ++
      "has recorded a prune yet." ++ repo)

def outsideText : Option String → String
  | some time => " `apprafter backup prune` last ran against this cluster at " ++ time ++ "."
  | none => " `apprafter backup prune` has not been run against this cluster."

def assessRecord (backup : BackupConfig) ( lastPruneAnnotation : Option String) (record : Record) : Verdict :=
  if resolveRetentionEnforce backup = "operator" then
    .condition
      { status := "False"
        reason := "EnforcedOutsideCluster"
        message := "spec.backup.retention.enforce is operator: nothing in the cluster deletes a snapshot, and the repository " ++
          "grows until `apprafter backup prune` runs with full credentials." ++ outsideText lastPruneAnnotation ++
          record.repository }
  else if resolveRetentionEnforce backup = "cluster" then
    assessCluster record (outsideText lastPruneAnnotation) record.repository
  else assessCheck parseTime backup.checkSchedule record (outsideText lastPruneAnnotation) record.repository

def assess (backup : Option BackupConfig) ( lastPruneAnnotation : Option String) (observed : Except String Observed) : Verdict :=
  match backup.filter BackupConfig.enabled with
  | none => .absent
  | some backup =>
    match observed with
    | .error e => unknown "RecordUnreadable" ("could not read the backup objects: " ++ e)
    | .ok observed =>
      match observed.runnerStatusError with
      | some e => unknown "RecordUnreadable" ("could not read the backup runner's record: " ++ e)
      | none => assessRecord parseTime backup lastPruneAnnotation ⟨observed.runnerStatus⟩

end Assess

def statusJson (live : Option (Dict String)) : Option Json :=
  live.map fun data => .obj (data.entries.map fun entry => (entry.1, .str entry.2))

def recordOf (history : List Backup.Record) : Record := ⟨statusJson (Backup.recorded history)⟩

def shown (text : String) : Option String := if Text.trim text = "" then none else some (Text.trim text)

theorem get_status_json (data : Dict String) (key : String) :
    (Json.obj (data.entries.map fun entry => (entry.1, Json.str entry.2))).get key = (data.get key).map Json.str := by
  change (data.entries.map fun entry => (entry.1, Json.str entry.2)).lookup key = _
  rw [Dict.get]
  induction data.entries with
  | nil => rfl
  | cons entry rest ih =>
    rw [map_cons, find?_cons]
    by_cases same : key = entry.1
    · subst same
      rw [Json.lookup_self, beq_self_eq_true]
      rfl
    · rw [Json.lookup_other _ _ same, beq_false_of_ne (Ne.symm same)]
      exact ih

variable (history : List Backup.Record)

theorem field_recorded (key : String) :
    (recordOf history).field key = (Backup.liveField (Backup.recorded history) key).bind shown := by
  rw [recordOf, Record.field]
  cases Backup.recorded history with
  | none => rfl
  | some data =>
    simp only [statusJson, map_some, bind_some, get_status_json, Backup.liveField]
    cases data.get key with
    | none => rfl
    | some text => by_cases blank : Text.trim text = "" <;> simp [shown, blank, Json.asStr, Option.filter]

theorem recorded_check :
    (recordOf history).check = (Backup.latest Backup.Record.checked history).bind fun made =>
      (shown made.2).map fun time => ⟨time, made.1 = .passed⟩ := by
  have said := (Backup.recorded_truthful history).check
  rw [Record.check, field_recorded, field_recorded, said "lastCheck" (by decide), said "lastCheckResult" (by decide)]
  cases Backup.latest Backup.Record.checked history with
  | none => rfl
  | some made =>
    obtain ⟨result, now⟩ := made
    cases result with
    | passed =>
      have word : Text.trim "passed" = "passed" := by decide
      simp [Backup.get_check_record, Backup.checkVerdict, shown, word]
    | failed error =>
      have word : Text.trim "failed" = "failed" := by decide
      simp [Backup.get_check_record, Backup.checkVerdict, shown, word]

theorem shown_word (word : String) (bare : Text.trim word = word) (inside : word ≠ "") : shown word = some word := by
  simp [shown, bare, inside]

theorem shown_detail (text : String) : (shown text).getD "" = Text.trim text := by
  by_cases blank : Text.trim text = "" <;> simp [shown, blank]

theorem shown_result (record : Backup.PruneRecord) : shown record.result = some record.result := by
  cases record with
  | failed error => exact shown_word "failed" (by decide) (by decide)
  | done outcome =>
    cases outcome with
    | pruned _ _ _ _ => exact shown_word "pruned" (by decide) (by decide)
    | nothingToPrune _ _ => exact shown_word "nothing-to-prune" (by decide) (by decide)
    | notPermitted _ _ _ _ => exact shown_word "not-permitted" (by decide) (by decide)

theorem pruned_writer {history : List Backup.Record} {made : Backup.Pruned}
    (last : Backup.latest Backup.Record.pruned history = some made) : made.writer = "backup" ∨ made.writer = "check" := by
  obtain ⟨record, _, picked⟩ := exists_of_findSome?_eq_some last
  cases record with
  | backup outcome format now pruned =>
    cases pruned with
    | none => cases picked
    | some record =>
      cases picked
      exact .inl rfl
  | prune record now =>
    cases picked
    exact .inr rfl
  | check result now => cases picked
  | stats figures repo now => cases picked

theorem recorded_prune :
    (recordOf history).prune = (Backup.latest Backup.Record.pruned history).bind fun made =>
      (shown made.now).map fun time =>
        { time := time
          result := made.record.result
          detail := quoteDetail (Text.trim made.record.detail)
          after := if made.writer = "backup" then "the backup" else "the weekly check" } := by
  have said := (Backup.recorded_truthful history).prune
  rw [Record.prune, field_recorded, field_recorded, field_recorded, field_recorded, said "lastPrune" (by decide),
    said "lastPruneResult" (by decide), said "lastPruneDetail" (by decide), said "lastPruneBy" (by decide)]
  cases last : Backup.latest Backup.Record.pruned history with
  | none => rfl
  | some made =>
    have writer : (shown made.writer = some "backup") ↔ made.writer = "backup" := by
      rcases pruned_writer last with named | named
      · rw [named]
        decide
      · rw [named]
        decide
    have time : (Backup.pruneRecord made.record made.writer made.now).get "lastPrune" = some made.now := by
      simp [Backup.get_prune_record]
    have result : (Backup.pruneRecord made.record made.writer made.now).get "lastPruneResult" = some made.record.result := by
      simp [Backup.get_prune_record]
    have detail : (Backup.pruneRecord made.record made.writer made.now).get "lastPruneDetail" = some made.record.detail := by
      simp [Backup.get_prune_record]
    have by_ : (Backup.pruneRecord made.record made.writer made.now).get "lastPruneBy" = some made.writer := by
      simp [Backup.get_prune_record]
    simp only [bind_some, time, result, detail, by_, shown_result, shown_detail, writer]
    cases shown made.now <;> rfl

def EndedWell (result : String) : Prop := result = "pruned" ∨ result = "nothing-to-prune"

theorem verdict_true (prune : Prune) (outside repo : String) :
    (prune.verdict outside repo).isTrue = true ↔ EndedWell prune.result := by
  rw [Prune.verdict, EndedWell]
  by_cases pruned : prune.result = "pruned"
  · simp [pruned, Verdict.isTrue]
  · by_cases nothing : prune.result = "nothing-to-prune"
    · simp [nothing, Verdict.isTrue]
    · by_cases refused : prune.result = "not-permitted"
      · simp [refused, Verdict.isTrue]
      · by_cases failed : prune.result = "failed"
        · simp [failed, Verdict.isTrue]
        · simp [pruned, nothing, refused, failed, Verdict.isTrue, unknown]

section Verdict

variable (parseTime : String → Option Int)

theorem cluster_true (outside repo : String) :
    (assessCluster record outside repo).isTrue = true ↔ ∃ prune, record.prune = some prune ∧ EndedWell prune.result := by
  rw [assessCluster]
  cases record.prune with
  | none => simp [unknown, Verdict.isTrue]
  | some prune => simp [verdict_true]

theorem check_true (schedule : String) (record : Record) (outside repo : String) :
    (assessCheck parseTime schedule record outside repo).isTrue = true ↔
      Text.trim schedule ≠ "" ∧ ∃ check prune, record.check = some check ∧ record.prune = some prune ∧
        notBefore parseTime prune.time check.time = true ∧ EndedWell prune.result := by
  rw [assessCheck]
  by_cases off : Text.trim schedule = ""
  · simp [off, Verdict.isTrue]
  · rw [if_neg off]
    cases record.check with
    | none => simp [unknown, Verdict.isTrue]
    | some check =>
      cases record.prune with
      | none => cases passed : check.passed <;> simp [unknown, Verdict.isTrue, passed]
      | some prune =>
        cases after : notBefore parseTime prune.time check.time with
        | false => cases passed : check.passed <;> simp [unknown, Verdict.isTrue, passed, after, Option.filter]
        | true => simp [off, after, verdict_true, Option.filter]

def promisedWriter (backup : BackupConfig) : String :=
  if resolveRetentionEnforce backup = "cluster" then "backup" else "check"

def prunedAfter (backup : BackupConfig) (history : List Backup.Record) : Option String :=
  if resolveRetentionEnforce backup = "cluster" then Backup.latest Backup.Record.succeeded history
  else (Backup.latest Backup.Record.checked history).map Prod.snd

structure Promised (backup : BackupConfig) (history : List Backup.Record) (made : Backup.Pruned) : Prop where
  recorded : Backup.latest Backup.Record.pruned history = some made
  ended : EndedWell made.record.result
  writer : made.writer = promisedWriter backup
  current : ∀ time, prunedAfter backup history = some time →
    notBefore parseTime (Text.trim made.now) (Text.trim time) = true

-- A prune that ended well, and is not the one promised, is the last recorded.
inductive StandsIn (backup : BackupConfig) (history : List Backup.Record) (made : Backup.Pruned) : Prop where
  | afterCheck (checked : Backup.CheckResult × String)
      (check : resolveRetentionEnforce backup ≠ "operator" ∧ resolveRetentionEnforce backup ≠ "cluster")
      (scheduled : Text.trim backup.checkSchedule ≠ "") (written : made.writer = "backup")
      (found : Backup.latest Backup.Record.checked history = some checked) (dated : Text.trim checked.2 ≠ "")
      (after : notBefore parseTime (Text.trim made.now) (Text.trim checked.2) = true)
  | ofCheck (cluster : resolveRetentionEnforce backup = "cluster") (written : made.writer = "check")
  | outrun (success : String) (cluster : resolveRetentionEnforce backup = "cluster")
      (found : Backup.latest Backup.Record.succeeded history = some success)
      (later : notBefore parseTime (Text.trim made.now) (Text.trim success) = false)

def Displaced (backup : BackupConfig) (history : List Backup.Record) : Prop :=
  ∃ made, Backup.latest Backup.Record.pruned history = some made ∧ Text.trim made.now ≠ "" ∧ EndedWell made.record.result ∧
    StandsIn parseTime backup history made

theorem shown_some (text time : String) : shown text = some time ↔ Text.trim text = time ∧ time ≠ "" := by
  rw [shown]
  by_cases blank : Text.trim text = ""
  · simp only [blank, if_true]
    constructor
    · exact nofun
    · rintro ⟨rfl, inside⟩
      exact absurd rfl inside
  · rw [if_neg blank, some.injEq]
    constructor
    · rintro rfl
      exact ⟨rfl, blank⟩
    · exact And.left

variable {history : List Backup.Record} {backup : BackupConfig}

theorem prune_read {prune : Prune} (read : (recordOf history).prune = some prune) :
    ∃ made, Backup.latest Backup.Record.pruned history = some made ∧ Text.trim made.now = prune.time ∧ prune.time ≠ "" ∧
      prune.result = made.record.result := by
  rw [recorded_prune] at read
  obtain ⟨made, last, read⟩ := bind_eq_some_iff.mp read
  obtain ⟨time, timed, rfl⟩ := map_eq_some_iff.mp read
  obtain ⟨same, inside⟩ := (shown_some made.now time).mp timed
  exact ⟨made, last, same, inside, rfl⟩

theorem prune_found {made : Backup.Pruned}
    (last : Backup.latest Backup.Record.pruned history = some made) (dated : Text.trim made.now ≠ "") :
    ∃ prune, (recordOf history).prune = some prune ∧ prune.time = Text.trim made.now ∧ prune.result = made.record.result := by
  rw [recorded_prune, last, bind_some, (shown_some made.now _).mpr ⟨rfl, dated⟩]
  exact ⟨_, rfl, rfl, rfl⟩

theorem check_read {check : Check} (read : (recordOf history).check = some check) :
    ∃ checked, Backup.latest Backup.Record.checked history = some checked ∧ Text.trim checked.2 = check.time ∧
      check.time ≠ "" := by
  rw [recorded_check] at read
  obtain ⟨checked, last, read⟩ := bind_eq_some_iff.mp read
  obtain ⟨time, timed, rfl⟩ := map_eq_some_iff.mp read
  obtain ⟨same, inside⟩ := (shown_some checked.2 time).mp timed
  exact ⟨checked, last, same, inside⟩

theorem check_found {checked : Backup.CheckResult × String}
    (last : Backup.latest Backup.Record.checked history = some checked) (dated : Text.trim checked.2 ≠ "") :
    ∃ check, (recordOf history).check = some check ∧ check.time = Text.trim checked.2 := by
  rw [recorded_check, last, bind_some, (shown_some checked.2 _).mpr ⟨rfl, dated⟩]
  exact ⟨_, rfl, rfl⟩

variable (outside repo : String)

theorem check_displaced (history : List Backup.Record)
    (check : resolveRetentionEnforce backup ≠ "operator" ∧ resolveRetentionEnforce backup ≠ "cluster") :
    ((assessCheck parseTime backup.checkSchedule (recordOf history) outside repo).isTrue = true →
      ∃ made, Promised parseTime backup history made) ↔ ¬ Displaced parseTime backup history := by
  rw [check_true]
  constructor
  · rintro promised ⟨made, last, dated, ended, standsIn⟩
    cases standsIn with
    | ofCheck cluster _ | outrun _ cluster _ _ => exact check.2 cluster
    | afterCheck checked _ scheduled written found checkDated after =>
      obtain ⟨prune, pruneRead, pruneTime, result⟩ := prune_found last dated
      obtain ⟨seen, checkRead, checkTime⟩ := check_found found checkDated
      obtain ⟨other, holds⟩ := promised ⟨scheduled, seen, prune, checkRead, pruneRead,
        by rw [pruneTime, checkTime]; exact after, by rw [result]; exact ended⟩
      have same := some.inj (holds.recorded.symm.trans last)
      have writer := holds.writer
      rw [same, written, promisedWriter, if_neg check.2] at writer
      exact absurd writer (by decide)
  · rintro clear ⟨scheduled, seen, prune, checkRead, pruneRead, after, ended⟩
    obtain ⟨made, last, pruneTime, inside, result⟩ := prune_read pruneRead
    obtain ⟨checked, found, checkTime, checkInside⟩ := check_read checkRead
    rw [result] at ended
    rw [← pruneTime, ← checkTime] at after
    refine ⟨made, last, ended, ?_, ?_⟩
    · rw [promisedWriter, if_neg check.2]
      rcases pruned_writer last with written | written
      · exact absurd ⟨made, last, by rw [pruneTime]; exact inside, ended,
          .afterCheck checked check scheduled written found (by rw [checkTime]; exact checkInside) after⟩ clear
      · exact written
    · intro time follows
      rw [prunedAfter, if_neg check.2, found] at follows
      rw [← some.inj follows]
      exact after

theorem cluster_displaced (history : List Backup.Record)
    (cluster : resolveRetentionEnforce backup = "cluster") :
    ((assessCluster (recordOf history) outside repo).isTrue = true → ∃ made, Promised parseTime backup history made) ↔
      ¬ Displaced parseTime backup history := by
  rw [cluster_true]
  constructor
  · rintro promised ⟨made, last, dated, ended, standsIn⟩
    obtain ⟨prune, pruneRead, _, result⟩ := prune_found last dated
    obtain ⟨other, holds⟩ := promised ⟨prune, pruneRead, by rw [result]; exact ended⟩
    obtain rfl := some.inj (holds.recorded.symm.trans last)
    cases standsIn with
    | afterCheck _ check _ _ _ _ _ => exact check.2 cluster
    | ofCheck _ written =>
      have writer := holds.writer
      rw [written, promisedWriter, if_pos cluster] at writer
      exact absurd writer (by decide)
    | outrun success _ found later =>
      have current := holds.current success (by rw [prunedAfter, if_pos cluster]; exact found)
      rw [later] at current
      cases current
  · rintro clear ⟨prune, pruneRead, ended⟩
    obtain ⟨made, last, pruneTime, inside, result⟩ := prune_read pruneRead
    rw [result] at ended
    have dated : Text.trim made.now ≠ "" := by rw [pruneTime]; exact inside
    refine ⟨made, last, ended, ?_, ?_⟩
    · rw [promisedWriter, if_pos cluster]
      rcases pruned_writer last with written | written
      · exact written
      · exact absurd ⟨made, last, dated, ended, .ofCheck cluster written⟩ clear
    · intro time follows
      rw [prunedAfter, if_pos cluster] at follows
      cases later : notBefore parseTime (Text.trim made.now) (Text.trim time) with
      | true => rfl
      | false => exact absurd ⟨made, last, dated, ended, .outrun time cluster follows later⟩ clear

-- True stands for the promised prune unless another that ended well is the last recorded.
theorem retention_true_exact (backup : BackupConfig) (enabled : backup.enabled = true) (annotation_ : Option String)
    (history : List Backup.Record) (observed : Observed) (readable : observed.runnerStatusError = none)
    (read : observed.runnerStatus = statusJson (Backup.recorded history)) :
    ((assess parseTime (some backup) annotation_ (.ok observed)).isTrue = true →
      ∃ made, Promised parseTime backup history made) ↔ ¬ Displaced parseTime backup history := by
  have assessed : assess parseTime (some backup) annotation_ (.ok observed) =
      assessRecord parseTime backup annotation_ (recordOf history) := by
    simp [assess, Option.filter, enabled, readable, read, recordOf]
  rw [assessed, assessRecord]
  by_cases operator : resolveRetentionEnforce backup = "operator"
  · rw [if_pos operator]
    refine iff_of_true (fun true_ => by simp [Verdict.isTrue] at true_) ?_
    rintro ⟨made, _, _, _, standsIn⟩
    cases standsIn with
    | afterCheck _ check _ _ _ _ _ => exact check.1 operator
    | ofCheck cluster _ => rw [operator] at cluster; exact absurd cluster (by decide)
    | outrun _ cluster _ _ => rw [operator] at cluster; exact absurd cluster (by decide)
  · rw [if_neg operator]
    by_cases cluster : resolveRetentionEnforce backup = "cluster"
    · rw [if_pos cluster]
      exact cluster_displaced parseTime _ _ history cluster
    · rw [if_neg cluster]
      exact check_displaced parseTime _ _ history ⟨operator, cluster⟩

end Verdict

def sundayClock (text : String) : Option Int :=
  if text = "2026-09-20T06:00:30+00:00" then some 1789884030000000000
  else if text = "2026-09-20T06:00:41+00:00" then some 1789884041000000000
  else if text = "2026-09-21T03:01:00+00:00" then some 1789959660000000000
  else none

def sundayPrune : List Backup.Record :=
  [.check .passed "2026-09-20T06:00:30+00:00", .prune (.done (.pruned 9 9 17 0)) "2026-09-20T06:00:41+00:00"]

def mondayBackup : List Backup.Record :=
  sundayPrune ++ [.backup (.success (some "9f2c41d7")) "monolithic" "2026-09-21T03:01:00+00:00" none]

def observedOf : Observed :=
  { runnerStatus := statusJson (Backup.recorded history) }

def backupUnder (enforce : Option String) : BackupConfig :=
  { enabled := true, checkSchedule := "0 6 * * 0", retention := some ⟨enforce⟩ }

theorem sunday_promised : ∃ made, Promised sundayClock (backupUnder none) sundayPrune made := by
  refine (retention_true_exact sundayClock (backupUnder none) rfl none sundayPrune (observedOf sundayPrune) rfl rfl).mpr ?_
    (by decide +kernel)
  rintro ⟨made, last, _, _, standsIn⟩
  cases standsIn with
  | afterCheck _ _ _ written _ _ _ =>
    cases some.inj last
    exact absurd written (by decide)
  | ofCheck cluster _ => exact absurd cluster (by decide)
  | outrun _ cluster _ _ => exact absurd cluster (by decide)

theorem monday_displaced :
    (assess sundayClock (some (backupUnder (some "cluster"))) none (.ok (observedOf mondayBackup))).isTrue = true ∧
      ¬ ∃ made, Promised sundayClock (backupUnder (some "cluster")) mondayBackup made := by
  refine ⟨by decide +kernel, ?_⟩
  rintro ⟨made, holds⟩
  have writer := holds.writer
  cases some.inj holds.recorded
  exact absurd writer (by decide)

end AppRafter.Platform.BackupRetention
