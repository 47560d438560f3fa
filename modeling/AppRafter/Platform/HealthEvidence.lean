import AppRafter.Platform.HealthAssess

set_option autoImplicit false

namespace AppRafter.Platform.BackupHealth

open Lib List Option

section Evidence

variable (parseTime : String → Option Int)

def Stuck (pod : Json) (now : Int) : Prop :=
  ((placed pod = false ∧ ¬ ((unschedulable pod).isSome = true ∧ nominated pod = true)) ∨
      (placed pod = true ∧ phaseIs pod "Pending" = true)) ∧
    ∃ since, waitingSince parseTime pod = some since ∧ since + notStartedGraceSecs * second ≤ now

theorem not_yet_none (since : Option Int) (now : Int) :
    notYet since now = none ↔ ∃ start, since = some start ∧ start + notStartedGraceSecs * second ≤ now := by
  cases since with
  | none =>
    have inside : now < now + notStartedGraceSecs * second := by
      simp only [notStartedGraceSecs, second]
      omega
    simp [notYet, inside]
  | some start =>
    simp only [notYet, getD_some, some.injEq]
    by_cases inside : now < start + notStartedGraceSecs * second
    · rw [if_pos inside]
      exact iff_of_false (fun none_ => by cases none_) fun ⟨other, same, past⟩ => by omega
    · rw [if_neg inside]
      exact iff_of_true rfl ⟨start, rfl, by omega⟩

variable {now : Int} {job cronjob : Json} {observed : Observed} {run : Run} {prior : Option PlatformStackCondition}
  {outcome : Outcome} {backup : RunAssessment} {message : String}

theorem stuck_trouble (run : Run) (job pod : Json) (stuck : Stuck parseTime pod now) :
    ∃ reason message, livePod parseTime run job pod now = .trouble reason message := by
  obtain ⟨waits, past⟩ := stuck
  have elapsed := (not_yet_none _ _).mpr past
  rw [livePod]
  rcases waits with ⟨unplaced, alone⟩ | ⟨here, pending⟩
  · rw [if_pos unplaced, if_neg alone, elapsed]
    exact ⟨_, _, rfl⟩
  · rw [if_neg (by rw [here]; decide), if_neg (by rw [pending]; decide), elapsed]
    exact ⟨_, _, rfl⟩

-- What no trouble of an unfinished Job means.
structure Untroubled (job : Json) (observed : Observed) (now : Int) : Prop where
  attempts : ∀ pod ∈ observed.pods, ownedBy pod job = true → phaseIs pod "Failed" = true → suspended job = true
  live : (∃ pod ∈ observed.pods, ownedBy pod job = true ∧ isLive pod = true) →
    ∃ pod, Greatest (created parseTime) ((observed.pods.filter fun p => ownedBy p job).filter isLive) pod ∧
      ¬ Stuck parseTime pod now
  pods : (∀ pod ∈ observed.pods, ownedBy pod job = false) → countsNoPod job = true →
    ∀ start, created parseTime job = some start → now < start + notStartedGraceSecs * second

theorem failed_pod_attempt {pod : Json} (failed : phaseIs pod "Failed" = true) (runs : suspended job = false) :
    isFailedAttempt pod job false = true := by
  have unfinished : phaseIs pod "Succeeded" = false := by
    rw [phaseIs, beq_iff_eq] at failed
    rw [phaseIs, failed]
    decide
  simp only [isFailedAttempt, unfinished, Bool.false_eq_true, if_false, failed, Bool.or_true, Bool.and_true, runs, Bool.not_false]
  cases (disrupted pod).isSome <;> simp

theorem attempt_found (run : Run) (prior : Option PlatformStackCondition) (now : Int)
    {pod : Json} (member : pod ∈ observed.pods) (owned : ownedBy pod job = true)
    (failed : isFailedAttempt pod job false = true) :
    ∃ newest, newestFailedAttempt parseTime run job observed prior now = some newest := by
  have present : pod ∈ (observed.pods.filter fun p => ownedBy p job).filter fun p => isFailedAttempt p job false :=
    mem_filter.mpr ⟨mem_filter.mpr ⟨member, owned⟩, failed⟩
  obtain ⟨newestPod, chosen⟩ := max_by_key_exists (created parseTime) (ne_nil_of_mem present)
  simp only [newestFailedAttempt, chosen]
  split
  · exact ⟨_, rfl⟩
  · split
    · exact ⟨_, rfl⟩
    · split
      · split <;> exact ⟨_, rfl⟩
      · exact ⟨_, rfl⟩

theorem unfinished_untroubled
    (clear : (unfinishedTrouble parseTime run job observed prior now).1 = none) : Untroubled parseTime job observed now := by
  have alone : failedAttempt parseTime run job observed prior now = none := by
    cases attempt : failedAttempt parseTime run job observed prior now with
    | none => rfl
    | some earlier =>
      simp only [unfinishedTrouble, attempt] at clear
      split at clear
      · cases clear
      · split at clear <;> cases clear
  have unattempted : newestFailedAttempt parseTime run job observed prior now = none := by
    cases newest : newestFailedAttempt parseTime run job observed prior now with
    | none => rfl
    | some attempt =>
      rw [failedAttempt, newest] at alone
      cases alone
  simp only [unfinishedTrouble, alone, map_none, getD_none] at clear
  refine ⟨?_, ?_, ?_⟩
  · intro pod member owned failed
    cases runs : suspended job with
    | true => rfl
    | false =>
      obtain ⟨newest, found⟩ := attempt_found parseTime run prior now member owned (failed_pod_attempt failed runs)
      rw [unattempted] at found
      cases found
  · rintro ⟨pod, member, owned, alive⟩
    have present : pod ∈ (observed.pods.filter fun p => ownedBy p job).filter isLive :=
      mem_filter.mpr ⟨mem_filter.mpr ⟨member, owned⟩, alive⟩
    obtain ⟨newest, chosen⟩ := max_by_key_exists (created parseTime) (ne_nil_of_mem present)
    refine ⟨newest, max_by_key_greatest _ chosen, fun stuck => ?_⟩
    obtain ⟨reason, message, trouble⟩ := stuck_trouble _ run job _ stuck
    have found : live parseTime job observed.pods = some newest := chosen
    simp only [found, trouble] at clear
    cases clear
  · intro podless uncounted start known
    have empty : observed.pods.filter (fun p => ownedBy p job) = [] := by
      rw [filter_eq_nil_iff]
      intro pod member
      rw [podless pod member]
      exact Bool.false_ne_true
    have lifeless : live parseTime job observed.pods = none := by rw [live, empty]; rfl
    simp only [lifeless, noPod, empty, isEmpty_nil, uncounted, and_self, if_true] at clear
    by_contra past
    have elapsed : notYet (created parseTime job) now = none := (not_yet_none _ _).mpr ⟨start, known, not_lt.mp past⟩
    rw [elapsed] at clear
    cases clear

-- The fold over the unfinished Jobs keeps the first trouble it meets.
theorem unfinished_clear (run : Run) (observed : Observed) (prior : Option PlatformStackCondition) (now : Int)
    (jobs : List Json) (held : Option (Outcome × Json) × Option Int)
    (clear : (jobs.foldl (unfinishedStep parseTime run observed prior now) held).1 = none) :
    held.1 = none ∧ ∀ job ∈ jobs, (unfinishedTrouble parseTime run job observed prior now).1 = none := by
  induction jobs generalizing held with
  | nil => exact ⟨clear, nofun⟩
  | cons job rest ih =>
    obtain ⟨kept, others⟩ := ih _ clear
    rw [unfinishedStep, or_eq_none_iff, map_eq_none_iff] at kept
    refine ⟨kept.1, fun other member => ?_⟩
    rcases mem_cons.mp member with rfl | later
    · exact kept.2
    · exact others other later

theorem unfinished_found (run : Run) (observed : Observed) (prior : Option PlatformStackCondition) (now : Int)
    (jobs : List Json) (held : Option (Outcome × Json) × Option Int) (outcome : Outcome) (job : Json)
    (found : (jobs.foldl (unfinishedStep parseTime run observed prior now) held).1 = some (outcome, job)) :
    held.1 = some (outcome, job) ∨ (job ∈ jobs ∧ (unfinishedTrouble parseTime run job observed prior now).1 = some outcome) := by
  induction jobs generalizing held with
  | nil => exact .inl found
  | cons first rest ih =>
    rcases ih _ found with kept | ⟨later, troubled⟩
    · rw [unfinishedStep, or_eq_some_iff] at kept
      rcases kept with early | ⟨_, here⟩
      · exact .inl early
      · obtain ⟨said, troubled, same⟩ := map_eq_some_iff.mp here
        cases same
        exact .inr ⟨mem_cons_self, troubled⟩
    · exact .inr ⟨mem_cons_of_mem _ later, troubled⟩

theorem no_pod_trouble
    (found : (noPod parseTime run job observed now).1 = some outcome) : ∃ reason message, outcome = .trouble reason message := by
  rw [noPod] at found
  split at found
  · split at found
    · cases found
    · exact ⟨_, _, (some.inj found).symm⟩
  · cases found

theorem unfinished_is_trouble (found : (unfinishedTrouble parseTime run job observed prior now).1 = some outcome) :
    ∃ reason message, outcome = .trouble reason message := by
  rw [unfinishedTrouble] at found
  cases attempt : failedAttempt parseTime run job observed prior now with
  | some earlier =>
    simp only [attempt] at found
    split at found
    · exact ⟨_, _, (some.inj found).symm⟩
    · split at found
      · exact ⟨_, _, (some.inj found).symm⟩
      · exact ⟨_, _, (some.inj found).symm⟩
      · exact ⟨_, _, (some.inj found).symm⟩
  | none =>
    simp only [attempt] at found
    split at found
    · exact no_pod_trouble _ found
    · split at found
      · exact ⟨_, _, (some.inj found).symm⟩
      · cases found
      · exact no_pod_trouble _ found

instance : Std.TransCmp (newestJobFirst parseTime) :=
  haveI : Std.TransCmp fun a b : Json => compare (created parseTime b) (created parseTime a) :=
    @Std.TransCmp.opposite _ (compareOn (created parseTime)) inferInstance
  haveI : Std.TransCmp fun a b : Json => compare (name b) (name a) := @Std.TransCmp.opposite _ (compareOn name) inferInstance
  inferInstanceAs (Std.TransCmp (compareLex (fun a b => compare (created parseTime b) (created parseTime a))
    fun a b => compare (name b) (name a)))

structure Finished (run : Run) (observed : Observed) (job : Json) (end_ : Ending) : Prop where
  member : job ∈ observed.jobs
  owned : run.owns job = true
  kept : deleting job = false
  ended : ending job = some end_

theorem mem_jobs_of (run : Run) (observed : Observed) (job : Json) :
    job ∈ jobsOf parseTime run observed ↔ job ∈ observed.jobs ∧ run.owns job = true ∧ deleting job = false := by
  rw [jobsOf, (perm_insertionSort _ _).mem_iff, mem_filter, mem_filter, and_assoc, Bool.not_eq_true']

theorem jobs_sorted (run : Run) (observed : Observed) :
    (jobsOf parseTime run observed).Pairwise fun a b => newestJobFirst parseTime b a ≠ .lt := by
  refine (insertion_sorted (newestJobFirst parseTime) _).imp ?_
  intro a b ordered before
  rw [Std.OrientedCmp.gt_of_lt before] at ordered
  cases ordered

theorem deciding_newest {end_ : Ending} (found : finishedJob parseTime run observed = some (job, end_)) :
    Finished run observed job end_ ∧
      ∀ other last, Finished run observed other last → newestJobFirst parseTime other job ≠ .lt := by
  obtain ⟨front, first, back, split_, taken, unfinished⟩ := findSome?_eq_some_iff.mp found
  obtain ⟨seen, ended, same⟩ := map_eq_some_iff.mp taken
  cases same
  have present : job ∈ jobsOf parseTime run observed := by
    rw [split_]
    exact mem_append_right front mem_cons_self
  obtain ⟨member, owned, kept⟩ := (mem_jobs_of parseTime run observed job).mp present
  refine ⟨⟨member, owned, kept, ended⟩, fun other last finished before => ?_⟩
  have listed := (mem_jobs_of parseTime run observed other).mpr ⟨finished.member, finished.owned, finished.kept⟩
  have sorted := jobs_sorted parseTime run observed
  rw [split_] at listed sorted
  rcases mem_append.mp listed with early | late
  · have none_ := unfinished other early
    rw [finished.ended] at none_
    cases none_
  · rcases mem_cons.mp late with rfl | later
    · exact Std.OrientedCmp.not_lt_of_lt before before
    · exact (pairwise_cons.mp (pairwise_append.mp sorted).2.1).1 other later before

structure RunSound (run : Run) (cronjob : Json) (observed : Observed) (now : Int) : Prop where
  scheduled : suspended cronjob = false
  unfinished : ∀ job ∈ observed.jobs, run.owns job = true → deleting job = false → ending job = none →
    Untroubled parseTime job observed now
  finished : (∃ job end_, Finished run observed job end_) →
    ∃ job time, Finished run observed job (.succeeded time) ∧
      ∀ other last, Finished run observed other last → newestJobFirst parseTime other job ≠ .lt

def Quiet (assessment : RunAssessment) : Prop := ∀ reason message, assessment.outcome ≠ .trouble reason message

theorem assess_run_cases (run : Run) (cronjob : Json) (observed : Observed) (prior : Option PlatformStackCondition) (now : Int) :
    (∃ reason message, (assessRun parseTime run cronjob observed prior now).outcome = .trouble reason message) ∨
      (suspended cronjob = false ∧
        (∀ job ∈ unfinishedJobs parseTime run observed, (unfinishedTrouble parseTime run job observed prior now).1 = none) ∧
        (assessRun parseTime run cronjob observed prior now).outcome = finishedOutcome parseTime run cronjob observed prior) := by
  rw [assessRun]
  cases paused : suspended cronjob with
  | true => exact .inl ⟨_, _, rfl⟩
  | false =>
    rw [if_neg Bool.false_ne_true]
    cases found : ((unfinishedJobs parseTime run observed).foldl (unfinishedStep parseTime run observed prior now)
        (none, none)).1 with
    | some trouble =>
      obtain ⟨outcome, job⟩ := trouble
      simp only [found]
      rcases unfinished_found _ run _ prior now _ _ _ job found with start | ⟨_, troubled⟩
      · cases start
      · exact .inl (unfinished_is_trouble _ troubled)
    | none =>
      simp only [found]
      exact .inr ⟨trivial, (unfinished_clear _ run _ prior now _ _ found).2, trivial⟩

theorem quiet_sound
    (quiet : Quiet (assessRun parseTime run cronjob observed prior now)) : RunSound parseTime run cronjob observed now := by
  rcases assess_run_cases parseTime run cronjob observed prior now with ⟨reason, message, troubled⟩ | ⟨scheduled, clear, decided⟩
  · exact absurd troubled (quiet reason message)
  · refine ⟨scheduled, ?_, ?_⟩
    · intro job member owned kept open_
      have listed := (mem_jobs_of parseTime run observed job).mpr ⟨member, owned, kept⟩
      exact unfinished_untroubled parseTime (clear job (mem_filter.mpr ⟨listed, by rw [open_]; rfl⟩))
    · rintro ⟨job, end_, finished⟩
      have listed := (mem_jobs_of parseTime run observed job).mpr ⟨finished.member, finished.owned, finished.kept⟩
      cases last : finishedJob parseTime run observed with
      | none =>
        have none_ := findSome?_eq_none_iff.mp last job listed
        rw [finished.ended] at none_
        cases none_
      | some found =>
        obtain ⟨deciding, ending_⟩ := found
        obtain ⟨ended, newest⟩ := deciding_newest _ last
        cases ending_ with
        | succeeded time => exact ⟨deciding, time, ended, newest⟩
        | failed reason message time =>
          simp only [finishedOutcome, last] at decided
          exact absurd decided (quiet _ _)

def successRecorded (cronjob : Json) (observed : Observed) : Prop :=
  (∃ job time, Finished .backup observed job (.succeeded time)) ∨ (strAt cronjob ["status", "lastSuccessfulTime"]).isSome = true

theorem verdict_quiet {check : Option RunAssessment} (healthy : (verdictOf backup check).isTrue = true) :
    (∃ message, backup.outcome = .succeeded message) ∧ ∀ run, check = some run → Quiet run := by
  obtain ⟨outcome, edge, subject⟩ := backup
  rcases check with _ | ⟨other, otherEdge, otherSubject⟩
  · cases outcome with
    | trouble reason message => cases healthy
    | noRun message => cases healthy
    | succeeded message => exact ⟨⟨message, rfl⟩, nofun⟩
  · cases outcome with
    | trouble | noRun =>
      cases other with
      | trouble _ _ => cases healthy
      | succeeded _ => cases healthy
      | noRun _ => cases healthy
    | succeeded message =>
      refine ⟨⟨message, rfl⟩, fun run same => ?_⟩
      cases same
      intro reason text troubled
      cases troubled
      cases healthy

theorem succeeded_recorded (succeeded : (assessRun parseTime .backup cronjob observed prior now).outcome = .succeeded message) :
    successRecorded cronjob observed := by
  rcases assess_run_cases parseTime .backup cronjob observed prior now with ⟨reason, text, troubled⟩ | ⟨_, _, decided⟩
  · rw [troubled] at succeeded
    cases succeeded
  · rw [succeeded, finishedOutcome] at decided
    cases last : finishedJob parseTime .backup observed with
    | none =>
      simp only [last, noFinishedRun] at decided
      cases time : strAt cronjob ["status", "lastSuccessfulTime"] with
      | some at_ => exact .inr (by rw [time]; rfl)
      | none =>
        simp only [time] at decided
        split at decided
        · cases decided
        · split at decided <;> cases decided
    | some found =>
      obtain ⟨job, end_⟩ := found
      cases end_ with
      | failed reason text time =>
        simp only [last] at decided
        cases decided
      | succeeded time => exact .inl ⟨job, time, (deciding_newest _ last).1⟩

-- What `True` stands on.
structure Evidence (observed : Observed) (now : Int) : Prop where
  backup : ∃ cronjob, cronjobNamed observed backupCronjob = some cronjob ∧
    RunSound parseTime .backup cronjob observed now ∧ successRecorded cronjob observed
  check : ∀ cronjob, cronjobNamed observed checkCronjob = some cronjob → RunSound parseTime .check cronjob observed now

theorem true_evidence
    (healthy : (assessObserved parseTime observed prior now).verdict.isTrue = true) : Evidence parseTime observed now := by
  rw [assessObserved] at healthy
  cases deployed : cronjobNamed observed backupCronjob with
  | none =>
    rw [deployed] at healthy
    cases healthy
  | some cronjob =>
    simp only [deployed] at healthy
    obtain ⟨⟨message, succeeded⟩, checks⟩ := verdict_quiet healthy
    have quiet : Quiet (assessRun parseTime .backup cronjob observed prior now) := by
      intro reason text troubled
      rw [succeeded] at troubled
      cases troubled
    refine ⟨⟨cronjob, deployed, quiet_sound _ quiet, succeeded_recorded _ succeeded⟩, fun check here => ?_⟩
    exact quiet_sound _ (checks _ (by rw [here]; rfl))

theorem unsound_trouble (prior : Option PlatformStackCondition) (unsound : ¬ RunSound parseTime run cronjob observed now) :
    ∃ reason message, (assessRun parseTime run cronjob observed prior now).outcome = .trouble reason message := by
  by_contra quiet
  exact unsound (quiet_sound parseTime fun reason message troubled => quiet ⟨reason, message, troubled⟩)

theorem both_false {check : RunAssessment} {reason other said : String}
    (first : backup.outcome = .trouble reason message) (second : check.outcome = .trouble other said) :
    verdictOf backup (some check) = falseVerdict reason (message ++ alsoFailing ++ check.subject ++ " (" ++ other ++ ").") := by
  obtain ⟨_, _, _⟩ := backup
  obtain ⟨_, _, _⟩ := check
  cases first
  cases second
  rfl

theorem check_false (backup check : RunAssessment) {reason : String} (troubled : check.outcome = .trouble reason message) :
    ∃ reason message, verdictOf backup (some check) = falseVerdict reason message := by
  cases first : backup.outcome with
  | trouble other said => exact ⟨_, _, both_false first troubled⟩
  | succeeded | noRun =>
    obtain ⟨_, _, _⟩ := backup
    obtain ⟨_, _, _⟩ := check
    cases first
    cases troubled
    exact ⟨reason, message, rfl⟩

-- A check in trouble is False, and named beside a backup that is in trouble too.
theorem healthy_on_evidence (enabled : Bool) (observed : Except String Observed) (prior : List PlatformStackCondition)
    (now : Int) :
    ((assess parseTime enabled observed prior now).verdict.isTrue = true →
      ∃ state, observed = .ok state ∧ Evidence parseTime state now) ∧
      ∀ state backup check, enabled = true → observed = .ok state → cronjobNamed state backupCronjob = some backup →
        cronjobNamed state checkCronjob = some check → ¬ RunSound parseTime .check check state now →
          (∃ reason message, (assess parseTime enabled observed prior now).verdict = falseVerdict reason message) ∧
          (¬ RunSound parseTime .backup backup state now → ∃ reason message other said,
            (assess parseTime enabled observed prior now).verdict = falseVerdict reason (message ++ alsoFailing ++
                (assessRun parseTime .check check state (findCondition prior condBackupHealthy) now).subject ++
                " (" ++ other ++ ").") ∧
              (assessRun parseTime .backup backup state (findCondition prior condBackupHealthy) now).outcome =
                .trouble reason message ∧
              (assessRun parseTime .check check state (findCondition prior condBackupHealthy) now).outcome =
                .trouble other said) := by
  constructor
  · intro healthy
    cases enabled with
    | false => cases healthy
    | true =>
      cases observed with
      | error why => cases healthy
      | ok state => exact ⟨state, rfl, true_evidence parseTime healthy⟩
  · rintro state backup check rfl rfl deployed scheduled unsound
    obtain ⟨other, said, checkTrouble⟩ := unsound_trouble parseTime (findCondition prior condBackupHealthy) unsound
    have whole : (assess parseTime true (.ok state) prior now).verdict =
        verdictOf (assessRun parseTime .backup backup state (findCondition prior condBackupHealthy) now)
          (some (assessRun parseTime .check check state (findCondition prior condBackupHealthy) now)) := by
      change (assessObserved parseTime state (findCondition prior condBackupHealthy) now).verdict = _
      rw [assessObserved, deployed, scheduled]
      rfl
    rw [whole]
    constructor
    · exact check_false _ _ checkTrouble
    · intro unsoundToo
      obtain ⟨reason, message, backupTrouble⟩ := unsound_trouble parseTime (findCondition prior condBackupHealthy) unsoundToo
      exact ⟨reason, message, other, said, both_false backupTrouble checkTrouble, backupTrouble, checkTrouble⟩

def Ending.endedAt : Ending → Option Int
  | .succeeded time => time.bind parseTime
  | .failed _ _ time => time.bind parseTime

end Evidence

def nightClock (text : String) : Option Int :=
  if text = "2026-09-23T03:00:00Z" then some 1790132400000000000
  else if text = "2026-09-23T03:30:00Z" then some 1790134200000000000
  else if text = "2026-09-23T04:00:00Z" then some 1790136000000000000
  else if text = "2026-09-23T05:00:00Z" then some 1790139600000000000
  else none

def jobCondition (type reason time : String) : Json :=
  .obj [("type", .str type), ("status", .str "True"), ("reason", .str reason), ("lastTransitionTime", .str time)]

def nightlyJob : Json :=
  .obj [("metadata", .obj [("name", .str "apprafter-backup-29100"), ("uid", .str "u1"),
      ("creationTimestamp", .str "2026-09-23T03:00:00Z"),
      ("ownerReferences", .arr [.obj [("kind", .str "CronJob"), ("name", .str backupCronjob)]])]),
    ("status", .obj [("conditions", .arr [jobCondition "Failed" "BackoffLimitExceeded" "2026-09-23T05:00:00Z"])])]

def manualJob : Json :=
  .obj [("metadata", .obj [("name", .str "apprafter-backup-manual-1"), ("uid", .str "u2"),
      ("labels", .obj [("apprafter.io/manual", .str "true")]), ("creationTimestamp", .str "2026-09-23T03:30:00Z")]),
    ("status", .obj [("conditions", .arr [jobCondition "Complete" "" "2026-09-23T04:00:00Z"])])]

def overlapping : Observed :=
  { cronjobs := [.obj [("metadata", .obj [("name", .str backupCronjob)])]]
    jobs := [nightlyJob, manualJob] }

-- A manual run that started later and ended earlier hides the failure of the nightly one.
theorem overlap_hides_failure :
    (assess nightClock true (.ok overlapping) [] 1790139600000000000).verdict.isTrue = true ∧
      ∃ job end_, Finished .backup overlapping job end_ ∧ (∀ time, end_ ≠ .succeeded time) ∧
        ∀ other last, Finished .backup overlapping other last →
          (compare (last.endedAt nightClock) (end_.endedAt nightClock)).isLE = true := by
  refine ⟨by decide +kernel, nightlyJob, .failed "BackoffLimitExceeded" "" (some "2026-09-23T05:00:00Z"),
    ⟨mem_cons_self, by decide +kernel, by decide +kernel, by decide +kernel⟩, nofun, ?_⟩
  intro other last finished
  have listed := finished.member
  have ended := finished.ended
  simp only [overlapping, mem_cons, not_mem_nil, or_false] at listed
  rcases listed with rfl | rfl
  · have same : ending nightlyJob = some (.failed "BackoffLimitExceeded" "" (some "2026-09-23T05:00:00Z")) := by decide +kernel
    rw [same] at ended
    cases ended
    decide +kernel
  · have same : ending manualJob = some (.succeeded (some "2026-09-23T04:00:00Z")) := by decide +kernel
    rw [same] at ended
    cases ended
    decide +kernel

end AppRafter.Platform.BackupHealth
