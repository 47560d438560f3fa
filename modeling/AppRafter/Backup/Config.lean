import AppRafter.Backup.CheckRun
import AppRafter.Webhook.Quantity

set_option autoImplicit false

namespace AppRafter.Backup

open Lib List

def Enforce.parse (value : Option String) : Enforce :=
  if value = some "check" then .check
  else if value = some "cluster" then .cluster
  else .operator

inductive StagingMode where
  | monolithic
  | sequential
  deriving DecidableEq

structure RunnerConfig where
  repo : String
  clusterId : String
  backupHost : String
  passphrase : String
  stagingMode : StagingMode
  enforce : Enforce
  retention : RetentionPolicy
  failureWebhook : Option String
  deadline : Option Duration
  backupRunDeadline : Option Duration
  stagingLimit : Option Nat
  checkDepth : CheckDepth

def defaultBackupHost : String := "apprafter-backup"

def CheckDepth.fromKnobs (readData : Bool) (subset : String) : CheckDepth :=
  if readData then .full else if Text.trim subset = "" then .structureOnly else .subset (Text.trim subset)

-- Rust's str::parse: one sign, then digits, and no more than the type holds.
def parseUnsigned (bound : Nat) (value : String) : Option (Subtype fun n : Nat => n ≤ bound) :=
  let digits := if value.toList.head? = some '+' then value.toList.tail else value.toList
  if digits ≠ [] ∧ digits.all Char.isDigit = true then
    if fits : Nat.ofDigitChars 10 digits 0 ≤ bound then some ⟨_, fits⟩ else none
  else none

def require (e : Dict String) (key : String) : Except String String :=
  match e.get key with
  | some value => .ok value
  | none => .error ("missing required env: " ++ key)

def parseU32 (value key : String) : Except String Nat :=
  match parseUnsigned 4294967295 value with
  | some n => .ok n.1
  | none => .error ("env " ++ key ++ "=" ++ Text.debug value ++ " is not a valid u32")

def parseDeadline (value key : String) : Except String Duration :=
  match parseUnsigned 18446744073709551615 value with
  | some secs =>
    if 0 < secs.1 then .ok (.fromSecs secs.1 secs.2)
    else .error ("env " ++ key ++ "=" ++ Text.debug value ++ " is not a whole number of seconds above zero")
  | none => .error ("env " ++ key ++ "=" ++ Text.debug value ++ " is not a whole number of seconds above zero")

def optionalDeadline (e : Dict String) (key : String) : Except String (Option Duration) :=
  match e.get key with
  | some value => (parseDeadline value key).map some
  | none => .ok none

def keepCount (e : Dict String) (key : String) (default : Nat) : Except String Nat :=
  match e.get key with
  | some value => parseU32 value key
  | none => .ok default

def parseBytes (q : String) : Option Int :=
  if (Text.trim q).toList.isEmpty then none
  else (Webhook.quantityParts (Webhook.quantityUnits.filter fun unit => unit.1 != "m") q).map fun parts =>
    (Decimal.toI64 (parts.1.float * parts.2.float)).toInt

def parseStagingLimit (value : String) : Option Nat := ((parseBytes value).filter fun bytes => 0 < bytes).map Int.toNat

def readDataFlag (value : Option String) : Except String Bool :=
  match value with
  | none => .ok false
  | some text =>
    if text = "" ∨ text = "false" then .ok false
    else if text = "true" then .ok true
    else .error ("env APPRAFTER_BACKUP_CHECK_READ_DATA=" ++ Text.debug text ++ " is not true or false")

section Zone

-- The zone database, and the zone that stands in where it knows no name.
variable (zoneNamed : String → Option Tz) (utc : Tz)

def policyZone (name : String) : Option Tz := if Text.trim name = "" then some utc else zoneNamed (Text.trim name)

def retentionFrom (e : Dict String) : Except String RetentionPolicy := do
  let keepDaily ← keepCount e "APPRAFTER_BACKUP_KEEP_DAILY" 7
  let keepWeekly ← keepCount e "APPRAFTER_BACKUP_KEEP_WEEKLY" 4
  let keepMonthly ← keepCount e "APPRAFTER_BACKUP_KEEP_MONTHLY" 6
  pure ⟨keepDaily, keepWeekly, keepMonthly, (policyZone zoneNamed utc ((e.get "APPRAFTER_BACKUP_TIME_ZONE").getD "")).getD utc⟩

def nonEmpty (value : Option String) : Option String := value.filter fun text => text != ""

def fromEnvMap (e : Dict String) : Except String RunnerConfig := do
  let repo ← require e "APPRAFTER_BACKUP_REPO"
  let clusterId ← require e "APPRAFTER_CLUSTER_ID"
  let passphrase ← require e "RESTIC_PASSWORD"
  let retention ← retentionFrom zoneNamed utc e
  let deadline ← optionalDeadline e "APPRAFTER_BACKUP_DEADLINE_SECONDS"
  let backupRunDeadline ← optionalDeadline e "APPRAFTER_BACKUP_RUN_DEADLINE_SECONDS"
  let readData ← readDataFlag (e.get "APPRAFTER_BACKUP_CHECK_READ_DATA")
  pure
    { repo := repo
      clusterId := clusterId
      backupHost := (nonEmpty (e.get "APPRAFTER_BACKUP_HOST")).getD defaultBackupHost
      passphrase := passphrase
      stagingMode := if e.get "APPRAFTER_BACKUP_STAGING_MODE" = some "sequential" then .sequential else .monolithic
      enforce := Enforce.parse (e.get "APPRAFTER_BACKUP_ENFORCE")
      retention := retention
      failureWebhook := nonEmpty (e.get "APPRAFTER_BACKUP_FAILURE_WEBHOOK")
      deadline := deadline
      backupRunDeadline := backupRunDeadline
      stagingLimit := (e.get "APPRAFTER_BACKUP_STAGING_SIZE_LIMIT").bind parseStagingLimit
      checkDepth := CheckDepth.fromKnobs readData ((e.get "APPRAFTER_BACKUP_CHECK_READ_DATA_SUBSET").getD "") }

theorem bind_ok {Value Result : Type} {first : Except String Value} {rest : Value → Except String Result} {result : Result}
    (ran : first >>= rest = .ok result) : ∃ value, first = .ok value ∧ rest value = .ok result := by
  cases first with
  | error why => cases ran
  | ok value => exact ⟨value, rfl, ran⟩

variable {zoneNamed utc} {e : Dict String}

theorem config_retention {config : RunnerConfig} (accepted : fromEnvMap zoneNamed utc e = .ok config) :
    retentionFrom zoneNamed utc e = .ok config.retention := by
  obtain ⟨repo, _, accepted⟩ := bind_ok accepted
  obtain ⟨clusterId, _, accepted⟩ := bind_ok accepted
  obtain ⟨passphrase, _, accepted⟩ := bind_ok accepted
  obtain ⟨retention, parsed, accepted⟩ := bind_ok accepted
  obtain ⟨deadline, _, accepted⟩ := bind_ok accepted
  obtain ⟨backupRunDeadline, _, accepted⟩ := bind_ok accepted
  obtain ⟨readData, _, accepted⟩ := bind_ok accepted
  rw [parsed, ← Except.ok.inj accepted]

def asksNone (e : Dict String) : Bool :=
  [("APPRAFTER_BACKUP_KEEP_DAILY", 7), ("APPRAFTER_BACKUP_KEEP_WEEKLY", 4), ("APPRAFTER_BACKUP_KEEP_MONTHLY", 6)].all
    fun variable_ => (keepCount e variable_.1 variable_.2).toOption == some 0

theorem asks_none_iff {policy : RetentionPolicy} (parsed : retentionFrom zoneNamed utc e = .ok policy) :
    asksNone e = true ↔ policy.keepDaily = 0 ∧ policy.keepWeekly = 0 ∧ policy.keepMonthly = 0 := by
  obtain ⟨daily, one, parsed⟩ := bind_ok parsed
  obtain ⟨weekly, two, parsed⟩ := bind_ok parsed
  obtain ⟨monthly, three, parsed⟩ := bind_ok parsed
  rw [← Except.ok.inj parsed, asksNone]
  simp [one, two, three, Except.toOption]

end Zone

section Prune

variable (snapshotInstant : String → Option Instant) (thisClusterUid : String) (now : Instant) (runDeadline : Duration)

structure NewestRun (snapshots : List SnapshotMeta) (c : SnapshotMeta) : Prop where
  commit : c ∈ commits snapshotInstant snapshots thisClusterUid
  first : ∀ other ∈ commits snapshotInstant snapshots thisClusterUid, ¬ newerRun snapshotInstant other c

def Unforgotten (policy : RetentionPolicy) (snapshots : List SnapshotMeta) (c : SnapshotMeta) : Prop :=
  ∀ s ∈ snapshots, s.runTag = c.runTag →
    s.id ∉ (planPrune snapshotInstant snapshots policy thisClusterUid now runDeadline).forgetIds

variable {c : SnapshotMeta}

theorem unforgotten_iff (policy : RetentionPolicy) {snapshots : List SnapshotMeta} (distinct : (snapshots.map SnapshotMeta.id).Nodup) (commit : c ∈ commits snapshotInstant snapshots thisClusterUid) :
    Unforgotten snapshotInstant thisClusterUid now runDeadline policy snapshots c ↔
      PolicyKeeps snapshotInstant policy (commits snapshotInstant snapshots thisClusterUid) c := by
  have rotates := complete_forgotten _ policy now runDeadline distinct commit
  have verdict := forgets_id snapshotInstant policy thisClusterUid now runDeadline distinct
  obtain ⟨present, owned, _⟩ := (mem_run_members _ _ _ _).mp ((mem_commits snapshotInstant _ _ c).mp commit).member
  constructor
  · intro stays
    by_contra rotated
    exact stays c present rfl ((verdict c present).mpr ⟨owned, rotates.mpr rotated⟩)
  · intro keeps s here tagged gone
    have forgotten := ((verdict s here).mp gone).2
    rw [tagged] at forgotten
    exact rotates.mp forgotten keeps

theorem newest_exists (snapshots : List SnapshotMeta) (some_ : commits snapshotInstant snapshots thisClusterUid ≠ []) :
    ∃ c, NewestRun snapshotInstant thisClusterUid snapshots c := by
  have search : ∀ runs : List SnapshotMeta, runs ≠ [] → ∃ c ∈ runs, ∀ other ∈ runs, ¬ newerRun snapshotInstant other c := by
    intro runs
    induction runs with
    | nil => exact fun none_ => absurd rfl none_
    | cons run rest ih =>
      intro _
      by_cases bare : rest = []
      · subst bare
        refine ⟨run, mem_cons_self, fun other member => ?_⟩
        rw [mem_singleton.mp member]
        exact fun newer => newer_run_asymm run run newer newer
      · obtain ⟨c, member, first⟩ := ih bare
        by_cases newer : newerRun snapshotInstant run c
        · refine ⟨run, mem_cons_self, fun other listed => ?_⟩
          rcases mem_cons.mp listed with rfl | later
          · exact fun itself => newer_run_asymm other other itself itself
          · exact fun before => first other later (Std.TransCmp.lt_trans before newer)
        · refine ⟨c, mem_cons_of_mem _ member, fun other listed => ?_⟩
          rcases mem_cons.mp listed with rfl | later
          · exact newer
          · exact first other later
  obtain ⟨c, member, first⟩ := search _ some_
  exact ⟨c, member, first⟩

-- Three zero counts keep only the runs without an instant.
theorem zero_policy_keeps {policy : RetentionPolicy}
    (zero : policy.keepDaily = 0 ∧ policy.keepWeekly = 0 ∧ policy.keepMonthly = 0) {reps : List SnapshotMeta}
    (keeps : PolicyKeeps snapshotInstant policy reps c) : hasInstant snapshotInstant c = false := by
  obtain ⟨daily, weekly, monthly⟩ := zero
  obtain ⟨_, undated | ⟨rule, member, survives⟩⟩ := keeps
  · exact undated
  · have room := survives.early
    rw [buckets] at member
    simp only [mem_cons, not_mem_nil, or_false] at member
    rcases member with rfl | rfl | rfl
    · exact absurd (daily ▸ room) (Nat.not_lt_zero _)
    · exact absurd (weekly ▸ room) (Nat.not_lt_zero _)
    · exact absurd (monthly ▸ room) (Nat.not_lt_zero _)

-- The newest complete run stays, unless every count is zero and the run has an instant.
theorem newest_run_survives (zoneNamed : String → Option Tz) (utc : Tz) (e : Dict String) (config : RunnerConfig)
    (accepted : fromEnvMap zoneNamed utc e = .ok config) (snapshots : List SnapshotMeta)
    (distinct : (snapshots.map SnapshotMeta.id).Nodup) (some_ : commits snapshotInstant snapshots thisClusterUid ≠ []) :
    (∃ c, NewestRun snapshotInstant thisClusterUid snapshots c) ∧ ∀ c, NewestRun snapshotInstant thisClusterUid snapshots c →
        (Unforgotten snapshotInstant thisClusterUid now runDeadline config.retention snapshots c ↔
          asksNone e = false ∨ hasInstant snapshotInstant c = false) := by
  refine ⟨newest_exists snapshotInstant thisClusterUid snapshots some_, fun c newest => ?_⟩
  rw [unforgotten_iff snapshotInstant thisClusterUid now runDeadline config.retention distinct newest.commit]
  have none_ := asks_none_iff (config_retention accepted)
  constructor
  · intro keeps
    cases asks : asksNone e with
    | false => exact .inl rfl
    | true => exact .inr (zero_policy_keeps snapshotInstant (none_.mp asks) keeps)
  · rintro (asks | undated)
    · refine first_kept snapshotInstant config.retention ?_ newest.commit newest.first
      have some_ := mt none_.mpr (Bool.eq_false_iff.mp asks)
      omega
    · exact ⟨newest.commit, .inl undated⟩

end Prune

def runnerEnv (counts : List (String × String)) (ordered : ((counts ++ [("APPRAFTER_BACKUP_REPO", "s3:https://h/b"),
    ("APPRAFTER_CLUSTER_ID", "prod"), ("RESTIC_PASSWORD", "pw")]).map Prod.fst).Pairwise (· < ·) := by decide +kernel) : Dict String :=
  ⟨counts ++ [("APPRAFTER_BACKUP_REPO", "s3:https://h/b"), ("APPRAFTER_CLUSTER_ID", "prod"), ("RESTIC_PASSWORD", "pw")], ordered⟩

def keepCounts (daily : String) : List (String × String) :=
  [("APPRAFTER_BACKUP_KEEP_DAILY", daily), ("APPRAFTER_BACKUP_KEEP_MONTHLY", "0"), ("APPRAFTER_BACKUP_KEEP_WEEKLY", "0")]

theorem daily_run_survives : ∃ config c, fromEnvMap (fun _ => none) utc (runnerEnv (keepCounts "+1")) = .ok config ∧
      NewestRun septemberClock thisCluster sampleRuns c ∧
      Unforgotten septemberClock thisCluster (septemberAt 27 2) defaultRunDeadline config.retention sampleRuns c := by
  have parsed : (fromEnvMap (fun _ => none) utc (runnerEnv (keepCounts "+1"))).toOption.isSome = true := by
    decide +kernel
  cases accepted : fromEnvMap (fun _ => none) utc (runnerEnv (keepCounts "+1")) with
  | error why =>
    rw [accepted] at parsed
    cases parsed
  | ok config =>
    obtain ⟨⟨c, newest⟩, exact_⟩ := newest_run_survives septemberClock thisCluster (septemberAt 27 2) defaultRunDeadline
      (fun _ => none) utc (runnerEnv (keepCounts "+1")) config accepted sampleRuns (by decide) (by decide +kernel)
    exact ⟨config, c, rfl, newest, (exact_ c newest).mpr (.inl (by decide +kernel))⟩

-- With three zeros the map is accepted, and the newest complete run goes.
theorem zero_counts_forget : ∃ config c, fromEnvMap (fun _ => none) utc (runnerEnv (keepCounts "0")) = .ok config ∧
      NewestRun septemberClock thisCluster sampleRuns c ∧
      c.id ∈ (planPrune septemberClock sampleRuns config.retention thisCluster (septemberAt 27 2) defaultRunDeadline).forgetIds := by
  have parsed : (fromEnvMap (fun _ => none) utc (runnerEnv (keepCounts "0"))).toOption.isSome = true := by
    decide +kernel
  cases accepted : fromEnvMap (fun _ => none) utc (runnerEnv (keepCounts "0")) with
  | error why =>
    rw [accepted] at parsed
    cases parsed
  | ok config =>
    obtain ⟨c, newest⟩ := newest_exists septemberClock thisCluster sampleRuns (by decide +kernel)
    have dated : ∀ run ∈ commits septemberClock sampleRuns thisCluster, hasInstant septemberClock run = true := by
      decide +kernel
    have empty := (asks_none_iff (config_retention accepted)).mp (by decide +kernel)
    refine ⟨config, c, rfl, newest, ?_⟩
    obtain ⟨present, owned, _⟩ := (mem_run_members _ _ _ _).mp ((mem_commits septemberClock _ _ c).mp newest.commit).member
    refine (forgets_id septemberClock config.retention thisCluster (septemberAt 27 2) defaultRunDeadline (by decide)
      c present).mpr ⟨owned, ?_⟩
    refine (complete_forgotten septemberClock config.retention (septemberAt 27 2) defaultRunDeadline
      (by decide) newest.commit).mpr fun keeps => ?_
    have undated := zero_policy_keeps septemberClock empty keeps
    rw [dated c newest.commit] at undated
    cases undated

end AppRafter.Backup
