import AppRafter.Backup.StatusRuns

set_option autoImplicit false

namespace AppRafter.Backup

open Lib List

def recorded (history : List Record) : Option (Dict String) :=
  history.foldl (fun live record => some (appliedData live record.data)) none

theorem recorded_append (front : List Record) (last : Record) :
    recorded (front ++ [last]) = some (appliedData (recorded front) last.data) := by
  simp [recorded]

def latest {Value : Type} (pick : Record → Option Value) (history : List Record) : Option Value := history.reverse.findSome? pick

variable {Value : Type} {field : String} {pair : String × String} (pick : Record → Option Value)

theorem latest_append (front : List Record) (last : Record) :
    latest pick (front ++ [last]) = (pick last).or (latest pick front) := by
  simp only [latest, reverse_append, reverse_singleton, singleton_append, findSome?_cons]
  cases pick last <;> rfl

structure Reading where
  figures : RepoStats
  repo : String
  now : String
  deriving DecidableEq

def Reading.data (reading : Reading) : Dict String := statsRecord reading.figures reading.repo reading.now

def Record.checked : Record → Option (CheckResult × String)
  | .check result now => some (result, now)
  | _ => none

structure Pruned where
  record : PruneRecord
  writer : String
  now : String
  deriving DecidableEq

def Record.pruned : Record → Option Pruned
  | .backup _ _ now (some record) => some ⟨record, "backup", now⟩
  | .prune record now => some ⟨record, "check", now⟩
  | _ => none

def Record.outcome : Record → Option RunOutcome
  | .backup outcome .. => some outcome
  | _ => none

def Record.succeeded : Record → Option String
  | .backup (.success _) _ now _ => some now
  | _ => none

def Record.failed : Record → Option String
  | .backup (.failure _) _ now _ => some now
  | _ => none

def Record.reading : Record → Option Reading
  | .stats figures repo now => some ⟨figures, repo, now⟩
  | _ => none

def RunOutcome.error : RunOutcome → String
  | .success _ => ""
  | .failure error => error

def readings (history : List Record) : List Reading := history.filterMap Record.reading

def previousReading (history : List Record) : Option Reading :=
  match (readings history).reverse with
  | last :: before :: _ => if last.repo = before.repo then some before else none
  | _ => none

section Fields

variable (result : CheckResult) (record : PruneRecord) (outcome : RunOutcome) (figures : RepoStats)
variable (format repo writer now field : String)

theorem get_check_record : (checkRecord result now).get field = if field = "lastCheckError" then some (checkVerdict result).2
    else if field = "lastCheckResult" then some (checkVerdict result).1
    else if field = "lastCheck" then some now else none := by
  simp only [checkRecord, Dict.ofList, foldl_cons, foldl_nil, Dict.get_insert]
  rfl

theorem get_prune_record : (pruneRecord record writer now).get field = if field = "lastPruneBy" then some writer
    else if field = "lastPruneDetail" then some record.detail
    else if field = "lastPruneResult" then some record.result
    else if field = "lastPrune" then some now else none := by
  simp only [pruneRecord, Dict.ofList, foldl_cons, foldl_nil, Dict.get_insert]
  rfl

theorem get_status_configmap : (statusConfigmap outcome format now).get field = if field = "lastError" then some outcome.error
    else if field = "lastSuccess" then (Record.backup outcome format now none).succeeded
    else if field = "lastFailure" then (Record.backup outcome format now none).failed
    else if field = "lastRunFormat" then some format else none := by
  cases outcome with
  | success snapshot =>
    simp only [statusConfigmap, Dict.get_insert, Record.succeeded, Record.failed, RunOutcome.error]
    by_cases error : field = "lastError"
    · simp [error]
    · by_cases success : field = "lastSuccess"
      · simp [success]
      · by_cases failure : field = "lastFailure"
        · simp [failure, Dict.get, Dict.empty]
        · simp [error, success, failure, Dict.get, Dict.empty]
  | failure why =>
    simp only [statusConfigmap, Dict.get_insert, Record.succeeded, Record.failed, RunOutcome.error]
    by_cases error : field = "lastError"
    · simp [error]
    · by_cases success : field = "lastSuccess"
      · simp [success, Dict.get, Dict.empty]
      · simp [error, success, Dict.get, Dict.empty]

theorem get_put_figure (data : Dict String) (key : String) (count : Option Nat) :
    (putFigure data key count).get field = if field = key then (count.map toString).or (data.get field) else data.get field := by
  cases count with
  | none => simp [putFigure]
  | some n => simp [putFigure, Dict.get_insert]

theorem get_stats_record : (statsRecord figures repo now).get field = if field = "repoBlobs" then figures.blobCount.map toString
    else if field = "repoSnapshots" then figures.snapshots.map toString
    else if field = "repoBytes" then some (toString figures.totalSize)
    else if field = repoStatsRepo then some repo
    else if field = repoStatsAt then some now else none := by
  simp only [statsRecord, get_put_figure, Dict.ofList, foldl_cons, foldl_nil, Dict.get_insert]
  by_cases blobs : field = "repoBlobs"
  · simp [blobs, repoStatsAt, repoStatsRepo, Dict.get, Dict.empty]
  · by_cases snapshots : field = "repoSnapshots"
    · simp [snapshots, repoStatsAt, repoStatsRepo, Dict.get, Dict.empty]
    · simp [blobs, snapshots, Dict.get, Dict.empty]

end Fields

def Record.said (field : String) : Record → Option String
  | .backup outcome format now pruned =>
    (pruned.bind fun record => (pruneRecord record "backup" now).get field).or ((statusConfigmap outcome format now).get field)
  | .check result now => (checkRecord result now).get field
  | .prune record now => (pruneRecord record "check" now).get field
  | .stats figures repo now => (statsRecord figures repo now).get field

variable (record : Record)

theorem get_data (field : String) : record.data.get field = record.said field := by
  cases record with
  | backup outcome format now pruned =>
    cases pruned with
    | none => rfl
    | some record => simp [Record.data, Record.said, Dict.get_extend]
  | check result now => rfl
  | prune record now => rfl
  | stats figures repo now => rfl

theorem data_stats_at : (record.data.get repoStatsAt).isSome = record.reading.isSome := by
  rw [get_data]
  cases record with
  | backup outcome format now pruned =>
    cases pruned <;> simp [Record.said, Record.reading, get_status_configmap, get_prune_record, repoStatsAt]
  | check result now => simp [Record.said, Record.reading, get_check_record, repoStatsAt]
  | prune record now => simp [Record.said, Record.reading, get_prune_record, repoStatsAt]
  | stats figures repo now => simp [Record.said, Record.reading, get_stats_record, repoStatsAt, repoStatsRepo]

theorem mem_names (field : String) : field ∈ record.names ↔
      (record.said field).isSome = true ∨ (record.reading.isSome = true ∧ field ∈ repoFigures ++ repoPrevFigures) := by
  have held : field ∈ record.data.keys ↔ (record.said field).isSome = true := by
    rw [← get_data, Option.isSome_iff_ne_none, ne_eq, Dict.get_eq_none, not_not]
  rw [Record.names, changedNames, mem_append, held, data_stats_at]
  by_cases read : record.reading.isSome = true
  · simp [read]
  · simp [read]

-- Such records are the ones that decide it.
theorem recorded_latest (shown : Value → Option String) (field : String)
    (current : field ∉ repoPrevFigures) (decides : ∀ record, field ∈ record.names ↔ (pick record).isSome = true)
    (given : ∀ record value, pick record = some value → record.said field = shown value) (history : List Record) :
    liveField (recorded history) field = (latest pick history).bind shown := by
  induction history using List.reverseRecOn with
  | nil => rfl
  | append_singleton front last ih =>
    rw [recorded_append, latest_append]
    cases picked : pick last with
    | none =>
      have outside : field ∉ last.names := by simp [decides, picked]
      rw [applied_frame _ last field outside, ih, Option.none_or]
    | some value =>
      have named : field ∈ last.names := by simp [decides, picked]
      rw [applied_recorded _ named current, get_data, given last value picked]
      rfl

theorem plain_names (plain : field ∉ repoFigures ++ repoPrevFigures) (record : Record) :
    field ∈ record.names ↔ (record.said field).isSome = true := by
  rw [mem_names]
  exact or_iff_left fun moved => plain moved.2

theorem checked_decides (member : field ∈ FieldGroup.check.fields) (record : Record) :
    field ∈ record.names ↔ record.checked.isSome = true := by
  simp only [FieldGroup.fields, List.mem_cons, List.not_mem_nil, or_false] at member
  rw [plain_names (by rcases member with rfl | rfl | rfl <;> decide)]
  cases record with
  | backup outcome format now pruned =>
    rcases member with rfl | rfl | rfl <;>
      cases pruned <;> simp [Record.said, Record.checked, get_status_configmap, get_prune_record]
  | check result now => rcases member with rfl | rfl | rfl <;> simp [Record.said, Record.checked, get_check_record]
  | prune record now => rcases member with rfl | rfl | rfl <;> simp [Record.said, Record.checked, get_prune_record]
  | stats figures repo now =>
    rcases member with rfl | rfl | rfl <;> simp [Record.said, Record.checked, get_stats_record, repoStatsAt, repoStatsRepo]

theorem pruned_decides (member : field ∈ FieldGroup.prune.fields) (record : Record) :
    field ∈ record.names ↔ record.pruned.isSome = true := by
  simp only [FieldGroup.fields, List.mem_cons, List.not_mem_nil, or_false] at member
  rw [plain_names (by rcases member with rfl | rfl | rfl | rfl <;> decide)]
  cases record with
  | backup outcome format now pruned =>
    rcases member with rfl | rfl | rfl | rfl <;>
      cases pruned <;> simp [Record.said, Record.pruned, get_status_configmap, get_prune_record]
  | check result now => rcases member with rfl | rfl | rfl | rfl <;> simp [Record.said, Record.pruned, get_check_record]
  | prune record now => rcases member with rfl | rfl | rfl | rfl <;> simp [Record.said, Record.pruned, get_prune_record]
  | stats figures repo now =>
    rcases member with rfl | rfl | rfl | rfl <;> simp [Record.said, Record.pruned, get_stats_record, repoStatsAt, repoStatsRepo]

theorem succeeded_decides : "lastSuccess" ∈ record.names ↔ record.succeeded.isSome = true := by
  rw [plain_names (by decide)]
  cases record with
  | backup outcome format now pruned =>
    cases pruned <;> cases outcome <;> simp [Record.said, Record.succeeded, get_status_configmap, get_prune_record]
  | check result now => simp [Record.said, Record.succeeded, get_check_record]
  | prune record now => simp [Record.said, Record.succeeded, get_prune_record]
  | stats figures repo now => simp [Record.said, Record.succeeded, get_stats_record, repoStatsAt, repoStatsRepo]

theorem failed_decides : "lastFailure" ∈ record.names ↔ record.failed.isSome = true := by
  rw [plain_names (by decide)]
  cases record with
  | backup outcome format now pruned =>
    cases pruned <;> cases outcome <;> simp [Record.said, Record.failed, get_status_configmap, get_prune_record]
  | check result now => simp [Record.said, Record.failed, get_check_record]
  | prune record now => simp [Record.said, Record.failed, get_prune_record]
  | stats figures repo now => simp [Record.said, Record.failed, get_stats_record, repoStatsAt, repoStatsRepo]

theorem outcome_decides : "lastError" ∈ record.names ↔ record.outcome.isSome = true := by
  rw [plain_names (by decide)]
  cases record with
  | backup outcome format now pruned =>
    cases pruned <;> simp [Record.said, Record.outcome, get_status_configmap, get_prune_record]
  | check result now => simp [Record.said, Record.outcome, get_check_record]
  | prune record now => simp [Record.said, Record.outcome, get_prune_record]
  | stats figures repo now => simp [Record.said, Record.outcome, get_stats_record, repoStatsAt, repoStatsRepo]

theorem reading_decides (member : field ∈ FieldGroup.figures.fields) (record : Record) :
    field ∈ record.names ↔ record.reading.isSome = true := by
  rw [mem_names]
  simp only [FieldGroup.fields, repoFigures, List.mem_cons, List.not_mem_nil, or_false] at member
  cases record with
  | backup outcome format now pruned =>
    rcases member with rfl | rfl | rfl | rfl | rfl <;> cases pruned <;>
      simp [Record.said, Record.reading, get_status_configmap, get_prune_record, repoStatsAt, repoStatsRepo]
  | check result now =>
    rcases member with rfl | rfl | rfl | rfl | rfl <;>
      simp [Record.said, Record.reading, get_check_record, repoStatsAt, repoStatsRepo]
  | prune record now =>
    rcases member with rfl | rfl | rfl | rfl | rfl <;>
      simp [Record.said, Record.reading, get_prune_record, repoStatsAt, repoStatsRepo]
  | stats figures repo now =>
    rcases member with rfl | rfl | rfl | rfl | rfl <;>
      simp [Record.said, Record.reading, get_stats_record, repoStatsAt, repoStatsRepo, repoFigures]

theorem move_figures_prev (same : Bool) {pairs : List (String × String)} (merged : Dict String)
    (apart : ∀ one ∈ pairs, ∀ other ∈ pairs, one.1 ≠ other.2) (single : (pairs.map Prod.snd).Nodup)
    (firsts : (pairs.map Prod.fst).Nodup) (member : pair ∈ pairs) :
    (pairs.foldl (moveFigure same) merged).get pair.2 = if same then merged.get pair.1 else none := by
  induction pairs generalizing merged with
  | nil => cases member
  | cons head rest ih =>
    obtain ⟨headPrev, restPrev⟩ := nodup_cons.mp single
    obtain ⟨headFigure, restFigures⟩ := nodup_cons.mp firsts
    have later : ∀ one ∈ rest, ∀ other ∈ rest, one.1 ≠ other.2 := fun one held other listed =>
      apart one (mem_cons_of_mem _ held) other (mem_cons_of_mem _ listed)
    rw [foldl_cons]
    rcases mem_cons.mp member with rfl | inside
    · have figures : pair.2 ∉ rest.map Prod.fst := by
        intro moved
        obtain ⟨other, held, named⟩ := mem_map.mp moved
        exact apart other (mem_cons_of_mem _ held) pair mem_cons_self named
      rw [move_figures_other same _ figures headPrev]
      simp only [moveFigure]
      cases held : merged.get pair.1 with
      | none => cases same <;> simp [Dict.get_erase]
      | some value => cases same <;> simp [Dict.get_erase, Dict.get_insert]
    · have figure : pair.1 ≠ head.1 := fun named => headFigure (named ▸ mem_map_of_mem inside)
      have prev : pair.1 ≠ head.2 := apart pair (mem_cons_of_mem _ inside) head mem_cons_self
      rw [ih _ later restPrev restFigures inside, move_figure_other same merged figure prev]

theorem figure_pairs (member : pair ∈ repoFigures.zip repoPrevFigures) :
    pair.1 ∈ repoFigures ∧ pair.2 ∈ repoPrevFigures := ⟨(of_mem_zip member).1, (of_mem_zip member).2⟩

theorem applied_previous (live : Option (Dict String)) (record : Record) (member : pair ∈ repoFigures.zip repoPrevFigures) :
    liveField (some (appliedData live record.data)) pair.2 = record.reading.elim (liveField live pair.2)
        fun reading => if liveField live repoStatsRepo = some reading.repo then liveField live pair.1 else none := by
  have unsaid : record.said pair.2 = none := by
    have prev := (figure_pairs member).2
    simp only [repoPrevFigures, List.mem_cons, List.not_mem_nil, or_false] at prev
    cases record with
    | backup outcome format now pruned =>
      rcases prev with named | named | named | named <;> rw [named] <;> cases pruned <;>
        simp [Record.said, get_status_configmap, get_prune_record]
    | check result now => rcases prev with named | named | named | named <;> simp [named, Record.said, get_check_record]
    | prune record now => rcases prev with named | named | named | named <;> simp [named, Record.said, get_prune_record]
    | stats figures repo now =>
      rcases prev with named | named | named | named <;> simp [named, Record.said, get_stats_record, repoStatsAt, repoStatsRepo]
  have absent : record.data.get pair.2 = none := (get_data record pair.2).trans unsaid
  cases read : record.reading with
  | none =>
    refine applied_frame live record pair.2 fun named => ?_
    rcases (mem_names record pair.2).mp named with shown | moved
    · simp [unsaid] at shown
    · simp [read] at moved
  | some reading =>
    have stamped : (record.data.get repoStatsAt).isSome = true := by rw [data_stats_at, read]; rfl
    have repo : record.data.get repoStatsRepo = some reading.repo := by
      rw [get_data]
      cases record with
      | stats figures repo now =>
        cases read
        simp [Record.said, get_stats_record, repoStatsRepo]
      | backup outcome format now pruned => cases read
      | check result now => cases read
      | prune record now => cases read
    cases live with
    | none => exact absent
    | some old =>
      change (mergeStatusData old record.data).get pair.2 = if old.get repoStatsRepo = some reading.repo then old.get pair.1 else none
      simp only [mergeStatusData]
      rw [Dict.get_extend, absent, Option.none_or, if_pos stamped,
        move_figures_prev _ old (by decide) (by decide) (by decide) member]
      by_cases same : old.get repoStatsRepo = some reading.repo
      · simp [sameRepo, same, repo]
      · rw [if_neg same, sameRepo, repo]
        simp [same]

variable (history : List Record)

theorem latest_reading : latest Record.reading history = (readings history).reverse.head? := by
  rw [latest, readings, ← filterMap_reverse, head?_filterMap]

theorem previous_append (front : List Record) (last : Record) : previousReading (front ++ [last]) =
      last.reading.elim (previousReading front)
        fun reading => (latest Record.reading front).filter fun before => reading.repo = before.repo := by
  cases read : last.reading with
  | none => simp [previousReading, readings, filterMap_append, read]
  | some reading =>
    rw [latest_reading]
    simp only [previousReading, readings, filterMap_append, filterMap_cons, read, filterMap_nil,
      reverse_append, reverse_singleton, singleton_append]
    cases earlier : (List.filterMap Record.reading front).reverse with
    | nil => rfl
    | cons before rest =>
      by_cases same : reading.repo = before.repo <;> simp [same, Option.filter]

theorem recorded_reading (field : String) (member : field ∈ FieldGroup.figures.fields) :
    liveField (recorded history) field = (latest Record.reading history).bind fun reading => reading.data.get field := by
  refine recorded_latest Record.reading (fun reading => reading.data.get field) field (group_current member)
    (reading_decides member) ?_ history
  intro record reading read
  cases record with
  | stats figures repo now =>
    cases read
    rfl
  | backup outcome format now pruned => cases read
  | check result now => cases read
  | prune record now => cases read

theorem recorded_previous (pair : String × String) (member : pair ∈ repoFigures.zip repoPrevFigures) :
    liveField (recorded history) pair.2 = (previousReading history).bind fun reading => reading.data.get pair.1 := by
  have figure : pair.1 ∈ FieldGroup.figures.fields := mem_cons_of_mem _ (figure_pairs member).1
  induction history using List.reverseRecOn with
  | nil => rfl
  | append_singleton front last ih =>
    rw [recorded_append, applied_previous _ last member, previous_append]
    cases read : last.reading with
    | none => exact ih
    | some reading =>
      have repoField : repoStatsRepo ∈ FieldGroup.figures.fields := mem_cons_self
      simp only [recorded_reading front _ repoField, recorded_reading front _ figure]
      cases latest Record.reading front with
      | none => rfl
      | some before =>
        have repo : before.data.get repoStatsRepo = some before.repo := by
          simp [Reading.data, get_stats_record, repoStatsRepo]
        by_cases same : reading.repo = before.repo
        · simp [repo, same, Option.filter]
        · simp [repo, same, Ne.symm same, Option.filter]

-- What the record says is what happened last.
structure Truthful (history : List Record) (live : Option (Dict String)) : Prop where
  check : ∀ field ∈ FieldGroup.check.fields,
    liveField live field = (latest Record.checked history).bind fun made => (checkRecord made.1 made.2).get field
  prune : ∀ field ∈ FieldGroup.prune.fields,
    liveField live field = (latest Record.pruned history).bind fun made => (pruneRecord made.record made.writer made.now).get field
  success : liveField live "lastSuccess" = latest Record.succeeded history
  failure : liveField live "lastFailure" = latest Record.failed history
  error : liveField live "lastError" = (latest Record.outcome history).map RunOutcome.error
  figures : ∀ field ∈ FieldGroup.figures.fields,
    liveField live field = (latest Record.reading history).bind fun reading => reading.data.get field
  previous : ∀ pair ∈ repoFigures.zip repoPrevFigures,
    liveField live pair.2 = (previousReading history).bind fun reading => reading.data.get pair.1

theorem recorded_truthful : Truthful history (recorded history) where
  check field member := by
    refine recorded_latest Record.checked (fun made => (checkRecord made.1 made.2).get field) field
      (group_current member) (checked_decides member) ?_ history
    intro record made picked
    cases record with
    | check result now =>
      cases picked
      rfl
    | backup outcome format now pruned => cases picked
    | prune record now => cases picked
    | stats figures repo now => cases picked
  prune field member := by
    refine recorded_latest Record.pruned (fun made => (pruneRecord made.record made.writer made.now).get field) field
      (group_current member) (pruned_decides member) ?_ history
    intro record made picked
    cases record with
    | backup outcome format now pruned =>
      cases pruned with
      | none => cases picked
      | some record =>
        cases picked
        simp only [FieldGroup.fields, mem_cons, not_mem_nil, or_false] at member
        rcases member with rfl | rfl | rfl | rfl <;> simp [Record.said, get_prune_record]
    | prune record now =>
      cases picked
      rfl
    | check result now => cases picked
    | stats figures repo now => cases picked
  success := by
    refine (recorded_latest Record.succeeded some "lastSuccess" (by decide) succeeded_decides ?_ history).trans (by simp)
    intro record now picked
    cases record with
    | backup outcome format at_ pruned =>
      cases outcome with
      | success snapshot =>
        cases picked
        cases pruned <;> simp [Record.said, Record.succeeded, get_status_configmap, get_prune_record]
      | failure error => cases picked
    | check result at_ => cases picked
    | prune record at_ => cases picked
    | stats figures repo at_ => cases picked
  failure := by
    refine (recorded_latest Record.failed some "lastFailure" (by decide) failed_decides ?_ history).trans (by simp)
    intro record now picked
    cases record with
    | backup outcome format at_ pruned =>
      cases outcome with
      | success snapshot => cases picked
      | failure error =>
        cases picked
        cases pruned <;> simp [Record.said, Record.failed, get_status_configmap, get_prune_record]
    | check result at_ => cases picked
    | prune record at_ => cases picked
    | stats figures repo at_ => cases picked
  error := by
    refine (recorded_latest Record.outcome (fun outcome => some outcome.error) "lastError" (by decide) outcome_decides ?_
      history).trans ?_
    · intro record outcome picked
      cases record with
      | backup outcome format now pruned =>
        cases picked
        cases pruned <;> simp [Record.said, get_status_configmap, get_prune_record]
      | check result now => cases picked
      | prune record now => cases picked
      | stats figures repo now => cases picked
    · cases latest Record.outcome history <;> rfl
  figures := recorded_reading history
  previous := recorded_previous history

-- The last error is empty after a failure whose error is: not only after a success.
theorem wordless_failure : ¬ ∀ history : List Record, liveField (recorded history) "lastError" = some "" ↔
      ∃ snapshot, latest Record.outcome history = some (.success snapshot) := by
  intro holds
  have silent : liveField (recorded [.backup (.failure "") "monolithic" "2026-09-06T03:12:39+00:00" none]) "lastError" =
      some "" := by decide +kernel
  obtain ⟨snapshot, last⟩ := (holds _).mp silent
  cases last

end AppRafter.Backup
