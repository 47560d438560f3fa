import AppRafter.Backup.RunPrune
import AppRafter.Lib.Resend

set_option autoImplicit false

namespace AppRafter.Backup

open Lib List Option

def leftAlone (unfinishedRuns : Nat) : String :=
  if unfinishedRuns = 0 then ""
  else "; " ++ toString unfinishedRuns ++ " unfinished run(s) left alone, as a backup may still be writing them"

-- The first bytes of a text, where they end between two characters.
def bytePrefix : List Char → Nat → Option (List Char)
  | _, 0 => some []
  | [], _ => none
  | c :: rest, bytes => if c.utf8Size ≤ bytes then (bytePrefix rest (bytes - c.utf8Size)).map (c :: ·) else none

def shortId (id : String) : String := ((bytePrefix id.toList 8).map String.ofList).getD id

def PruneOutcome.describe : PruneOutcome → String
  | .nothingToPrune keptRuns unfinishedRuns =>
    "nothing to prune: all " ++ toString keptRuns ++ " run(s) of this cluster are inside the keep policy" ++
      leftAlone unfinishedRuns
  | .pruned forgotSnapshots forgotRuns keptRuns unfinishedRuns =>
    "forgot " ++ toString forgotSnapshots ++ " snapshot(s) of " ++ toString forgotRuns ++
      " run(s) and pruned the data only they used; " ++ toString keptRuns ++ " run(s) kept" ++ leftAlone unfinishedRuns
  | .notPermitted snapshot resticSaid wouldForgetSnapshots wouldForgetRuns =>
    "not permitted: the storage refused to delete snapshot " ++ shortId snapshot ++ " (" ++ firstLine resticSaid ++
      "), so nothing was deleted; " ++ toString wouldForgetSnapshots ++ " snapshot(s) of " ++ toString wouldForgetRuns ++
      " run(s) are past the keep policy"

inductive RunOutcome where
  | success (snapshot : Option String)
  | failure (error : String)
  deriving DecidableEq

inductive CheckResult where
  | passed
  | failed (error : String)
  deriving DecidableEq

inductive PruneRecord where
  | done (outcome : PruneOutcome)
  | failed (error : String)
  deriving DecidableEq

def PruneRecord.result : PruneRecord → String
  | .done (.pruned ..) => "pruned"
  | .done (.nothingToPrune ..) => "nothing-to-prune"
  | .done (.notPermitted ..) => "not-permitted"
  | .failed _ => "failed"

def PruneRecord.detail : PruneRecord → String
  | .done outcome => outcome.describe
  | .failed error => error

structure RepoStats where
  totalSize : Nat
  blobCount : Option Nat
  snapshots : Option Nat
  deriving DecidableEq

def repoStatsAt : String := "repoStatsAt"

def repoStatsRepo : String := "repoStatsRepo"

def repoFigures : List String := [repoStatsAt, "repoSnapshots", "repoBlobs", "repoBytes"]

def repoPrevFigures : List String := ["repoPrevStatsAt", "repoPrevSnapshots", "repoPrevBlobs", "repoPrevBytes"]

def statusConfigmap (outcome : RunOutcome) (format now : String) : Dict String :=
  let data := Dict.empty.insert "lastRunFormat" format
  match outcome with
  | .success _ => (data.insert "lastSuccess" now).insert "lastError" ""
  | .failure error => (data.insert "lastFailure" now).insert "lastError" error

def checkVerdict : CheckResult → String × String
  | .passed => ("passed", "")
  | .failed error => ("failed", error)

def checkRecord (result : CheckResult) (now : String) : Dict String :=
  Dict.ofList [("lastCheck", now), ("lastCheckResult", (checkVerdict result).1), ("lastCheckError", (checkVerdict result).2)]

def pruneRecord (record : PruneRecord) (writer now : String) : Dict String :=
  Dict.ofList [("lastPrune", now), ("lastPruneResult", record.result), ("lastPruneDetail", record.detail),
    ("lastPruneBy", writer)]

def putFigure (data : Dict String) (key : String) : Option Nat → Dict String
  | some n => data.insert key (toString n)
  | none => data

def statsRecord (stats : RepoStats) (repo now : String) : Dict String :=
  let data := Dict.ofList [(repoStatsAt, now), (repoStatsRepo, repo), ("repoBytes", toString stats.totalSize)]
  putFigure (putFigure data "repoSnapshots" stats.snapshots) "repoBlobs" stats.blobCount

def moveFigure (sameRepo : Bool) (merged : Dict String) (pair : String × String) : Dict String :=
  let removed := merged.erase pair.1
  match merged.get pair.1 with
  | some v => if sameRepo then removed.insert pair.2 v else removed.erase pair.2
  | none => removed.erase pair.2

def sameRepo (old new : Dict String) : Bool := (old.get repoStatsRepo).isSome && old.get repoStatsRepo == new.get repoStatsRepo

def mergeStatusData (old new : Dict String) : Dict String :=
  let merged :=
    if (new.get repoStatsAt).isSome then (repoFigures.zip repoPrevFigures).foldl (moveFigure (sameRepo old new)) old
    else old
  merged.extend new

-- The data `writeStatusData` applies, from what its read gave: no ConfigMap, or one.
def appliedData (live : Option (Dict String)) (data : Dict String) : Dict String :=
  match live with
  | some old => mergeStatusData old data
  | none => data

section Merge

variable {pair : String × String} {field : String}

variable (same : Bool)

variable (merged : Dict String)

theorem move_figure_other
    (figure : field ≠ pair.1) (prev : field ≠ pair.2) : (moveFigure same merged pair).get field = merged.get field := by
  simp only [moveFigure]
  split
  · cases same with
    | true => rw [if_pos rfl, Dict.get_insert, if_neg prev, Dict.get_erase, if_neg figure]
    | false => rw [if_neg Bool.false_ne_true, Dict.get_erase, if_neg prev, Dict.get_erase, if_neg figure]
  · rw [Dict.get_erase, if_neg prev, Dict.get_erase, if_neg figure]

theorem move_figure_gone (prev : pair.1 ≠ pair.2) : (moveFigure same merged pair).get pair.1 = none := by
  simp only [moveFigure]
  split
  · cases same with
    | true => rw [if_pos rfl, Dict.get_insert, if_neg prev, Dict.get_erase, if_pos rfl]
    | false => rw [if_neg Bool.false_ne_true, Dict.get_erase, if_neg prev, Dict.get_erase, if_pos rfl]
  · rw [Dict.get_erase, if_neg prev, Dict.get_erase, if_pos rfl]

theorem move_figures_other {pairs : List (String × String)}
    (figures : field ∉ pairs.map Prod.fst) (prevs : field ∉ pairs.map Prod.snd) :
    (pairs.foldl (moveFigure same) merged).get field = merged.get field := by
  induction pairs generalizing merged with
  | nil => rfl
  | cons pair rest ih =>
    obtain ⟨figure, figures⟩ := not_or.mp (mt mem_cons.mpr figures)
    obtain ⟨prev, prevs⟩ := not_or.mp (mt mem_cons.mpr prevs)
    rw [foldl_cons, ih _ figures prevs, move_figure_other same merged figure prev]

theorem move_figures_gone (pairs : List (String × String)) (merged : Dict String) (field : String)
    (prevs : field ∉ pairs.map Prod.snd) (figures : merged.get field = none ∨ field ∈ pairs.map Prod.fst) :
    (pairs.foldl (moveFigure same) merged).get field = none := by
  induction pairs generalizing merged with
  | nil => exact figures.resolve_right not_mem_nil
  | cons pair rest ih =>
    obtain ⟨prev, prevs⟩ := not_or.mp (mt mem_cons.mpr prevs)
    refine ih (moveFigure same merged pair) prevs ?_
    by_cases figure : field = pair.1
    · subst figure
      exact .inl (move_figure_gone same merged prev)
    · rw [move_figure_other same merged figure prev]
      exact figures.imp_right fun member => (mem_cons.mp member).resolve_left figure

def changedNames (new : Dict String) : List String :=
  new.keys ++ if (new.get repoStatsAt).isSome then repoFigures ++ repoPrevFigures else []

variable (old new : Dict String)

theorem merge_frame (outside : field ∉ changedNames new) : (mergeStatusData old new).get field = old.get field := by
  obtain ⟨notSet, notMoved⟩ := not_or.mp (mt mem_append.mpr outside)
  have absent : new.get field = none := (Dict.get_eq_none new field).mpr notSet
  simp only [mergeStatusData]
  rw [Dict.get_extend, absent, none_or]
  by_cases figures : (new.get repoStatsAt).isSome = true
  · rw [if_pos figures] at notMoved ⊢
    obtain ⟨notFigure, notPrev⟩ := not_or.mp (mt mem_append.mpr notMoved)
    exact move_figures_other _ old notFigure notPrev
  · rw [if_neg figures]

theorem merge_recorded (named : field ∈ changedNames new)
    (current : field ∉ repoPrevFigures) : (mergeStatusData old new).get field = new.get field := by
  simp only [mergeStatusData]
  rw [Dict.get_extend]
  cases found : new.get field with
  | some value => rfl
  | none =>
    have notSet : field ∉ new.keys := (Dict.get_eq_none new field).mp found
    have moved := (mem_append.mp named).resolve_left notSet
    by_cases figures : (new.get repoStatsAt).isSome = true
    · rw [if_pos figures] at moved ⊢
      have figure : field ∈ repoFigures := (mem_append.mp moved).resolve_right current
      exact move_figures_gone _ _ old field current (.inr figure)
    · rw [if_neg figures] at moved
      cases moved

end Merge

end AppRafter.Backup

namespace AppRafter.Backup

open Lib List

inductive Record where
  | backup (outcome : RunOutcome) (format now : String) (pruned : Option PruneRecord)
  | check (result : CheckResult) (now : String)
  | prune (record : PruneRecord) (now : String)
  | stats (figures : RepoStats) (repo now : String)
  deriving DecidableEq

def Record.data : Record → Dict String
  | .backup outcome format now none => statusConfigmap outcome format now
  | .backup outcome format now (some pruned) => (statusConfigmap outcome format now).extend (pruneRecord pruned "backup" now)
  | .check result now => checkRecord result now
  | .prune record now => pruneRecord record "check" now
  | .stats figures repo now => statsRecord figures repo now

def Record.names (record : Record) : List String := changedNames record.data

def liveField (live : Option (Dict String)) (field : String) : Option String := live.bind fun data => data.get field

variable (live : Option (Dict String))

theorem applied_frame (record : Record) (field : String) (outside : field ∉ record.names) :
    liveField (some (appliedData live record.data)) field = liveField live field := by
  cases live with
  | some old => exact merge_frame old _ outside
  | none =>
    have notSet : field ∉ record.data.keys := fun member => outside (mem_append_left _ member)
    exact (Dict.get_eq_none record.data field).mpr notSet

theorem applied_recorded {record : Record} {field : String} (named : field ∈ record.names)
    (current : field ∉ repoPrevFigures) : liveField (some (appliedData live record.data)) field = record.data.get field := by
  cases live with
  | some old => exact merge_recorded old _ named current
  | none => rfl

-- The forced apply of one manager replaces the data by what it sends.
def statusWrites : Resend (Option (Dict String)) Record String (Option String) where
  read := liveField
  merge live record := some (appliedData live record.data)
  names := Record.names
  frame := applied_frame

abbrev StatusState := Resend.State (Option (Dict String)) Record

abbrev StatusAction := Resend.Action Record

def statusSystem (initial : Option (Dict String)) : System StatusState StatusAction := statusWrites.system initial

inductive FieldGroup where
  | backup
  | check
  | prune
  | figures
  deriving DecidableEq

def FieldGroup.fields : FieldGroup → List String
  | .backup => ["lastRunFormat", "lastSuccess", "lastFailure", "lastError"]
  | .check => ["lastCheck", "lastCheckResult", "lastCheckError"]
  | .prune => ["lastPrune", "lastPruneResult", "lastPruneDetail", "lastPruneBy"]
  | .figures => repoStatsRepo :: repoFigures

def Record.inGroup (record : Record) (group : FieldGroup) : Bool := group.fields.any fun field => field ∈ record.names

-- As before any record of the group, or those of one that no later record followed.
def GroupKept (initial : Option (Dict String)) (state : StatusState) (group : FieldGroup) : Prop :=
  ((∀ entry ∈ state.written, entry.change.inGroup group = false) ∧
      ∀ field ∈ group.fields, liveField state.live field = liveField initial field) ∨
    ∃ entry ∈ state.written, entry.change.inGroup group = true ∧
      (∀ other ∈ state.written, other.change.inGroup group = true → ¬ entry.ended < other.begun) ∧
      ∀ field ∈ group.fields, field ∈ entry.change.names → liveField state.live field = entry.change.data.get field

-- Each group is kept, and each field is as the last record that decides it has it.
structure NoneLost (initial : Option (Dict String)) (state : StatusState) : Prop where
  groups : ∀ group, GroupKept initial state group
  fields : ∀ field, field ∉ repoPrevFigures → liveField state.live field =
    ((statusWrites.lastOf state.written field).map fun entry => entry.change.data.get field).getD (liveField initial field)

section Kept

variable {initial : Option (Dict String)} {state : StatusState}

theorem last_recorded (inv : statusWrites.Inv initial state) (field : String) (current : field ∉ repoPrevFigures) :
    liveField state.live field = ((statusWrites.lastOf state.written field).map fun entry => entry.change.data.get field).getD
        (liveField initial field) := by
  have holds : liveField state.live field = _ := inv.holds field
  rw [holds]
  cases found : statusWrites.lastOf state.written field with
  | none => rfl
  | some entry =>
    have named : field ∈ entry.change.names := statusWrites.last_of_names state.written field entry found
    exact applied_recorded entry.seen named current

variable {group : FieldGroup} {field : String}

theorem group_current (member : field ∈ group.fields) : field ∉ repoPrevFigures := by
  cases group <;> revert field <;> decide

theorem last_of_group {entry : Resend.Written (Option (Dict String)) Record}
    (newest : state.written.find? (fun other => other.change.inGroup group) = some entry)
    (member : field ∈ group.fields) (named : field ∈ entry.change.names) :
    statusWrites.lastOf state.written field = some entry := by
  obtain ⟨_, front, back, split, before⟩ := find?_eq_some_iff_append.mp newest
  refine find?_eq_some_iff_append.mpr ⟨decide_eq_true named, front, back, split, ?_⟩
  intro newer later
  have outside : field ∉ newer.change.names := by
    intro decides
    have inside : newer.change.inGroup group = true := any_eq_true.mpr ⟨field, member, decide_eq_true decides⟩
    have no := before newer later
    rw [inside] at no
    cases no
  rw [Bool.not_eq_true', decide_eq_false_iff_not]
  exact outside

theorem group_kept (inv : statusWrites.Inv initial state) (timed : Resend.Timed state) (group : FieldGroup) :
    GroupKept initial state group := by
  cases newest : state.written.find? fun entry => entry.change.inGroup group with
  | none =>
    have outside : ∀ entry ∈ state.written, entry.change.inGroup group = false := by
      intro entry member
      exact eq_false_of_ne_true (find?_eq_none.mp newest entry member)
    refine .inl ⟨outside, ?_⟩
    intro field member
    have untouched : statusWrites.lastOf state.written field = none := by
      refine find?_eq_none.mpr fun entry written named => ?_
      have inside : entry.change.inGroup group = true := any_eq_true.mpr ⟨field, member, named⟩
      rw [outside entry written] at inside
      cases inside
    rw [last_recorded inv field (group_current member), untouched]
    rfl
  | some entry =>
    have inside := find?_some newest
    refine .inr ⟨entry, mem_of_find?_eq_some newest, inside, Resend.newest_unfollowed timed newest, ?_⟩
    intro field member named
    rw [last_recorded inv field (group_current member), last_of_group newest member named]
    rfl

end Kept

-- Only records that decide no field sent back are written between a read and its write.
theorem status_none_lost (initial : Option (Dict String)) (state : StatusState)
    (reachable : ((statusSystem initial).restrict statusWrites.unraced).Reachable state) : NoneLost initial state := by
  have inv := statusWrites.unraced_inv initial state reachable
  have timed := statusWrites.timed initial statusWrites.unraced state reachable
  exact ⟨group_kept inv timed, last_recorded inv⟩

def unwritten : StatusState := ⟨none, fun _ => none, []⟩

def sundayCheck : Record := .check .passed "2026-09-06T03:12:40+00:00"

def sundayBackup : Record := .backup (.success (some "9f2c41d7")) "monolithic" "2026-09-06T03:12:39+00:00" none

def inTurn : List StatusAction := [.get 0 sundayBackup, .apply 0, .get 1 sundayCheck, .apply 1]

def raced : List StatusAction := [.get 1 sundayCheck, .get 0 sundayBackup, .apply 0, .apply 1]

def after (actions : List StatusAction) : StatusState := (((statusSystem none).run unwritten actions).getD unwritten)

theorem in_turn_kept : NoneLost none (after inTurn) := by
  refine status_none_lost none (after inTurn) ?_
  exact System.reachable_run _ unwritten (.initial _ rfl) inTurn (after inTurn) rfl

theorem raced_reachable : (statusSystem none).Reachable (after raced) :=
  System.reachable_run _ _ (.initial _ rfl) raced (after raced) rfl

theorem raced_finished (writer : Nat) : (after raced).pending writer = none := by
  by_cases check : writer = 1
  · subst check
    rfl
  · by_cases backup : writer = 0
    · subst backup
      rfl
    · simp [after, raced, statusSystem, Resend.system, System.run, Resend.step, Resend.State.set, Resend.write, unwritten,
        check, backup]

theorem status_backup_erased : ¬ ∀ initial state, (statusSystem initial).Reachable state →
    (∀ writer, state.pending writer = none) → ∀ group, GroupKept initial state group := by
  intro kept
  have erased : liveField (after raced).live "lastSuccess" = none := by decide +kernel
  have recorded : sundayBackup.data.get "lastSuccess" = some "2026-09-06T03:12:39+00:00" := by decide +kernel
  have named : "lastSuccess" ∈ sundayBackup.names := by decide +kernel
  have checks : sundayCheck.inGroup .backup = false := by decide +kernel
  have backs : sundayBackup.inGroup .backup = true := by decide +kernel
  have written : (after raced).written.map Resend.Written.change = [sundayCheck, sundayBackup] := rfl
  have only : ∀ entry ∈ (after raced).written, entry.change = sundayCheck ∨ entry.change = sundayBackup := by
    intro entry member
    have listed := mem_map_of_mem (f := Resend.Written.change) member
    simpa [written] using listed
  cases kept none (after raced) raced_reachable raced_finished .backup with
  | inl unrecorded =>
    have member : sundayBackup ∈ (after raced).written.map Resend.Written.change := by simp [written]
    obtain ⟨entry, held, same⟩ := mem_map.mp member
    have outside := unrecorded.1 entry held
    rw [same, backs] at outside
    cases outside
  | inr recordedBy =>
    obtain ⟨entry, held, inside, _, fields⟩ := recordedBy
    cases only entry held with
    | inl check =>
      rw [check, checks] at inside
      cases inside
    | inr backup =>
      rw [backup] at fields
      have left := fields "lastSuccess" (by decide) named
      rw [erased, recorded] at left
      cases left

end AppRafter.Backup
