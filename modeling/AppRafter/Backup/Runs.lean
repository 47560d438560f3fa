import AppRafter.Backup.Snapshots
import AppRafter.Lib.Rotation
import Mathlib.Data.List.Dedup

set_option autoImplicit false

namespace AppRafter.Backup

open Lib

-- What the planner reads of a chrono `NaiveDate`.
structure NaiveDate where
  year : Int
  ordinal : Nat
  month : Nat
  isoYear : Int
  isoWeek : Nat
  deriving DecidableEq

-- A zone, as the date an instant falls on in it.
structure Tz where
  dateNaive : Instant → NaiveDate

structure RetentionPolicy where
  keepDaily : Nat
  keepWeekly : Nat
  keepMonthly : Nat
  zone : Tz

-- A std `Duration`, in nanoseconds.
structure Duration where
  nanos : Nat
  bounded : nanos ≤ 18446744073709551615999999999 := by decide

namespace Duration

def fromSecs (secs : Nat) (bounded : secs ≤ 18446744073709551615 := by decide) : Duration := ⟨secs * 1000000000, by omega⟩

def max (a b : Duration) : Duration := if a.nanos ≤ b.nanos then b else a

def saturatingAdd (a b : Duration) : Duration := ⟨Nat.min (a.nanos + b.nanos) 18446744073709551615999999999, Nat.min_le_right _ _⟩

-- chrono's `TimeDelta::from_std`: nothing past i64::MAX milliseconds.
def toTimeDelta (d : Duration) : Option Int := if d.nanos ≤ 9223372036854775807000000 then some d.nanos else none

end Duration

def defaultRunDeadline : Duration := .fromSecs 21600

def unfinishedRunMargin : Duration := .fromSecs 3600

def helperKeepAlive (runDeadline : Duration) : Duration := runDeadline.max defaultRunDeadline

def unfinishedRunWindow (runDeadline : Duration) : Duration := (helperKeepAlive runDeadline).saturatingAdd unfinishedRunMargin

def mayStillBeWritten (newest : Option Instant) (now : Instant) (window : Duration) : Bool :=
  match newest with
  | none => true
  | some newest =>
    match window.toTimeDelta with
    | some window => now.nanos - newest.nanos < window
    | none => true

def dayOf (date : NaiveDate) : Int × Nat := (date.year, date.ordinal)

def isoWeekOf (date : NaiveDate) : Int × Nat := (date.isoYear, date.isoWeek)

def monthOf (date : NaiveDate) : Int × Nat := (date.year, date.month)

-- `seenPeriods` never passes `keep`, so its length is within the source's u32.
def keepWalk (keep : Nat) (periodOf : NaiveDate → Int × Nat) :
    List (String × NaiveDate) → List (Int × Nat) → List String → List String
  | [], _, kept => kept
  | (id, date) :: rest, seenPeriods, kept =>
    let period := periodOf date
    if period ∈ seenPeriods then keepWalk keep periodOf rest seenPeriods kept
    else if seenPeriods.length ≥ keep then kept
    else keepWalk keep periodOf rest (period :: seenPeriods) (id :: kept)

def keepByPeriod (dated : List (String × NaiveDate)) (keep : Nat) (periodOf : NaiveDate → Int × Nat)
    (kept : List String) : List String :=
  if keep = 0 then kept else keepWalk keep periodOf dated [] kept

def ownedSnapshots (snapshots : List SnapshotMeta) (thisClusterUid : String) : List SnapshotMeta :=
  snapshots.filter fun s => ownedByThisCluster s.tags thisClusterUid

-- A run: its representative (if any) plus every member snapshot id.
structure Run where
  representative : Option SnapshotMeta
  ids : List String
  newest : Option Instant
  deriving DecidableEq

structure PrunePlan where
  forgetIds : List String
  forgetRuns : Nat
  keptRuns : Nat
  unfinishedRuns : Nat
  deriving DecidableEq

section Clock

variable (snapshotInstant : String → Option Instant)

def newestFirst (a b : SnapshotMeta) : Ordering :=
  (compare (snapshotInstant b.time) (snapshotInstant a.time)).then (compare a.id b.id)

def runInstant (rep : SnapshotMeta) : Option Instant := (tagRunStart snapshotInstant rep.runTag).or (snapshotInstant rep.time)

def newestRunFirst (a b : SnapshotMeta) : Ordering :=
  (compare (runInstant snapshotInstant b) (runInstant snapshotInstant a)).then (newestFirst snapshotInstant a b)

namespace Run

def empty : Run := ⟨none, [], none⟩

def newer (newest : Option Instant) (seen : String) : Option Instant :=
  match snapshotInstant seen with
  | none => newest
  | some t => some (newest.elim t fun n => n.max t)

def represent (representative : Option SnapshotMeta) (s : SnapshotMeta) : Option SnapshotMeta :=
  if s.isManifest then
    match representative with
    | some cur => if (newestFirst snapshotInstant cur s).isLE then some cur else some s
    | none => some s
  else representative

def push (run : Run) (s : SnapshotMeta) : Run :=
  { representative := represent snapshotInstant run.representative s
    ids := run.ids ++ [s.id]
    newest := (s.time :: s.ended.toList).foldl (newer snapshotInstant) run.newest }

end Run

def dated (zone : Tz) (reps : List SnapshotMeta) : List (String × NaiveDate) :=
  reps.filterMap fun rep => (runInstant snapshotInstant rep).map fun at_ => (rep.id, zone.dateNaive at_)

def selectKept (representatives : List SnapshotMeta) (policy : RetentionPolicy) : List String :=
  let reps := representatives.insertionSort fun a b => (newestRunFirst snapshotInstant a b).isLE
  let kept := (reps.filter fun rep => runInstant snapshotInstant rep = none).map SnapshotMeta.id
  let dated := dated snapshotInstant policy.zone reps
  let kept := keepByPeriod dated policy.keepDaily dayOf kept
  let kept := keepByPeriod dated policy.keepWeekly isoWeekOf kept
  keepByPeriod dated policy.keepMonthly monthOf kept

def runsOf (snapshots : List SnapshotMeta) (thisClusterUid : String) : Dict Run :=
  Dict.group SnapshotMeta.runTag Run.empty (Run.push snapshotInstant) (ownedSnapshots snapshots thisClusterUid)

def judge (runs : List Run) (policy : RetentionPolicy) (now : Instant) (window : Duration) : PrunePlan :=
  let incomplete := runs.filter fun run => run.representative.isNone
  let unfinished := incomplete.filter fun run => mayStillBeWritten run.newest now window
  let orphans := incomplete.filter fun run => !mayStillBeWritten run.newest now window
  let representatives := runs.filterMap fun run => run.representative.map fun rep => (rep, run.ids)
  let kept := selectKept snapshotInstant (representatives.map Prod.fst) policy
  let rotated := representatives.filter fun entry => entry.1.id ∉ kept
  { forgetIds := ((orphans.flatMap Run.ids ++ rotated.flatMap Prod.snd).insertionSort (· ≤ ·)).dedup
    forgetRuns := orphans.length + rotated.length
    keptRuns := (representatives.filter fun entry => entry.1.id ∈ kept).length
    unfinishedRuns := unfinished.length }

def planPrune (snapshots : List SnapshotMeta) (policy : RetentionPolicy) (thisClusterUid : String)
    (now : Instant) (runDeadline : Duration) : PrunePlan :=
  judge snapshotInstant ((runsOf snapshotInstant snapshots thisClusterUid).entries.map Prod.snd) policy now
    (unfinishedRunWindow runDeadline)

end Clock

open List Option

section Order

variable (snapshotInstant : String → Option Instant)

theorem trans_latest (instant : SnapshotMeta → Option Instant) :
    Std.TransCmp fun a b : SnapshotMeta => compare (instant b) (instant a) :=
  @Std.TransCmp.opposite _ (compareOn instant) inferInstance

instance : Std.TransCmp (newestFirst snapshotInstant) :=
  haveI := trans_latest fun s => snapshotInstant s.time
  inferInstanceAs (Std.TransCmp (compareLex (fun a b => compare (snapshotInstant b.time) (snapshotInstant a.time))
    (compareOn SnapshotMeta.id)))

instance : Std.TransCmp (newestRunFirst snapshotInstant) :=
  haveI := trans_latest (runInstant snapshotInstant)
  inferInstanceAs (Std.TransCmp (compareLex
    (fun a b => compare (runInstant snapshotInstant b) (runInstant snapshotInstant a)) (newestFirst snapshotInstant)))

theorem newest_first_eq {a b : SnapshotMeta} (tie : newestFirst snapshotInstant a b = .eq) : a.id = b.id := by
  rw [newestFirst, Ordering.then_eq_eq] at tie
  exact Std.LawfulEqOrd.eq_of_compare tie.2

theorem newest_run_first_eq {a b : SnapshotMeta} (tie : newestRunFirst snapshotInstant a b = .eq) : a.id = b.id := by
  rw [newestRunFirst, Ordering.then_eq_eq] at tie
  exact newest_first_eq _ tie.2

def newerRun (a b : SnapshotMeta) : Prop := newestRunFirst snapshotInstant a b = .lt

instance : DecidableRel (newerRun snapshotInstant) := fun _ _ => instDecidableEqOrdering _ _

variable {snapshotInstant}

theorem newer_run_asymm : ∀ a b, newerRun snapshotInstant a b → ¬ newerRun snapshotInstant b a :=
  fun _ _ => Std.OrientedCmp.not_lt_of_lt

end Order

section Members

variable (snapshotInstant : String → Option Instant)

-- The run's commit: the first of its manifest members by the clock and the id.
structure Commits (members : List SnapshotMeta) (c : SnapshotMeta) : Prop where
  member : c ∈ members
  manifest : c.isManifest = true
  first : ∀ other ∈ members, other.isManifest = true → (newestFirst snapshotInstant c other).isLE = true

theorem commits_unique {members : List SnapshotMeta} (distinct : (members.map SnapshotMeta.id).Nodup)
    {a b : SnapshotMeta} (first : Commits snapshotInstant members a) (second : Commits snapshotInstant members b) :
    a = b := by
  have tie := Std.OrientedCmp.isLE_antisymm (first.first b second.member second.manifest)
    (second.first a first.member first.manifest)
  exact inj_on_of_nodup_map distinct first.member second.member (newest_first_eq _ tie)

theorem commits_anti {members others : List SnapshotMeta} (within : ∀ s, s ∈ others → s ∈ members) {c : SnapshotMeta}
    (member : c ∈ others) (commits : Commits snapshotInstant members c) : Commits snapshotInstant others c where
  member := member
  manifest := commits.manifest
  first other listed := commits.first other (within other listed)

theorem commits_congr {members others : List SnapshotMeta} (same : ∀ s, s ∈ members ↔ s ∈ others) (c : SnapshotMeta) :
    Commits snapshotInstant members c ↔ Commits snapshotInstant others c :=
  ⟨fun commits => commits_anti _ (fun s => (same s).mpr) ((same c).mp commits.member) commits,
    fun commits => commits_anti _ (fun s => (same s).mp) ((same c).mpr commits.member) commits⟩

variable (members : List SnapshotMeta)

theorem represent_members : (members.foldl (Run.represent snapshotInstant) none = none → ∀ s ∈ members, s.isManifest = false) ∧
      ∀ c, members.foldl (Run.represent snapshotInstant) none = some c → Commits snapshotInstant members c := by
  induction members using List.reverseRecOn with
  | nil => exact ⟨nofun, nofun⟩
  | append_singleton front last ih =>
    obtain ⟨noneYet, chosen⟩ := ih
    rw [foldl_concat]
    by_cases manifest : last.isManifest = true
    · cases before : front.foldl (Run.represent snapshotInstant) none with
      | none =>
        have only : Run.represent snapshotInstant none last = some last := if_pos manifest
        rw [only]
        refine ⟨nofun, fun c found => ?_⟩
        cases found
        refine ⟨mem_append_right _ mem_cons_self, manifest, fun other member complete => ?_⟩
        rcases mem_append.mp member with early | late
        · rw [noneYet before other early] at complete
          cases complete
        · rw [mem_singleton.mp late]
          exact Std.ReflCmp.isLE_rfl
      | some cur =>
        have held := chosen cur before
        have which : Run.represent snapshotInstant (some cur) last =
            if (newestFirst snapshotInstant cur last).isLE then some cur else some last := if_pos manifest
        rw [which]
        by_cases stays : (newestFirst snapshotInstant cur last).isLE = true
        · rw [if_pos stays]
          refine ⟨nofun, fun c found => ?_⟩
          cases found
          refine ⟨mem_append_left _ held.member, held.manifest, fun other member complete => ?_⟩
          rcases mem_append.mp member with early | late
          · exact held.first other early complete
          · rw [mem_singleton.mp late]
            exact stays
        · rw [if_neg stays]
          have ahead : newestFirst snapshotInstant last cur = .lt :=
            Std.OrientedCmp.lt_of_gt (Ordering.isLE_eq_false.mp (Bool.eq_false_iff.mpr stays))
          refine ⟨nofun, fun c found => ?_⟩
          cases found
          refine ⟨mem_append_right _ mem_cons_self, manifest, fun other member complete => ?_⟩
          rcases mem_append.mp member with early | late
          · rw [Std.TransCmp.lt_of_lt_of_isLE ahead (held.first other early complete)]
            rfl
          · rw [mem_singleton.mp late]
            exact Std.ReflCmp.isLE_rfl
    · have skipped : ∀ held, Run.represent snapshotInstant held last = held := fun held => if_neg manifest
      rw [skipped]
      constructor
      · intro found s member
        rcases mem_append.mp member with early | late
        · exact noneYet found s early
        · rw [mem_singleton.mp late]
          exact Bool.eq_false_iff.mpr manifest
      · intro c found
        have held := chosen c found
        refine ⟨mem_append_left _ held.member, held.manifest, fun other member complete => ?_⟩
        rcases mem_append.mp member with early | late
        · exact held.first other early complete
        · rw [mem_singleton.mp late] at complete
          exact absurd complete manifest

structure Newest (times : List String) (newest : Instant) : Prop where
  seen : ∃ time ∈ times, snapshotInstant time = some newest
  last : ∀ time ∈ times, ∀ at_, snapshotInstant time = some at_ → at_.nanos ≤ newest.nanos

theorem newest_times (times : List String) :
    (times.foldl (Run.newer snapshotInstant) none = none → ∀ time ∈ times, snapshotInstant time = none) ∧
      ∀ newest, times.foldl (Run.newer snapshotInstant) none = some newest → Newest snapshotInstant times newest := by
  induction times using List.reverseRecOn with
  | nil => exact ⟨nofun, fun newest found => (by cases found)⟩
  | append_singleton front last ih =>
    obtain ⟨noneYet, chosen⟩ := ih
    rw [foldl_concat]
    cases parsed : snapshotInstant last with
    | none =>
      have skipped : ∀ held, Run.newer snapshotInstant held last = held := fun held => by rw [Run.newer, parsed]
      rw [skipped]
      constructor
      · intro found time member
        rcases mem_append.mp member with early | late
        · exact noneYet found time early
        · rw [mem_singleton.mp late, parsed]
      · intro newest found
        obtain ⟨⟨time, member, same⟩, latest⟩ := chosen newest found
        refine ⟨⟨time, mem_append_left _ member, same⟩, fun other listed at_ read => ?_⟩
        rcases mem_append.mp listed with early | late
        · exact latest other early at_ read
        · rw [mem_singleton.mp late, parsed] at read
          cases read
    | some t =>
      have counted : ∀ held, Run.newer snapshotInstant held last = some (held.elim t fun n => n.max t) := fun held => by
        rw [Run.newer, parsed]
      rw [counted]
      refine ⟨nofun, fun newest found => ?_⟩
      cases found
      cases before : front.foldl (Run.newer snapshotInstant) none with
      | none =>
        refine ⟨⟨last, mem_append_right _ mem_cons_self, parsed⟩, fun other listed at_ read => ?_⟩
        rcases mem_append.mp listed with early | late
        · rw [noneYet before other early] at read
          cases read
        · rw [mem_singleton.mp late, parsed] at read
          exact le_of_eq (congrArg Instant.nanos (some.inj read).symm)
      | some n =>
        obtain ⟨⟨time, member, same⟩, latest⟩ := chosen n before
        have upper : n.nanos ≤ (n.max t).nanos ∧ t.nanos ≤ (n.max t).nanos := by
          unfold Instant.max
          split <;> omega
        constructor
        · by_cases later : n.nanos ≤ t.nanos
          · exact ⟨last, mem_append_right _ mem_cons_self, by simp [Instant.max, later, parsed]⟩
          · exact ⟨time, mem_append_left _ member, by simp [Instant.max, later, same]⟩
        · intro other listed at_ read
          rcases mem_append.mp listed with early | late
          · exact le_trans (latest other early at_ read) upper.1
          · rw [mem_singleton.mp late, parsed] at read
            exact le_trans (le_of_eq (congrArg Instant.nanos (some.inj read).symm)) upper.2

theorem newest_unique {times : List String} {a b : Instant} (first : Newest snapshotInstant times a)
    (second : Newest snapshotInstant times b) : a = b := by
  obtain ⟨early, member, parsed⟩ := first.seen
  obtain ⟨late, listed, read⟩ := second.seen
  have below := second.last early member a parsed
  have above := first.last late listed b read
  have equal : a.nanos = b.nanos := le_antisymm below above
  cases a
  cases equal
  rfl

theorem newest_congr {times others : List String} (same : ∀ time, time ∈ times ↔ time ∈ others) (newest : Instant) :
    Newest snapshotInstant times newest ↔ Newest snapshotInstant others newest := by
  constructor
  · rintro ⟨⟨time, member, parsed⟩, last⟩
    exact ⟨⟨time, (same time).mp member, parsed⟩, fun other listed => last other ((same other).mpr listed)⟩
  · rintro ⟨⟨time, member, parsed⟩, last⟩
    exact ⟨⟨time, (same time).mpr member, parsed⟩, fun other listed => last other ((same other).mp listed)⟩

def times (s : SnapshotMeta) : List String := s.time :: s.ended.toList

theorem fold_push (run : Run) :
    members.foldl (Run.push snapshotInstant) run =
      { representative := members.foldl (Run.represent snapshotInstant) run.representative
        ids := run.ids ++ members.map SnapshotMeta.id
        newest := (members.flatMap times).foldl (Run.newer snapshotInstant) run.newest } := by
  induction members generalizing run with
  | nil => simp
  | cons s rest ih =>
    rw [foldl_cons, ih]
    simp [Run.push, times]

def runOf : Run := members.foldl (Run.push snapshotInstant) Run.empty

theorem run_of_ids : (runOf snapshotInstant members).ids = members.map SnapshotMeta.id := by
  rw [runOf, fold_push]
  rfl

theorem run_of_representative {members : List SnapshotMeta} (distinct : (members.map SnapshotMeta.id).Nodup)
    (c : SnapshotMeta) : (runOf snapshotInstant members).representative = some c ↔ Commits snapshotInstant members c := by
  obtain ⟨noneYet, chosen⟩ := represent_members snapshotInstant members
  rw [runOf, fold_push]
  refine ⟨chosen c, fun commits => ?_⟩
  cases found : members.foldl (Run.represent snapshotInstant) Run.empty.representative with
  | none =>
    have manifest := commits.manifest
    rw [noneYet found c commits.member] at manifest
    cases manifest
  | some other => rw [commits_unique _ distinct commits (chosen other found)]

theorem run_of_incomplete : (runOf snapshotInstant members).representative = none ↔ ∀ s ∈ members, s.isManifest = false := by
  obtain ⟨noneYet, chosen⟩ := represent_members snapshotInstant members
  rw [runOf, fold_push]
  refine ⟨noneYet, fun bare => ?_⟩
  cases found : members.foldl (Run.represent snapshotInstant) Run.empty.representative with
  | none => rfl
  | some c =>
    have manifest := (chosen c found).manifest
    rw [bare c (chosen c found).member] at manifest
    cases manifest

theorem run_of_newest (newest : Instant) :
    (runOf snapshotInstant members).newest = some newest ↔ Newest snapshotInstant (members.flatMap times) newest := by
  obtain ⟨noneYet, chosen⟩ := newest_times snapshotInstant (members.flatMap times)
  rw [runOf, fold_push]
  refine ⟨chosen newest, fun latest => ?_⟩
  cases found : (members.flatMap times).foldl (Run.newer snapshotInstant) Run.empty.newest with
  | none =>
    obtain ⟨time, member, parsed⟩ := latest.seen
    rw [noneYet found time member] at parsed
    cases parsed
  | some other =>
    rw [newest_unique _ latest (chosen other found)]

end Members

end AppRafter.Backup
