import AppRafter.Backup.PrunePlan

set_option autoImplicit false

namespace AppRafter.Backup

open Lib Lib.Rotation List

section Permuted

variable (snapshotInstant : String → Option Instant) (policy : RetentionPolicy) (thisClusterUid : String)
  (now : Instant) (runDeadline : Duration)

variable (snapshots : List SnapshotMeta)

theorem mem_run_tags (tag : String) : tag ∈ (runsOf snapshotInstant snapshots thisClusterUid).keys ↔
      tag ∈ (ownedSnapshots snapshots thisClusterUid).map SnapshotMeta.runTag := by
  rw [Dict.keys, mem_map, mem_map]
  constructor
  · rintro ⟨⟨named, run⟩, member, rfl⟩
    obtain ⟨s, listed⟩ := exists_mem_of_ne_nil _ ((mem_runs snapshotInstant _ _ _ _).mp member).1
    obtain ⟨present, owned, tagged⟩ := (mem_run_members _ _ _ _).mp listed
    exact ⟨s, (mem_owned _ _ _).mpr ⟨present, owned⟩, tagged⟩
  · rintro ⟨s, member, rfl⟩
    obtain ⟨present, owned⟩ := (mem_owned _ _ _).mp member
    have listed := (mem_run_members snapshots thisClusterUid s.runTag s).mpr ⟨present, owned, rfl⟩
    exact ⟨(s.runTag, _), (mem_runs snapshotInstant _ _ _ _).mpr ⟨ne_nil_of_mem listed, rfl⟩, rfl⟩

theorem run_tags_nodup : (runsOf snapshotInstant snapshots thisClusterUid).keys.Nodup :=
  (runsOf snapshotInstant snapshots thisClusterUid).ordered.imp fun below => ne_of_lt below

theorem runs_length : (runs snapshotInstant snapshots thisClusterUid).length =
    ((ownedSnapshots snapshots thisClusterUid).map SnapshotMeta.runTag).dedup.length := by
  have permuted : (runsOf snapshotInstant snapshots thisClusterUid).keys.Perm
      ((ownedSnapshots snapshots thisClusterUid).map SnapshotMeta.runTag).dedup := by
    rw [perm_ext_iff_of_nodup (run_tags_nodup snapshotInstant thisClusterUid snapshots) (nodup_dedup _)]
    intro tag
    rw [mem_run_tags, List.mem_dedup]
  rw [← permuted.length_eq, runs, Dict.keys, length_map, length_map]

theorem runs_by_tag : runs snapshotInstant snapshots thisClusterUid =
    (runsOf snapshotInstant snapshots thisClusterUid).keys.map fun tag =>
      runOf snapshotInstant (runMembers snapshots thisClusterUid tag) := by
  rw [Dict.keys, map_map]
  refine map_congr_left fun entry member => ?_
  exact ((mem_runs snapshotInstant _ _ _ _).mp member).2

def unlisted (run : Run) : Run := { run with ids := [] }

theorem unlisted_representatives {runs others : List Run} (same : runs.map unlisted = others.map unlisted) :
    runs.filterMap Run.representative = others.filterMap Run.representative := by
  have read : ∀ all : List Run, all.filterMap Run.representative = (all.map unlisted).filterMap Run.representative := by
    intro all
    rw [filterMap_map]
    rfl
  rw [read runs, same, ← read others]

theorem judge_unlisted {runs others : List Run} (window : Duration) (same : runs.map unlisted = others.map unlisted) :
    (judge snapshotInstant runs policy now window).forgetRuns = (judge snapshotInstant others policy now window).forgetRuns ∧
      (judge snapshotInstant runs policy now window).keptRuns = (judge snapshotInstant others policy now window).keptRuns ∧
      (judge snapshotInstant runs policy now window).unfinishedRuns =
        (judge snapshotInstant others policy now window).unfinishedRuns := by
  have reps := unlisted_representatives same
  have firsts : ∀ (all : List Run) (p : SnapshotMeta → Bool),
      ((all.filterMap fun run => run.representative.map fun rep => (rep, run.ids)).filter fun entry => p entry.1).length =
        ((all.filterMap Run.representative).filter p).length := by
    intro all p
    rw [← represented_firsts, filter_map, length_map]
    rfl
  have bare : ∀ (all : List Run) (p : Option Instant → Bool),
      ((all.filter fun run => run.representative.isNone).filter fun run => p run.newest).length =
        (((all.map unlisted).filter fun run => run.representative.isNone).filter fun run => p run.newest).length := by
    intro all p
    rw [filter_map, filter_map, length_map]
    rfl
  have alike : ∀ p : SnapshotMeta → Bool,
      ((runs.filterMap fun run => run.representative.map fun rep => (rep, run.ids)).filter fun entry => p entry.1).length =
        ((others.filterMap fun run => run.representative.map fun rep => (rep, run.ids)).filter fun entry => p entry.1).length := by
    intro p
    rw [firsts, firsts, reps]
  have left : ∀ p : Option Instant → Bool,
      ((runs.filter fun run => run.representative.isNone).filter fun run => p run.newest).length =
        ((others.filter fun run => run.representative.isNone).filter fun run => p run.newest).length := by
    intro p
    rw [bare runs, same, ← bare others]
  simp only [judge, represented_firsts, reps]
  exact ⟨congrArg₂ (· + ·) (left fun last => !mayStillBeWritten last now window) (alike fun rep => decide (rep.id ∉ _)),
    alike fun rep => decide (rep.id ∈ _), left fun last => mayStillBeWritten last now window⟩

theorem forget_ids_sorted (runs : List Run) (window : Duration) :
    (judge snapshotInstant runs policy now window).forgetIds.Pairwise (· < ·) := by
  refine ((pairwise_insertionSort (· ≤ ·) _).sublist (dedup_sublist _)).imp₂ ?_ (nodup_dedup _)
  exact fun a b below different => lt_of_le_of_ne below different

theorem plan_prune_perm {snapshots others : List SnapshotMeta} (distinct : (snapshots.map SnapshotMeta.id).Nodup)
    (permuted : others.Perm snapshots) :
    planPrune snapshotInstant others policy thisClusterUid now runDeadline =
      planPrune snapshotInstant snapshots policy thisClusterUid now runDeadline := by
  have apart : (others.map SnapshotMeta.id).Nodup := (permuted.map SnapshotMeta.id).nodup_iff.mpr distinct
  have members : ∀ tag s, s ∈ runMembers others thisClusterUid tag ↔ s ∈ runMembers snapshots thisClusterUid tag := by
    intro tag s
    rw [mem_run_members, mem_run_members, permuted.mem_iff]
  have unlistedRun : ∀ tag, unlisted (runOf snapshotInstant (runMembers others thisClusterUid tag)) =
      unlisted (runOf snapshotInstant (runMembers snapshots thisClusterUid tag)) := by
    intro tag
    have represented : (runOf snapshotInstant (runMembers others thisClusterUid tag)).representative =
        (runOf snapshotInstant (runMembers snapshots thisClusterUid tag)).representative := by
      refine Option.ext fun c => ?_
      rw [run_of_representative snapshotInstant (run_members_distinct apart thisClusterUid tag),
        run_of_representative snapshotInstant (run_members_distinct distinct thisClusterUid tag)]
      exact commits_congr snapshotInstant (members tag) c
    have latest : (runOf snapshotInstant (runMembers others thisClusterUid tag)).newest =
        (runOf snapshotInstant (runMembers snapshots thisClusterUid tag)).newest := by
      refine Option.ext fun newest => ?_
      rw [run_of_newest, run_of_newest]
      refine newest_congr snapshotInstant (fun time => ?_) newest
      rw [mem_flatMap, mem_flatMap]
      exact exists_congr fun s => and_congr_left fun _ => members tag s
    rw [unlisted, unlisted, represented, latest]
  have tags : (runsOf snapshotInstant others thisClusterUid).keys = (runsOf snapshotInstant snapshots thisClusterUid).keys := by
    refine List.Pairwise.eq_of_mem_iff (Dict.ordered _) (Dict.ordered _) fun tag => ?_
    have owned : (ownedSnapshots others thisClusterUid).Perm (ownedSnapshots snapshots thisClusterUid) := permuted.filter _
    rw [mem_run_tags, mem_run_tags, (owned.map SnapshotMeta.runTag).mem_iff]
  have same : (runs snapshotInstant others thisClusterUid).map unlisted =
      (runs snapshotInstant snapshots thisClusterUid).map unlisted := by
    rw [runs_by_tag, runs_by_tag, tags, map_map, map_map]
    exact map_congr_left fun tag _ => unlistedRun tag
  obtain ⟨forgotten, kept, unfinished⟩ := judge_unlisted snapshotInstant policy now (unfinishedRunWindow runDeadline) same
  have ids : (planPrune snapshotInstant others policy thisClusterUid now runDeadline).forgetIds =
      (planPrune snapshotInstant snapshots policy thisClusterUid now runDeadline).forgetIds := by
    refine List.Pairwise.eq_of_mem_iff (forget_ids_sorted snapshotInstant policy now _ _)
      (forget_ids_sorted snapshotInstant policy now _ _) fun id => ?_
    rw [mem_forget_ids, mem_forget_ids]
    refine exists_congr fun s => ?_
    have forgotten : RunForgotten snapshotInstant policy thisClusterUid now runDeadline others s.runTag ↔
        RunForgotten snapshotInstant policy thisClusterUid now runDeadline snapshots s.runTag := by
      rw [RunForgotten, unlisted_representatives same]
      change Forgets _ now _ (unlisted (runOf snapshotInstant _)) ↔ Forgets _ now _ (unlisted (runOf snapshotInstant _))
      rw [unlistedRun]
    rw [permuted.mem_iff, forgotten]
  rw [planPrune, planPrune, ← runs] at ids ⊢
  generalize judge snapshotInstant (runs snapshotInstant others thisClusterUid) policy now _ = first at *
  cases first
  cases ids
  cases forgotten
  cases kept
  cases unfinished
  rfl

end Permuted

section Exact

variable (snapshotInstant : String → Option Instant) (policy : RetentionPolicy) (thisClusterUid : String)
  (now : Instant) (runDeadline : Duration)

def TagOwned (tag : String) : Prop := ∀ uid, tagClusterUid tag = some uid → uid = thisClusterUid

variable {snapshots : List SnapshotMeta}

theorem owned_by_tag (listing : Listing snapshots)
    (first : ∀ s ∈ snapshots, FirstTagIdentifies s.tags) {s : SnapshotMeta} (present : s ∈ snapshots) :
    ownedByThisCluster s.tags thisClusterUid = true ↔ TagOwned thisClusterUid s.runTag := by
  rw [owned_iff, snapshot_cluster_uid_first (first s present), listing.tagged s present]
  rfl

theorem run_members_owned (listing : Listing snapshots)
    (first : ∀ s ∈ snapshots, FirstTagIdentifies s.tags) {tag : String} (owned : TagOwned thisClusterUid tag)
    (s : SnapshotMeta) : s ∈ runMembers snapshots thisClusterUid tag ↔ s ∈ snapshots ∧ s.runTag = tag := by
  rw [mem_run_members]
  constructor
  · rintro ⟨present, _, tagged⟩
    exact ⟨present, tagged⟩
  · rintro ⟨present, tagged⟩
    exact ⟨present, (owned_by_tag thisClusterUid listing first present).mpr (tagged ▸ owned), tagged⟩

structure PlanExact (snapshots : List SnapshotMeta) (plan : PrunePlan) : Prop where
  listed : ∀ id ∈ plan.forgetIds, ∃ s ∈ snapshots, s.id = id
  whole : ∀ tag, (∀ s ∈ snapshots, s.runTag = tag → s.id ∈ plan.forgetIds) ∨
    ∀ s ∈ snapshots, s.runTag = tag → s.id ∉ plan.forgetIds
  own : ∀ s ∈ snapshots, s.id ∈ plan.forgetIds → ∀ tag ∈ s.tags, ∀ uid, tagClusterUid tag = some uid → uid = thisClusterUid
  rotated : ∀ c ∈ commits snapshotInstant snapshots thisClusterUid, (runInstant snapshotInstant c).isSome →
    ((∀ s ∈ snapshots, s.runTag = c.runTag → s.id ∉ plan.forgetIds) ↔
      ∃ bucket ∈ buckets snapshotInstant policy, Survives bucket.period (newerRun snapshotInstant) bucket.keep
        ((commits snapshotInstant snapshots thisClusterUid).filter (hasInstant snapshotInstant)) c)
  undated : ∀ c ∈ commits snapshotInstant snapshots thisClusterUid, runInstant snapshotInstant c = none →
    ∀ s ∈ snapshots, s.runTag = c.runTag → s.id ∉ plan.forgetIds
  unfinished : ∀ s ∈ snapshots, TagOwned thisClusterUid s.runTag →
    (∀ other ∈ snapshots, other.runTag = s.runTag → other.isManifest = false) →
    ((∀ other ∈ snapshots, other.runTag = s.runTag → other.id ∈ plan.forgetIds) ↔
      ∃ newest, Newest snapshotInstant ((Dict.members SnapshotMeta.runTag snapshots s.runTag).flatMap times) newest ∧
        ((unfinishedRunWindow runDeadline).nanos : Int) ≤ now.nanos - newest.nanos)
  counted : plan.forgetRuns + plan.keptRuns + plan.unfinishedRuns =
    ((ownedSnapshots snapshots thisClusterUid).map SnapshotMeta.runTag).dedup.length
  anyOrder : ∀ others, others.Perm snapshots →
    planPrune snapshotInstant others policy thisClusterUid now runDeadline = plan

theorem forgets_by_tag (listing : Listing snapshots)
    (first : ∀ s ∈ snapshots, FirstTagIdentifies s.tags) (s : SnapshotMeta) (present : s ∈ snapshots) :
    s.id ∈ (planPrune snapshotInstant snapshots policy thisClusterUid now runDeadline).forgetIds ↔
      TagOwned thisClusterUid s.runTag ∧
        RunForgotten snapshotInstant policy thisClusterUid now runDeadline snapshots s.runTag := by
  rw [forgets_id snapshotInstant policy thisClusterUid now runDeadline listing.distinct s present,
    owned_by_tag thisClusterUid listing first present]

theorem commit_run_kept (listing : Listing snapshots) (first : ∀ s ∈ snapshots, FirstTagIdentifies s.tags) {c : SnapshotMeta}
    (commit : c ∈ commits snapshotInstant snapshots thisClusterUid) :
    (∀ s ∈ snapshots, s.runTag = c.runTag →
        s.id ∉ (planPrune snapshotInstant snapshots policy thisClusterUid now runDeadline).forgetIds) ↔
      PolicyKeeps snapshotInstant policy (commits snapshotInstant snapshots thisClusterUid) c := by
  obtain ⟨present, owned⟩ := (mem_owned _ _ _).mp (mem_of_mem_filter commit)
  have ours := (owned_by_tag thisClusterUid listing first present).mp owned
  have verdict := complete_forgotten _ policy now runDeadline listing.distinct commit
  constructor
  · intro kept
    by_contra rotated
    exact kept c present rfl ((forgets_by_tag snapshotInstant policy thisClusterUid now runDeadline listing first
      c present).mpr ⟨ours, verdict.mpr rotated⟩)
  · intro keeps s listed tagged forgotten
    have facts := (forgets_by_tag snapshotInstant policy thisClusterUid now runDeadline listing first s listed).mp forgotten
    rw [tagged] at facts
    exact verdict.mp facts.2 keeps

theorem plan_prune_exact (snapshots : List SnapshotMeta) (listing : Listing snapshots)
    (first : ∀ s ∈ snapshots, FirstTagIdentifies s.tags) :
    PlanExact snapshotInstant policy thisClusterUid now runDeadline snapshots
      (planPrune snapshotInstant snapshots policy thisClusterUid now runDeadline) where
  listed id forgotten := by
    obtain ⟨s, present, named, _⟩ := (mem_forget_ids snapshotInstant policy thisClusterUid now runDeadline snapshots id).mp
      forgotten
    exact ⟨s, present, named⟩
  whole tag := by
    have verdict := forgets_by_tag snapshotInstant policy thisClusterUid now runDeadline listing first
    by_cases forgotten : TagOwned thisClusterUid tag ∧
        RunForgotten snapshotInstant policy thisClusterUid now runDeadline snapshots tag
    · exact .inl fun s present tagged => (verdict s present).mpr (tagged ▸ forgotten)
    · exact .inr fun s present tagged listed => forgotten (tagged ▸ (verdict s present).mp listed)
  own s present forgotten tag member uid carried := by
    have owned := ((forgets_id snapshotInstant policy thisClusterUid now runDeadline listing.distinct s present).mp forgotten).1
    have only := (owned_iff s.tags thisClusterUid).mp owned uid
    rw [snapshot_cluster_uid_first (first s present)] at only
    have identifies := first s present
    cases tags : s.tags with
    | nil =>
      rw [tags] at member
      cases member
    | cons head rest =>
      rw [tags] at member only identifies
      rcases mem_cons.mp member with same | later
      · exact only (same ▸ carried)
      · rw [identifies tag later] at carried
        cases carried
  rotated c commit timed := by
    rw [commit_run_kept snapshotInstant policy thisClusterUid now runDeadline listing first commit]
    constructor
    · rintro ⟨_, free | survives⟩
      · rw [hasInstant, timed] at free
        cases free
      · exact survives
    · intro survives
      exact ⟨commit, .inr survives⟩
  undated c commit missing := by
    rw [commit_run_kept snapshotInstant policy thisClusterUid now runDeadline listing first commit]
    exact ⟨commit, .inl (by rw [hasInstant, missing]; rfl)⟩
  unfinished s present ours bare := by
    have members := run_members_owned thisClusterUid listing first ours
    have verdict := forgets_by_tag snapshotInstant policy thisClusterUid now runDeadline listing first
    have times_ : ∀ time, time ∈ (runMembers snapshots thisClusterUid s.runTag).flatMap times ↔
        time ∈ (Dict.members SnapshotMeta.runTag snapshots s.runTag).flatMap times := by
      intro time
      rw [mem_flatMap, mem_flatMap]
      exact exists_congr fun other => and_congr_left fun _ => (members other).trans (Dict.mem_members _ _ _ _).symm
    have ended := incomplete_forgotten snapshotInstant policy now runDeadline
      fun other member => bare other ((members other).mp member).1 ((members other).mp member).2
    rw [exists_congr fun newest => and_congr_left fun _ => newest_congr snapshotInstant times_ newest] at ended
    rw [← ended]
    constructor
    · intro forgotten
      exact ((verdict s present).mp (forgotten s present rfl)).2
    · intro forgotten other listed tagged
      exact (verdict other listed).mpr (tagged ▸ ⟨ours, forgotten⟩)
  counted := by
    rw [planPrune, judge_counts, ← runs, runs_length]
  anyOrder others permuted := plan_prune_perm snapshotInstant policy thisClusterUid now runDeadline listing.distinct permuted

end Exact

section September

def september (day : Nat) : NaiveDate := ⟨2026, 243 + day, 9, 2026, (243 + day - ((243 + day + 2) % 7 + 1) + 10) / 7⟩

def utc : Tz := ⟨fun at_ => september (at_.nanos / 86400000000000 - 20696).toNat⟩

def septemberAt (day hour : Nat) (valid : day ≤ 30 ∧ hour ≤ 24 := by decide) : Instant :=
  ⟨((20696 + day) * 24 + hour) * 3600000000000, by omega⟩

def septemberClock (text : String) : Option Instant :=
  if text = "2026-09-25T03:00:00Z" then some (septemberAt 25 3)
  else if text = "2026-09-26T03:00:00Z" then some (septemberAt 26 3)
  else if text = "2026-09-26T22:00:00Z" then some (septemberAt 26 22)
  else if text = "2026-09-26T23:00:00Z" then some (septemberAt 26 23)
  else if text = "2026-09-27T02:00:00Z" then some (septemberAt 27 2)
  else none

def thisCluster : String := "11111111-2222-3333-4444-555555555555"

def sampleSnapshot (id started time : String) (isManifest : Bool) : SnapshotMeta :=
  { id := id, runTag := thisCluster ++ "-" ++ started, time := time, ended := none, isManifest := isManifest
    tags := [thisCluster ++ "-" ++ started] }

def sampleRuns : List SnapshotMeta :=
  [sampleSnapshot "a1" "2026-09-25T03:00:00Z" "2026-09-25T03:00:00Z" false,
    sampleSnapshot "a2" "2026-09-25T03:00:00Z" "2026-09-25T03:00:00Z" true,
    sampleSnapshot "b1" "2026-09-26T03:00:00Z" "2026-09-26T03:00:00Z" true,
    sampleSnapshot "c1" "2026-09-26T22:00:00Z" "2026-09-26T22:00:00Z" false]

theorem plan_prune_exact_sample :
    PlanExact septemberClock ⟨1, 0, 0, utc⟩ thisCluster (septemberAt 27 2) defaultRunDeadline sampleRuns
      (planPrune septemberClock sampleRuns ⟨1, 0, 0, utc⟩ thisCluster (septemberAt 27 2) defaultRunDeadline) :=
  plan_prune_exact septemberClock ⟨1, 0, 0, utc⟩ thisCluster (septemberAt 27 2) defaultRunDeadline sampleRuns
    ⟨by decide, by decide⟩ (by
      intro s member tag listed
      have single : ∀ s ∈ sampleRuns, s.tags.tail = [] := by decide
      rw [single s member] at listed
      exact absurd listed not_mem_nil)

example : planPrune septemberClock sampleRuns ⟨1, 0, 0, utc⟩ thisCluster (septemberAt 27 2) defaultRunDeadline =
    ⟨["a1", "a2"], 1, 1, 1⟩ := by decide +kernel

end September

end AppRafter.Backup
