import AppRafter.Backup.Runs

set_option autoImplicit false

namespace AppRafter.Backup

open Lib Lib.Rotation List

section Kept

variable (snapshotInstant : String → Option Instant)

def hasInstant (rep : SnapshotMeta) : Bool := (runInstant snapshotInstant rep).isSome

def periodIn (zone : Tz) (periodOf : NaiveDate → Int × Nat) (rep : SnapshotMeta) : Option (Int × Nat) :=
  (runInstant snapshotInstant rep).map fun at_ => periodOf (zone.dateNaive at_)

def buckets (policy : RetentionPolicy) : List (Rule SnapshotMeta (Option (Int × Nat))) :=
  [⟨policy.keepDaily, periodIn snapshotInstant policy.zone dayOf⟩,
    ⟨policy.keepWeekly, periodIn snapshotInstant policy.zone isoWeekOf⟩,
    ⟨policy.keepMonthly, periodIn snapshotInstant policy.zone monthOf⟩]

theorem mem_keep_walk (zone : Tz) (keep : Nat) (periodOf : NaiveDate → Int × Nat) (reps : List SnapshotMeta)
    (seenPeriods : List (Int × Nat)) (kept : List String) (id : String) :
    id ∈ keepWalk keep periodOf (dated snapshotInstant zone reps) seenPeriods kept ↔
      id ∈ kept ∨ ∃ rep ∈ survivors (periodIn snapshotInstant zone periodOf) (keep - seenPeriods.length)
        (seenPeriods.map some) (reps.filter (hasInstant snapshotInstant)), rep.id = id := by
  induction reps generalizing seenPeriods kept with
  | nil => exact (or_iff_left fun found => absurd found.choose_spec.1 not_mem_nil).symm
  | cons rep rest ih =>
    cases instant : runInstant snapshotInstant rep with
    | none =>
      have skipped : dated snapshotInstant zone (rep :: rest) = dated snapshotInstant zone rest := by
        rw [dated, filterMap_cons_none (by rw [instant]; rfl)]
        rfl
      have dropped : (rep :: rest).filter (hasInstant snapshotInstant) = rest.filter (hasInstant snapshotInstant) :=
        filter_cons_of_neg (by simp [hasInstant, instant])
      rw [skipped, dropped]
      exact ih seenPeriods kept
    | some at_ =>
      have listed : dated snapshotInstant zone (rep :: rest) =
          (rep.id, zone.dateNaive at_) :: dated snapshotInstant zone rest := by
        rw [dated, filterMap_cons_some (by rw [instant]; rfl)]
        rfl
      have placed : (rep :: rest).filter (hasInstant snapshotInstant) = rep :: rest.filter (hasInstant snapshotInstant) :=
        filter_cons_of_pos (by simp [hasInstant, instant])
      have period : periodIn snapshotInstant zone periodOf rep = some (periodOf (zone.dateNaive at_)) := by
        rw [periodIn, instant]
        rfl
      rw [listed, placed, keepWalk]
      by_cases old : periodOf (zone.dateNaive at_) ∈ seenPeriods
      · rw [if_pos old, survivors_seen _ _ _ (period ▸ mem_map_of_mem old)]
        exact ih seenPeriods kept
      · have new : periodIn snapshotInstant zone periodOf rep ∉ seenPeriods.map some := by
          rw [period, List.mem_map]
          rintro ⟨other, member, same⟩
          exact old (Option.some.inj same ▸ member)
        rw [if_neg old]
        by_cases full : seenPeriods.length ≥ keep
        · rw [if_pos full, Nat.sub_eq_zero_of_le full, survivors_full]
          exact (or_iff_left fun found => absurd found.choose_spec.1 not_mem_nil).symm
        · obtain ⟨left, room⟩ : ∃ left, keep - seenPeriods.length = left + 1 := ⟨keep - seenPeriods.length - 1, by omega⟩
          have remaining : keep - (periodOf (zone.dateNaive at_) :: seenPeriods).length = left := by
            rw [length_cons]
            omega
          rw [if_neg full, ih, remaining, room, survivors_new _ _ _ _ _ new, period, List.map_cons]
          simp only [List.mem_cons, exists_eq_or_imp]
          rw [or_comm (a := id = rep.id), or_assoc, eq_comm (a := id)]

variable {reps : List SnapshotMeta}

theorem mem_keep_by_period (zone : Tz) (keep : Nat) (periodOf : NaiveDate → Int × Nat)
    (sorted : reps.Pairwise (newerRun snapshotInstant)) (kept : List String) (id : String) :
    id ∈ keepByPeriod (dated snapshotInstant zone reps) keep periodOf kept ↔
      id ∈ kept ∨ ∃ rep, Survives (periodIn snapshotInstant zone periodOf) (newerRun snapshotInstant) keep
        (reps.filter (hasInstant snapshotInstant)) rep ∧ rep.id = id := by
  have walked : id ∈ keepByPeriod (dated snapshotInstant zone reps) keep periodOf kept ↔
      id ∈ kept ∨ ∃ rep ∈ survivors (periodIn snapshotInstant zone periodOf) keep [] (reps.filter (hasInstant snapshotInstant)),
        rep.id = id := by
    by_cases zero : keep = 0
    · rw [keepByPeriod, zero, survivors_full]
      exact (or_iff_left fun found => absurd found.choose_spec.1 not_mem_nil).symm
    · rw [keepByPeriod, if_neg zero]
      exact mem_keep_walk snapshotInstant zone keep periodOf reps [] kept id
  rw [walked]
  refine or_congr_right (exists_congr fun rep => and_congr_left fun _ => ?_)
  exact mem_survivors _ _ newer_run_asymm keep (sorted.sublist filter_sublist) rep

def PolicyKeeps (policy : RetentionPolicy) (commits : List SnapshotMeta) (rep : SnapshotMeta) : Prop :=
  Kept (newerRun snapshotInstant) (hasInstant snapshotInstant) (buckets snapshotInstant policy) commits rep

theorem walk_order (distinct : (reps.map SnapshotMeta.id).Nodup) :
    (reps.insertionSort fun a b => (newestRunFirst snapshotInstant a b).isLE).Pairwise (newerRun snapshotInstant) := by
  have total : Std.Total fun a b : SnapshotMeta => (newestRunFirst snapshotInstant a b).isLE = true := ⟨fun a b => by
    cases order : newestRunFirst snapshotInstant a b with
    | lt => exact .inl rfl
    | eq => exact .inl rfl
    | gt =>
      have behind : newestRunFirst snapshotInstant b a = .lt := Std.OrientedCmp.lt_of_gt order
      exact .inr (by rw [behind]; rfl)⟩
  have transitive : IsTrans SnapshotMeta fun a b => (newestRunFirst snapshotInstant a b).isLE = true :=
    ⟨fun a b c => Std.TransCmp.isLE_trans⟩
  have permuted := perm_insertionSort (fun a b : SnapshotMeta => (newestRunFirst snapshotInstant a b).isLE) reps
  have apart : ((reps.insertionSort fun a b => (newestRunFirst snapshotInstant a b).isLE).map SnapshotMeta.id).Nodup :=
    (permuted.map SnapshotMeta.id).nodup_iff.mpr distinct
  refine ((pairwise_insertionSort _ reps).and (pairwise_map.mp apart)).imp ?_
  rintro a b ⟨ordered, different⟩
  cases order : newestRunFirst snapshotInstant a b with
  | lt => exact order
  | eq => exact absurd (newest_run_first_eq _ order) different
  | gt =>
    rw [order] at ordered
    cases ordered

theorem mem_select_kept (distinct : (reps.map SnapshotMeta.id).Nodup) (policy : RetentionPolicy)
    (id : String) : id ∈ selectKept snapshotInstant reps policy ↔
      ∃ rep, PolicyKeeps snapshotInstant policy reps rep ∧ rep.id = id := by
  have permuted := perm_insertionSort (fun a b : SnapshotMeta => (newestRunFirst snapshotInstant a b).isLE) reps
  have sorted := walk_order snapshotInstant distinct
  have same : ∀ (period : SnapshotMeta → Option (Int × Nat)) keep rep, Survives period (newerRun snapshotInstant) keep
        ((reps.insertionSort fun a b => (newestRunFirst snapshotInstant a b).isLE).filter (hasInstant snapshotInstant)) rep ↔
      Survives period (newerRun snapshotInstant) keep (reps.filter (hasInstant snapshotInstant)) rep :=
    fun period keep rep => survives_congr period _ keep (fun one => (permuted.filter _).mem_iff) rep
  have undated : ∀ rep, rep ∈ ((reps.insertionSort fun a b => (newestRunFirst snapshotInstant a b).isLE).filter
      fun rep => runInstant snapshotInstant rep = none) ↔ rep ∈ reps ∧ hasInstant snapshotInstant rep = false := by
    intro rep
    rw [mem_filter, permuted.mem_iff, decide_eq_true_eq, hasInstant, Option.isSome_eq_false_iff, Option.isNone_iff_eq_none]
  rw [selectKept]
  simp only [mem_keep_by_period _ policy.zone _ _ sorted, same, List.mem_map, undated]
  constructor
  · rintro (((⟨rep, ⟨listed, free⟩, named⟩ | ⟨rep, survives, named⟩) | ⟨rep, survives, named⟩) | ⟨rep, survives, named⟩)
    · exact ⟨rep, ⟨listed, .inl free⟩, named⟩
    · exact ⟨rep, ⟨(mem_filter.mp survives.listed).1, .inr ⟨_, mem_cons_self, survives⟩⟩, named⟩
    · exact ⟨rep, ⟨(mem_filter.mp survives.listed).1, .inr ⟨_, mem_cons_of_mem _ mem_cons_self, survives⟩⟩, named⟩
    · exact ⟨rep, ⟨(List.mem_filter.mp survives.listed).1,
        .inr ⟨_, List.mem_cons_of_mem _ (List.mem_cons_of_mem _ List.mem_cons_self), survives⟩⟩, named⟩
  · rintro ⟨rep, ⟨listed, free | ⟨rule, member, survives⟩⟩, named⟩
    · exact .inl (.inl (.inl ⟨rep, ⟨listed, free⟩, named⟩))
    · rw [buckets] at member
      simp only [mem_cons, not_mem_nil, or_false] at member
      rcases member with rfl | rfl | rfl
      · exact .inl (.inl (.inr ⟨rep, survives, named⟩))
      · exact .inl (.inr ⟨rep, survives, named⟩)
      · exact .inr ⟨rep, survives, named⟩

theorem kept_id (distinct : (reps.map SnapshotMeta.id).Nodup) (policy : RetentionPolicy)
    {rep : SnapshotMeta} (listed : rep ∈ reps) :
    rep.id ∈ selectKept snapshotInstant reps policy ↔ PolicyKeeps snapshotInstant policy reps rep := by
  rw [mem_select_kept snapshotInstant distinct policy]
  constructor
  · rintro ⟨other, keeps, named⟩
    exact inj_on_of_nodup_map distinct keeps.listed listed named ▸ keeps
  · intro keeps
    exact ⟨rep, keeps, rfl⟩

end Kept

section Plan

variable (snapshotInstant : String → Option Instant)

def runMembers (snapshots : List SnapshotMeta) (thisClusterUid tag : String) : List SnapshotMeta :=
  Dict.members SnapshotMeta.runTag (ownedSnapshots snapshots thisClusterUid) tag

variable (snapshots : List SnapshotMeta)

theorem mem_owned (thisClusterUid : String) (s : SnapshotMeta) :
    s ∈ ownedSnapshots snapshots thisClusterUid ↔ s ∈ snapshots ∧ ownedByThisCluster s.tags thisClusterUid = true :=
  mem_filter

theorem mem_run_members (thisClusterUid tag : String) (s : SnapshotMeta) : s ∈ runMembers snapshots thisClusterUid tag ↔
      s ∈ snapshots ∧ ownedByThisCluster s.tags thisClusterUid = true ∧ s.runTag = tag := by
  rw [runMembers, Dict.mem_members, mem_owned, and_assoc]

variable {snapshots : List SnapshotMeta} (distinct : (snapshots.map SnapshotMeta.id).Nodup)

include distinct in
theorem run_members_distinct
    (thisClusterUid tag : String) : ((runMembers snapshots thisClusterUid tag).map SnapshotMeta.id).Nodup :=
  distinct.sublist ((filter_sublist.trans filter_sublist).map SnapshotMeta.id)

theorem mem_runs (snapshots : List SnapshotMeta) (thisClusterUid tag : String) (run : Run) :
    (tag, run) ∈ (runsOf snapshotInstant snapshots thisClusterUid).entries ↔
      runMembers snapshots thisClusterUid tag ≠ [] ∧ run = runOf snapshotInstant (runMembers snapshots thisClusterUid tag) :=
  Dict.mem_group _ _ _ _ _ _

def completes (members : List SnapshotMeta) (c : SnapshotMeta) : Bool :=
  c.isManifest && members.all fun other => !other.isManifest || (newestFirst snapshotInstant c other).isLE

def commits (snapshots : List SnapshotMeta) (thisClusterUid : String) : List SnapshotMeta :=
  (ownedSnapshots snapshots thisClusterUid).filter fun c =>
    completes snapshotInstant (runMembers snapshots thisClusterUid c.runTag) c

theorem mem_commits (snapshots : List SnapshotMeta) (thisClusterUid : String) (c : SnapshotMeta) :
    c ∈ commits snapshotInstant snapshots thisClusterUid ↔
      Commits snapshotInstant (runMembers snapshots thisClusterUid c.runTag) c := by
  rw [commits, List.mem_filter, mem_owned, completes, Bool.and_eq_true, List.all_eq_true]
  constructor
  · rintro ⟨⟨listed, owned⟩, manifest, first⟩
    refine ⟨(mem_run_members _ _ _ _).mpr ⟨listed, owned, rfl⟩, manifest, fun other member complete => ?_⟩
    simpa [complete] using first other member
  · rintro ⟨member, manifest, first⟩
    obtain ⟨listed, owned, _⟩ := (mem_run_members _ _ _ _).mp member
    refine ⟨⟨listed, owned⟩, manifest, fun other listed => ?_⟩
    cases complete : other.isManifest with
    | false => rfl
    | true => exact first other listed complete

def runs (snapshots : List SnapshotMeta) (thisClusterUid : String) : List Run :=
  (runsOf snapshotInstant snapshots thisClusterUid).entries.map Prod.snd

theorem mem_runs_iff (snapshots : List SnapshotMeta) (thisClusterUid : String) (run : Run) :
    run ∈ runs snapshotInstant snapshots thisClusterUid ↔ ∃ tag, runMembers snapshots thisClusterUid tag ≠ [] ∧
      run = runOf snapshotInstant (runMembers snapshots thisClusterUid tag) := by
  rw [runs, List.mem_map]
  constructor
  · rintro ⟨⟨tag, entry⟩, member, rfl⟩
    exact ⟨tag, (mem_runs snapshotInstant _ _ _ _).mp member⟩
  · rintro ⟨tag, built⟩
    exact ⟨(tag, run), (mem_runs snapshotInstant _ _ _ _).mpr built, rfl⟩

variable (thisClusterUid : String)

include distinct in
theorem mem_representatives (c : SnapshotMeta) :
    c ∈ (runs snapshotInstant snapshots thisClusterUid).filterMap Run.representative ↔
      c ∈ commits snapshotInstant snapshots thisClusterUid := by
  rw [mem_filterMap, mem_commits]
  constructor
  · rintro ⟨run, member, represented⟩
    obtain ⟨tag, _, rfl⟩ := (mem_runs_iff snapshotInstant _ _ _).mp member
    have held := (run_of_representative snapshotInstant (run_members_distinct distinct thisClusterUid tag) c).mp represented
    have tagged := ((mem_run_members _ _ _ _).mp held.member).2.2
    exact tagged ▸ held
  · intro held
    exact ⟨_, (mem_runs_iff snapshotInstant _ _ _).mpr ⟨c.runTag, ne_nil_of_mem held.member, rfl⟩,
      (run_of_representative snapshotInstant (run_members_distinct distinct thisClusterUid _) c).mpr held⟩

include distinct in
theorem representatives_distinct :
    (((runs snapshotInstant snapshots thisClusterUid).filterMap Run.representative).map SnapshotMeta.id).Nodup := by
  rw [runs, filterMap_map, List.Nodup, pairwise_map, pairwise_filterMap]
  have ordered := pairwise_map.mp (runsOf snapshotInstant snapshots thisClusterUid).ordered
  refine ordered.imp_of_mem ?_
  rintro ⟨tag, run⟩ ⟨later, other⟩ member listed below c represented d chosen same
  obtain ⟨_, rfl⟩ := (mem_runs snapshotInstant _ _ _ _).mp member
  obtain ⟨_, rfl⟩ := (mem_runs snapshotInstant _ _ _ _).mp listed
  have first := (mem_run_members _ _ _ _).mp ((run_of_representative snapshotInstant
    (run_members_distinct distinct thisClusterUid tag) c).mp represented).member
  have second := (mem_run_members _ _ _ _).mp ((run_of_representative snapshotInstant
    (run_members_distinct distinct thisClusterUid later) d).mp chosen).member
  obtain rfl := inj_on_of_nodup_map distinct first.1 second.1 same
  have equal : tag = later := first.2.2.symm.trans second.2.2
  subst equal
  exact lt_irrefl _ below

def Forgets (kept : List String) (now : Instant) (window : Duration) (run : Run) : Prop :=
  match run.representative with
  | none => mayStillBeWritten run.newest now window = false
  | some rep => rep.id ∉ kept

theorem represented_firsts (runs : List Run) :
    (runs.filterMap fun run => run.representative.map fun rep => (rep, run.ids)).map Prod.fst =
      runs.filterMap Run.representative := by
  rw [map_filterMap]
  refine filterMap_congr fun run _ => ?_
  cases run.representative <;> rfl

theorem mem_judge (runs : List Run) (policy : RetentionPolicy) (now : Instant) (window : Duration) (id : String) :
    id ∈ (judge snapshotInstant runs policy now window).forgetIds ↔ ∃ run ∈ runs, id ∈ run.ids ∧
      Forgets (selectKept snapshotInstant (runs.filterMap Run.representative) policy) now window run := by
  simp only [judge, represented_firsts, List.mem_dedup, (perm_insertionSort _ _).mem_iff, mem_append, mem_flatMap,
    mem_filter, mem_filterMap, Bool.not_eq_true', Option.map_eq_some_iff, decide_eq_true_eq]
  constructor
  · rintro (⟨run, ⟨⟨member, bare⟩, ended⟩, held⟩ | ⟨entry, ⟨⟨run, member, rep, represented, rfl⟩, rotated⟩, held⟩)
    · refine ⟨run, member, held, ?_⟩
      rw [Forgets, Option.isNone_iff_eq_none.mp bare]
      exact ended
    · refine ⟨run, member, held, ?_⟩
      rw [Forgets, represented]
      exact rotated
  · rintro ⟨run, member, held, forgets⟩
    cases represented : run.representative with
    | none =>
      rw [Forgets, represented] at forgets
      exact .inl ⟨run, ⟨⟨member, Option.isNone_iff_eq_none.mpr represented⟩, forgets⟩, held⟩
    | some rep =>
      rw [Forgets, represented] at forgets
      exact .inr ⟨(rep, run.ids), ⟨⟨run, member, rep, represented, rfl⟩, forgets⟩, held⟩

variable (policy : RetentionPolicy) (thisClusterUid : String) (now : Instant) (runDeadline : Duration)

def RunForgotten (snapshots : List SnapshotMeta) (tag : String) : Prop :=
  Forgets (selectKept snapshotInstant ((runs snapshotInstant snapshots thisClusterUid).filterMap Run.representative) policy)
    now (unfinishedRunWindow runDeadline) (runOf snapshotInstant (runMembers snapshots thisClusterUid tag))

theorem mem_forget_ids (snapshots : List SnapshotMeta) (id : String) :
    id ∈ (planPrune snapshotInstant snapshots policy thisClusterUid now runDeadline).forgetIds ↔
      ∃ s ∈ snapshots, s.id = id ∧ ownedByThisCluster s.tags thisClusterUid = true ∧
        RunForgotten snapshotInstant policy thisClusterUid now runDeadline snapshots s.runTag := by
  rw [planPrune, mem_judge]
  constructor
  · rintro ⟨run, member, held, forgets⟩
    obtain ⟨tag, _, rfl⟩ := (mem_runs_iff snapshotInstant _ _ _).mp member
    rw [run_of_ids, List.mem_map] at held
    obtain ⟨s, listed, named⟩ := held
    obtain ⟨present, owned, tagged⟩ := (mem_run_members _ _ _ _).mp listed
    exact ⟨s, present, named, owned, tagged ▸ forgets⟩
  · rintro ⟨s, present, named, owned, forgets⟩
    have listed := (mem_run_members snapshots thisClusterUid s.runTag s).mpr ⟨present, owned, rfl⟩
    refine ⟨_, (mem_runs_iff snapshotInstant _ _ _).mpr ⟨s.runTag, ne_nil_of_mem listed, rfl⟩, ?_, forgets⟩
    rw [run_of_ids]
    exact named ▸ mem_map_of_mem listed

theorem forgets_id (distinct : (snapshots.map SnapshotMeta.id).Nodup) (s : SnapshotMeta) (present : s ∈ snapshots) :
    s.id ∈ (planPrune snapshotInstant snapshots policy thisClusterUid now runDeadline).forgetIds ↔
      ownedByThisCluster s.tags thisClusterUid = true ∧
        RunForgotten snapshotInstant policy thisClusterUid now runDeadline snapshots s.runTag := by
  rw [mem_forget_ids]
  constructor
  · rintro ⟨other, listed, named, facts⟩
    exact inj_on_of_nodup_map distinct listed present named ▸ facts
  · intro facts
    exact ⟨s, present, rfl, facts⟩

variable {thisClusterUid}

theorem complete_forgotten (distinct : (snapshots.map SnapshotMeta.id).Nodup)
    {c : SnapshotMeta} (commit : c ∈ commits snapshotInstant snapshots thisClusterUid) :
    RunForgotten snapshotInstant policy thisClusterUid now runDeadline snapshots c.runTag ↔
      ¬ PolicyKeeps snapshotInstant policy (commits snapshotInstant snapshots thisClusterUid) c := by
  have represented := (run_of_representative snapshotInstant
    (run_members_distinct distinct thisClusterUid c.runTag) c).mpr ((mem_commits snapshotInstant _ _ c).mp commit)
  have listed := (mem_representatives snapshotInstant distinct thisClusterUid c).mpr commit
  rw [RunForgotten, Forgets, represented]
  refine not_congr ?_
  rw [kept_id snapshotInstant (representatives_distinct snapshotInstant distinct thisClusterUid) policy listed]
  exact kept_congr _ _ _ (mem_representatives snapshotInstant distinct thisClusterUid) c

theorem window_passed (newest now : Instant) (window : Duration) :
    mayStillBeWritten (some newest) now window = false ↔ (window.nanos : Int) ≤ now.nanos - newest.nanos := by
  have upper := now.bounded.2
  have lower := newest.bounded.1
  by_cases fits : window.nanos ≤ 9223372036854775807000000
  · simp [mayStillBeWritten, Duration.toTimeDelta, fits]
  · have endless : mayStillBeWritten (some newest) now window = true := by
      simp [mayStillBeWritten, Duration.toTimeDelta, fits]
    rw [endless]
    refine iff_of_false Bool.noConfusion ?_
    omega

theorem incomplete_forgotten {tag : String} (bare : ∀ s ∈ runMembers snapshots thisClusterUid tag, s.isManifest = false) :
    RunForgotten snapshotInstant policy thisClusterUid now runDeadline snapshots tag ↔
      ∃ newest, Newest snapshotInstant ((runMembers snapshots thisClusterUid tag).flatMap times) newest ∧
        ((unfinishedRunWindow runDeadline).nanos : Int) ≤ now.nanos - newest.nanos := by
  rw [RunForgotten, Forgets, (run_of_incomplete snapshotInstant _).mpr bare]
  cases last : (runOf snapshotInstant (runMembers snapshots thisClusterUid tag)).newest with
  | none =>
    refine iff_of_false Bool.noConfusion ?_
    rintro ⟨newest, latest, _⟩
    rw [(run_of_newest snapshotInstant _ newest).mpr latest] at last
    cases last
  | some newest =>
    have latest := (run_of_newest snapshotInstant _ newest).mp last
    rw [window_passed]
    constructor
    · intro passed
      exact ⟨newest, latest, passed⟩
    · rintro ⟨other, held, passed⟩
      rw [newest_unique _ latest held]
      exact passed

theorem judge_counts (runs : List Run) (window : Duration) :
    (judge snapshotInstant runs policy now window).forgetRuns + (judge snapshotInstant runs policy now window).keptRuns +
      (judge snapshotInstant runs policy now window).unfinishedRuns = runs.length := by
  simp only [judge]
  generalize selectKept snapshotInstant _ policy = kept
  induction runs with
  | nil => rfl
  | cons run rest ih =>
    cases represented : run.representative with
    | none => cases still : mayStillBeWritten run.newest now window <;> simp_all <;> omega
    | some rep => by_cases held : rep.id ∈ kept <;> simp_all <;> omega

end Plan

end AppRafter.Backup
