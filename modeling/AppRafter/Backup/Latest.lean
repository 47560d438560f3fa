import AppRafter.Backup.Rotation

set_option autoImplicit false

namespace AppRafter.Backup

open Lib

structure UnfinishedRun where
  tag : String
  snapshots : Nat
  newest : String
  deriving DecidableEq

structure RunSnapshots where
  commit : String
  claims : List String
  passedOver : List UnfinishedRun
  resolvedFrom : Option String
  deriving DecidableEq

def timeOf (s : Document) : String := s.time.getD ""

-- `completes`: the planner's rule, over the planner's grouping.
def completesRun (snaps : List Document) (s : Document) : Bool := deriveManifest s.paths (groupSize snaps s.firstTag ≤ 1)

def clusterUidsIn (snapshots : List Document) : List String :=
  ((snapshots.filterMap fun s => snapshotClusterUid s.tags).insertionSort (· ≤ ·)).dedup

inductive DrawnFrom where
  | thisCluster
  | repository
  deriving DecidableEq

def noCompleteRun (drawnFrom : DrawnFrom) (runs : Nat) (newest : Option String) (completeElsewhere : Nat) : String :=
  let (whose, listing) := match drawnFrom with
    | .thisCluster => ("this cluster's", "`apprafter backup list`")
    | .repository => ("the repository's", "`apprafter backup list --all-clusters`")
  let written := (newest.map fun t => " (the newest written at " ++ t ++ ")").getD ""
  let err := "no complete backup run to choose: " ++ whose ++ " snapshots form " ++ toString runs ++
    " run(s), and none has the snapshot that completes it, the one carrying manifest.json" ++ written ++
    " — each was interrupted before its last snapshot, or is still being written. A sequential backup " ++
    "writes that snapshot last. Wait for a backup in progress to finish, or take one (`apprafter backup run`); " ++
    listing ++ " shows them."
  if completeElsewhere > 0 then
    err ++ " The repository does hold " ++ toString completeElsewhere ++ " complete run(s) of other clusters, " ++
      "which `latest` never picks for this one: `apprafter backup list --all-clusters` shows every snapshot with the " ++
      "cluster it belongs to; to use one of them on purpose, name it — `--snapshot <id>` for a restore, " ++
      "`apprafter backup show <id>` to look inside it first."
  else err

def severalClusters (others : List String) : String :=
  "this repository holds snapshots from " ++ toString others.length ++ " different clusters (" ++
    String.intercalate ", " others ++ "), and none of them are this cluster's — so `latest` cannot say which one you " ++
    "meant. `apprafter backup list --all-clusters` shows every snapshot with the cluster it belongs to; then name the " ++
    "run explicitly — `--snapshot <id>` for a restore, `apprafter backup show <id>` to look inside one first."

def latestPool (snaps : List Document) (thisClusterUid : Option String) : Except String (List Document × DrawnFrom) :=
  let haveOurOwn := thisClusterUid.any fun uid => snaps.any fun s => classifySnapshot s.tags uid = .thisCluster
  if haveOurOwn then
    .ok (snaps.filter fun s => thisClusterUid.all fun uid => ownedByThisCluster s.tags uid, .thisCluster)
  else
    let others := clusterUidsIn snaps
    if others.length > 1 then .error (severalClusters others) else .ok (snaps, .repository)

structure Latest where
  commit : Document
  passedOver : List UnfinishedRun

section Clock

variable (snapshotInstant : String → Option Instant)

def instantOf (s : Document) : Option Instant := s.time.bind snapshotInstant

-- A run with no commit, and its newest instant beside the text it displays.
structure Unfinished where
  run : UnfinishedRun
  newestAt : Option Instant

def Unfinished.push (held : Option Unfinished) (s : Document) : Option Unfinished :=
  let at_ := instantOf snapshotInstant s
  let before := held.getD ⟨⟨s.firstTag, 0, timeOf s⟩, at_⟩
  let counted := { before.run with snapshots := before.run.snapshots + 1 }
  if compare at_ before.newestAt = .gt then some ⟨{ counted with newest := timeOf s }, at_⟩
  else some ⟨counted, before.newestAt⟩

def unfinishedRuns (rest : List Document) : List Unfinished :=
  (Dict.group Document.firstTag none (Unfinished.push snapshotInstant) rest).entries.filterMap Prod.snd

def newestComplete (snaps pool : List Document) (drawnFrom : DrawnFrom) : Except String Latest :=
  let complete := pool.filter (completesRun snaps)
  let rest := pool.filter fun s => !completesRun snaps s
  let unfinished := unfinishedRuns snapshotInstant rest
  match maxByKey (instantOf snapshotInstant) complete with
  | none =>
    let newest := (maxByKey Unfinished.newestAt unfinished).map fun run => run.run.newest
    let elsewhere := (snaps.filter (completesRun snaps)).length
    .error (noCompleteRun drawnFrom unfinished.length newest elsewhere)
  | some commit =>
    let chosen := instantOf snapshotInstant commit
    let passedOver := (unfinished.filter fun run => compare run.newestAt chosen = .gt).insertionSort
      fun a b => (compare b.newestAt a.newestAt).isLE
    .ok ⟨commit, passedOver.map Unfinished.run⟩

def chooseLatest (snaps : List Document) (thisClusterUid : Option String) : Except String Latest := do
  let pool ← latestPool snaps thisClusterUid
  newestComplete snapshotInstant snaps pool.1 pool.2

def untaggedSnapshot (requested id : String) : String :=
  "snapshot `" ++ requested ++ "` (" ++ id ++ ") carries no run tag, so no run can be put together around it, and it " ++
    "does not complete one by itself — it is not a backup run a restore can replay, so nothing was downloaded. " ++
    "`apprafter backup list` shows the complete runs; name one of those with `--snapshot <id>`, or leave " ++
    "`--snapshot` out for the newest complete run."

def unfinishedRunNamed (requested id tag : String) (snapshots : Nat) : String :=
  "snapshot `" ++ requested ++ "` (" ++ id ++ ") is one of the " ++ toString snapshots ++ " snapshot(s) of backup run " ++
    tag ++ ", and none of them carries manifest.json: the run was interrupted before its last snapshot, or is still " ++
    "being written. A restore replays a whole run, starting from the snapshot that carries its manifest, and restoring " ++
    "part of a run is not supported — so nothing was downloaded. `apprafter backup list` shows the complete runs; name " ++
    "one of those with `--snapshot <id>`, or leave `--snapshot` out for the newest complete run."

def commitOfNamedRun (snaps : List Document) (named : Document) (requested : String) : Except String Document :=
  if completesRun snaps named then .ok named
  else if named.firstTag = "" then .error (untaggedSnapshot requested named.idOf)
  else
    let run := snaps.filter fun s => s.firstTag = named.firstTag
    match maxByKey (instantOf snapshotInstant) (run.filter (completesRun snaps)) with
    | some commit => .ok commit
    | none => .error (unfinishedRunNamed requested named.idOf named.firstTag run.length)

def namedBy (requested : String) (s : Document) : Bool :=
  s.idOf = requested || Text.startsWith s.idOf requested || s.shortId = some requested

-- Oldest first. An untagged snapshot drags in no other.
def claimsOf (snaps : List Document) (commit : Document) : List String :=
  if commit.firstTag = "" then [] else
    let claims := (snaps.filter fun s => s.idOf ≠ commit.idOf ∧ s.firstTag = commit.firstTag).map fun s =>
      (instantOf snapshotInstant s, s.idOf)
    (claims.insertionSort fun a b => ((compare a.1 b.1).then (compare a.2 b.2)).isLE).map Prod.snd

def resolveRunSnapshots (snaps : List Document) (requested : String) (thisClusterUid : Option String) :
    Except String RunSnapshots := do
  if snaps = [] then .error "the repository has no snapshots"
  else if requested = "latest" then
    let latest ← chooseLatest snapshotInstant snaps thisClusterUid
    .ok ⟨latest.commit.idOf, claimsOf snapshotInstant snaps latest.commit, latest.passedOver, none⟩
  else
    match snaps.find? (namedBy requested) with
    | none => .error ("no snapshot matching `" ++ requested ++ "` in this repository")
    | some named =>
      let commit ← commitOfNamedRun snapshotInstant snaps named requested
      .ok ⟨commit.idOf, claimsOf snapshotInstant snaps commit, [], if commit = named then none else some named.idOf⟩

end Clock

open Lib.Rotation List Option

section Latest

variable (snapshotInstant : String → Option Instant) (thisClusterUid : String)

def latestCandidates (snaps : List Document) : List Document :=
  (snaps.filter fun s => ownedByThisCluster s.tags thisClusterUid).filter (completesRun snaps)

def HasOwn (snaps : List Document) : Prop := ∃ s ∈ snaps, snapshotClusterUid s.tags = some thisClusterUid

variable {thisClusterUid} {snaps : List Document} (own : HasOwn thisClusterUid snaps)

include own in
theorem latest_pool_own : latestPool snaps (some thisClusterUid) =
      .ok (snaps.filter fun s => ownedByThisCluster s.tags thisClusterUid, .thisCluster) := by
  obtain ⟨s, member, carried⟩ := own
  have classified : classifySnapshot s.tags thisClusterUid = .thisCluster := by
    rw [classifySnapshot, carried]
    exact if_pos rfl
  have ours : (snaps.any fun s => classifySnapshot s.tags thisClusterUid = .thisCluster) = true :=
    any_eq_true.mpr ⟨s, member, decide_eq_true classified⟩
  simp only [latestPool, any_some, ours, if_true, all_some]

theorem newest_complete_some {pool : List Document} (drawnFrom : DrawnFrom) {c : Document}
    (greatest : maxByKey (instantOf snapshotInstant) (pool.filter (completesRun snaps)) = some c) :
    ∃ latest, newestComplete snapshotInstant snaps pool drawnFrom = .ok latest ∧ latest.commit = c := by
  simp only [newestComplete, greatest]
  exact ⟨_, rfl, rfl⟩

theorem newest_complete_ok {pool : List Document} {drawnFrom : DrawnFrom} {latest : Latest}
    (chosen : newestComplete snapshotInstant snaps pool drawnFrom = .ok latest) :
    maxByKey (instantOf snapshotInstant) (pool.filter (completesRun snaps)) = some latest.commit := by
  cases greatest : maxByKey (instantOf snapshotInstant) (pool.filter (completesRun snaps)) with
  | none =>
    simp only [newestComplete, greatest] at chosen
    cases chosen
  | some c =>
    obtain ⟨other, found, same⟩ := newest_complete_some _ drawnFrom greatest
    rw [found] at chosen
    cases chosen
    rw [same]

def latestRun (snaps : List Document) (latest : Latest) : RunSnapshots :=
  ⟨latest.commit.idOf, claimsOf snapshotInstant snaps latest.commit, latest.passedOver, none⟩

include own in
theorem resolve_latest_eq : resolveRunSnapshots snapshotInstant snaps "latest" (some thisClusterUid) =
      (newestComplete snapshotInstant snaps (snaps.filter fun s => ownedByThisCluster s.tags thisClusterUid)
        .thisCluster).map (latestRun snapshotInstant snaps) := by
  obtain ⟨s, member, _⟩ := id own
  rw [resolveRunSnapshots, if_neg (ne_nil_of_mem member), if_pos rfl, chooseLatest, latest_pool_own own]
  change Except.bind (newestComplete snapshotInstant snaps _ .thisCluster) _ = _
  cases newestComplete snapshotInstant snaps (snaps.filter fun s => ownedByThisCluster s.tags thisClusterUid) .thisCluster <;> rfl

variable {snapshotInstant}

include own in
theorem resolve_latest {run : RunSnapshots}
    (resolved : resolveRunSnapshots snapshotInstant snaps "latest" (some thisClusterUid) = .ok run) :
    ∃ c, maxByKey (instantOf snapshotInstant) (latestCandidates thisClusterUid snaps) = some c ∧ run.commit = c.idOf ∧
      run.claims = claimsOf snapshotInstant snaps c := by
  rw [resolve_latest_eq snapshotInstant own] at resolved
  cases chosen : newestComplete snapshotInstant snaps (snaps.filter fun s => ownedByThisCluster s.tags thisClusterUid)
      .thisCluster with
  | error e =>
    rw [chosen] at resolved
    cases resolved
  | ok latest =>
    rw [chosen] at resolved
    cases resolved
    exact ⟨latest.commit, newest_complete_ok _ chosen, rfl, rfl⟩

include own in
theorem resolve_latest_ok (c : Document)
    (greatest : maxByKey (instantOf snapshotInstant) (latestCandidates thisClusterUid snaps) = some c) :
    ∃ run, resolveRunSnapshots snapshotInstant snaps "latest" (some thisClusterUid) = .ok run ∧ run.commit = c.idOf ∧
      run.claims = claimsOf snapshotInstant snaps c := by
  obtain ⟨latest, found, same⟩ := newest_complete_some _ .thisCluster greatest
  rw [resolve_latest_eq snapshotInstant own, found]
  exact ⟨latestRun snapshotInstant snaps latest, rfl, congrArg Document.idOf same, congrArg (claimsOf snapshotInstant snaps) same⟩

end Latest

section Prune

variable (snapshotInstant : String → Option Instant) (policy : RetentionPolicy) (thisClusterUid : String)
  (now : Instant) (runDeadline : Duration) (documents : List Document) (listed : Listed documents)

def forgetIdsOf : List String :=
  (planPrune snapshotInstant (parseSnapshots documents) policy thisClusterUid now runDeadline).forgetIds

include listed

theorem forgets_document (s : Document) (present : s ∈ documents) :
    s.metaId ∈ forgetIdsOf snapshotInstant policy thisClusterUid now runDeadline documents ↔
      ownedByThisCluster s.tags thisClusterUid = true ∧
        RunForgotten snapshotInstant policy thisClusterUid now runDeadline (parseSnapshots documents) s.firstTag := by
  have parsed : snapshotMeta documents s ∈ parseSnapshots documents := parse_listed listed ▸ mem_map_of_mem present
  exact forgets_id snapshotInstant policy thisClusterUid now runDeadline (parse_listing listed.distinct).distinct _ parsed

variable {s c : Document}

theorem run_stays (present : s ∈ documents) (owned : ownedByThisCluster s.tags thisClusterUid = true)
    (stays : s.metaId ∉ forgetIdsOf snapshotInstant policy thisClusterUid now runDeadline documents) {other : Document}
    (member : other ∈ documents) (same : other.firstTag = s.firstTag) :
    other.metaId ∉ forgetIdsOf snapshotInstant policy thisClusterUid now runDeadline documents := by
  have verdict := forgets_document snapshotInstant policy thisClusterUid now runDeadline _ listed
  intro gone
  exact stays ((verdict s present).mpr ⟨owned, same ▸ ((verdict other member).mp gone).2⟩)

theorem members_rest (s : Document) (present : s ∈ documents) (owned : ownedByThisCluster s.tags thisClusterUid = true)
    (stays : s.metaId ∉ forgetIdsOf snapshotInstant policy thisClusterUid now runDeadline documents) (p : Document → Bool)
    (tagged : ∀ other, p other = true → other.firstTag = s.firstTag) :
    (forgotten documents (forgetIdsOf snapshotInstant policy thisClusterUid now runDeadline documents)).filter p =
      documents.filter p := by
  rw [forgotten, List.filter_filter]
  refine filter_congr fun other member => ?_
  cases chosen : p other with
  | false => rfl
  | true =>
    have left := run_stays _ _ _ now _ _ listed present owned stays member (tagged other chosen)
    rw [Bool.true_and, decide_eq_true left]

theorem completes_rest (present : s ∈ documents) (owned : ownedByThisCluster s.tags thisClusterUid = true)
    (stays : s.metaId ∉ forgetIdsOf snapshotInstant policy thisClusterUid now runDeadline documents) :
    completesRun (forgotten documents (forgetIdsOf snapshotInstant policy thisClusterUid now runDeadline documents)) s =
      completesRun documents s := by
  have members := members_rest snapshotInstant policy _ now runDeadline _ listed s present owned
    stays (fun other => decide (other.firstTag = s.firstTag)) fun other same => of_decide_eq_true same
  rw [completesRun, completesRun, groupSize, groupSize, Dict.members, Dict.members, members]

theorem candidates_rest : latestCandidates thisClusterUid
        (forgotten documents (forgetIdsOf snapshotInstant policy thisClusterUid now runDeadline documents)) =
      (latestCandidates thisClusterUid documents).filter fun s =>
        s.metaId ∉ forgetIdsOf snapshotInstant policy thisClusterUid now runDeadline documents := by
  rw [latestCandidates, latestCandidates, List.filter_filter, List.filter_filter, List.filter_filter]
  change (documents.filter _).filter _ = _
  rw [List.filter_filter]
  refine filter_congr fun s present => ?_
  cases owned : ownedByThisCluster s.tags thisClusterUid with
  | false => rw [Bool.and_false, Bool.and_false, Bool.false_and]
  | true =>
    by_cases gone : s.metaId ∈ forgetIdsOf snapshotInstant policy thisClusterUid now runDeadline documents
    · rw [decide_eq_false (not_not_intro gone), Bool.and_false, Bool.false_and, Bool.false_and]
    · rw [completes_rest _ _ _ now _ _ listed present owned gone, decide_eq_true gone, Bool.and_true, Bool.true_and]

theorem claims_rest (present : c ∈ documents) (owned : ownedByThisCluster c.tags thisClusterUid = true)
    (stays : c.metaId ∉ forgetIdsOf snapshotInstant policy thisClusterUid now runDeadline documents) :
    claimsOf snapshotInstant
        (forgotten documents (forgetIdsOf snapshotInstant policy thisClusterUid now runDeadline documents)) c =
      claimsOf snapshotInstant documents c := by
  have members := members_rest _ _ _ now _ _ listed c present owned stays
    (fun other => decide (other.idOf ≠ c.idOf ∧ other.firstTag = c.firstTag)) fun other chosen => (of_decide_eq_true chosen).2
  rw [claimsOf, claimsOf, members]

omit listed in
theorem mem_claims (c : Document) (id : String) : id ∈ claimsOf snapshotInstant documents c ↔
      c.firstTag ≠ "" ∧ ∃ s ∈ documents, s.idOf ≠ c.idOf ∧ s.firstTag = c.firstTag ∧ s.idOf = id := by
  rw [claimsOf]
  by_cases bare : c.firstTag = ""
  · rw [if_pos bare]
    exact iff_of_false not_mem_nil fun facts => facts.1 bare
  · rw [if_neg bare, and_iff_right bare, List.mem_map]
    simp only [(List.perm_insertionSort _ _).mem_iff, List.mem_map, List.mem_filter, decide_eq_true_eq]
    constructor
    · rintro ⟨_, ⟨s, ⟨present, other, tagged⟩, rfl⟩, named⟩
      exact ⟨s, present, other, tagged, named⟩
    · rintro ⟨s, present, other, tagged, named⟩
      exact ⟨_, ⟨s, ⟨present, other, tagged⟩, rfl⟩, named⟩

theorem run_ids (present : c ∈ documents) (tagged : c.firstTag ≠ "") (id : String) :
    id ∈ c.idOf :: claimsOf snapshotInstant documents c ↔ ∃ s ∈ parseSnapshots documents, s.runTag = c.firstTag ∧ s.id = id := by
  rw [mem_cons, mem_claims, and_iff_right tagged, parse_listed listed]
  constructor
  · rintro (rfl | ⟨s, member, _, same, rfl⟩)
    · exact ⟨_, mem_map_of_mem present, rfl, meta_id_full (listed.named c present)⟩
    · exact ⟨_, mem_map_of_mem member, same, meta_id_full (listed.named s member)⟩
  · rintro ⟨_, member, same, rfl⟩
    obtain ⟨s, listedHere, rfl⟩ := mem_map.mp member
    have full : (snapshotMeta documents s).id = s.idOf := meta_id_full (listed.named s listedHere)
    rw [full]
    by_cases itself : s.idOf = c.idOf
    · exact .inl itself
    · exact .inr ⟨s, listedHere, itself, same, rfl⟩

omit listed in
theorem completes_manifest (present : c ∈ documents) : (snapshotMeta documents c).isManifest = completesRun documents c := by
  have counted : 0 < groupSize documents c.firstTag := length_pos_of_mem ((Dict.mem_members _ _ _ _).mpr ⟨present, rfl⟩)
  rw [snapshotMeta, completesRun]
  have alone : (groupSize documents c.firstTag == 1) = decide (groupSize documents c.firstTag ≤ 1) := by
    rw [Bool.eq_iff_iff, beq_iff_eq, decide_eq_true_eq]
    omega
  rw [alone]

theorem run_representative (present : c ∈ documents)
    (owned : ownedByThisCluster c.tags thisClusterUid = true) (complete : completesRun documents c = true) :
    ∃ rep ∈ runCommits snapshotInstant thisClusterUid documents, rep.runTag = c.firstTag := by
  have parsed : snapshotMeta documents c ∈ parseSnapshots documents := parse_listed listed ▸ mem_map_of_mem present
  have member := (mem_run_members (parseSnapshots documents) thisClusterUid c.firstTag _).mpr ⟨parsed, owned, rfl⟩
  cases represented : (runOf snapshotInstant (runMembers (parseSnapshots documents) thisClusterUid c.firstTag)).representative with
  | none =>
    have bare := (run_of_incomplete snapshotInstant _).mp represented _ member
    rw [completes_manifest _ present, complete] at bare
    cases bare
  | some rep =>
    have commits := (run_of_representative snapshotInstant (run_members_distinct
      (parse_listing listed.distinct).distinct thisClusterUid c.firstTag) rep).mp represented
    have same := ((mem_run_members _ _ _ _).mp commits.member).2.2
    exact ⟨rep, (mem_commits snapshotInstant _ _ rep).mpr (same.symm ▸ commits), same⟩

omit listed in
theorem first_kept (positive : 0 < policy.keepDaily ∨ 0 < policy.keepWeekly ∨ 0 < policy.keepMonthly)
    {commits : List SnapshotMeta} {rep : SnapshotMeta} (member : rep ∈ commits)
    (first : ∀ other ∈ commits, ¬ newerRun snapshotInstant other rep) : PolicyKeeps snapshotInstant policy commits rep := by
  refine ⟨member, ?_⟩
  cases placed : hasInstant snapshotInstant rep with
  | false => exact .inl rfl
  | true =>
    have survives : ∀ bucket : Rule SnapshotMeta (Option (Int × Nat)), 0 < bucket.keep →
        Survives bucket.period (newerRun snapshotInstant) bucket.keep (commits.filter (hasInstant snapshotInstant)) rep := by
      intro bucket room
      have none_ : newerPeriods bucket.period (newerRun snapshotInstant) (commits.filter (hasInstant snapshotInstant)) rep = ∅ := by
        refine Finset.eq_empty_of_forall_notMem fun at_ counted => ?_
        obtain ⟨other, listed, before, _⟩ := (mem_newer_periods _ _ _ _ _).mp counted
        exact first other (mem_of_mem_filter listed) before
      refine ⟨mem_filter.mpr ⟨member, placed⟩, fun other listed before => ?_, ?_⟩
      · exact absurd before (first other (mem_of_mem_filter listed))
      · rw [none_]
        exact room
    refine .inr ?_
    rcases positive with daily | weekly | monthly
    · exact ⟨_, mem_cons_self, survives _ daily⟩
    · exact ⟨_, mem_cons_of_mem _ mem_cons_self, survives _ weekly⟩
    · exact ⟨_, mem_cons_of_mem _ (mem_cons_of_mem _ mem_cons_self), survives _ monthly⟩

omit listed in
def runIds (run : RunSnapshots) : List String := run.commit :: run.claims

-- One notion of a complete run, kept as the policy keeps it, and meant again afterwards.
structure LatestKept (run : RunSnapshots) (c rep : SnapshotMeta) : Prop where
  commit : c ∈ parseSnapshots documents ∧ c.id = run.commit ∧ c.isManifest = true
  whole : c.runTag ≠ "" → ∀ id, id ∈ runIds run ↔ ∃ s ∈ parseSnapshots documents, s.runTag = c.runTag ∧ s.id = id
  untagged : c.runTag = "" → run.claims = []
  planned : rep ∈ runCommits snapshotInstant thisClusterUid documents ∧ rep.runTag = c.runTag
  kept : (∀ id ∈ runIds run, id ∉ forgetIdsOf snapshotInstant policy thisClusterUid now runDeadline documents) ↔
    PolicyKeeps snapshotInstant policy (runCommits snapshotInstant thisClusterUid documents) rep
  first : (∀ other ∈ runCommits snapshotInstant thisClusterUid documents, ¬ newerRun snapshotInstant other rep) →
    ∀ id ∈ runIds run, id ∉ forgetIdsOf snapshotInstant policy thisClusterUid now runDeadline documents
  again : (∀ id ∈ runIds run, id ∉ forgetIdsOf snapshotInstant policy thisClusterUid now runDeadline documents) →
    HasOwn thisClusterUid
      (forgotten documents (forgetIdsOf snapshotInstant policy thisClusterUid now runDeadline documents)) →
    ∃ later, resolveRunSnapshots snapshotInstant
        (forgotten documents (forgetIdsOf snapshotInstant policy thisClusterUid now runDeadline documents))
        "latest" (some thisClusterUid) = .ok later ∧ later.commit = run.commit ∧ later.claims = run.claims

theorem latest_kept (own : HasOwn thisClusterUid documents)
    (positive : 0 < policy.keepDaily ∨ 0 < policy.keepWeekly ∨ 0 < policy.keepMonthly) (run : RunSnapshots)
    (resolved : resolveRunSnapshots snapshotInstant documents "latest" (some thisClusterUid) = .ok run) :
    ∃ c rep, LatestKept snapshotInstant policy thisClusterUid now runDeadline documents run c rep := by
  obtain ⟨c, greatest, commit, claims⟩ := resolve_latest own resolved
  obtain ⟨inPool, complete⟩ := mem_filter.mp (max_by_key_mem _ greatest)
  obtain ⟨present, owned⟩ := mem_filter.mp inPool
  obtain ⟨rep, planned, same⟩ := run_representative snapshotInstant thisClusterUid documents listed present owned complete
  have full : c.metaId = c.idOf := meta_id_full (listed.named c present)
  have named : (snapshotMeta documents c).id = run.commit := full.trans commit.symm
  have ids : runIds run = c.idOf :: claimsOf snapshotInstant documents c := by rw [runIds, commit, claims]
  have verdict := forgets_document snapshotInstant policy thisClusterUid now runDeadline documents listed
  have rotates := complete_forgotten snapshotInstant policy now runDeadline (parse_listing listed.distinct).distinct planned
  have kept : (∀ id ∈ runIds run, id ∉ forgetIdsOf snapshotInstant policy thisClusterUid now runDeadline documents) ↔
      PolicyKeeps snapshotInstant policy (runCommits snapshotInstant thisClusterUid documents) rep := by
    constructor
    · intro stays
      by_contra rotated
      have gone := (verdict c present).mpr ⟨owned, same ▸ rotates.mpr rotated⟩
      exact stays c.idOf (ids ▸ mem_cons_self) (full ▸ gone)
    · intro keeps id member forgets
      have left : ∀ s ∈ documents, s.firstTag = c.firstTag →
          s.metaId ∉ forgetIdsOf snapshotInstant policy thisClusterUid now runDeadline documents := by
        intro s here tagged gone
        have rotated := ((verdict s here).mp gone).2
        rw [tagged, ← same] at rotated
        exact rotates.mp rotated keeps
      rw [ids] at member
      rcases mem_cons.mp member with rfl | claim
      · exact left c present rfl (full ▸ forgets)
      · obtain ⟨_, s, here, _, tagged, rfl⟩ := (mem_claims snapshotInstant documents c id).mp claim
        exact left s here tagged (meta_id_full (listed.named s here) ▸ forgets)
  refine ⟨snapshotMeta documents c, rep, ⟨parse_listed listed ▸ mem_map_of_mem present, named,
      (completes_manifest documents present).trans complete⟩, ?_, ?_, ⟨planned, same⟩, kept, ?_, ?_⟩
  · intro tagged id
    rw [ids]
    exact run_ids snapshotInstant documents listed present tagged id
  · intro bare
    rw [claims, claimsOf]
    exact if_pos bare
  · intro first
    exact kept.mpr (first_kept snapshotInstant policy positive planned first)
  · intro stays left
    have still : c.metaId ∉ forgetIdsOf snapshotInstant policy thisClusterUid now runDeadline documents :=
      full ▸ stays c.idOf (ids ▸ mem_cons_self)
    have remains := max_by_key_filter (instantOf snapshotInstant) (fun s =>
      decide (s.metaId ∉ forgetIdsOf snapshotInstant policy thisClusterUid now runDeadline documents)) c greatest
      (decide_eq_true still)
    rw [← candidates_rest snapshotInstant policy thisClusterUid now runDeadline documents listed] at remains
    obtain ⟨later, found, laterCommit, laterClaims⟩ := resolve_latest_ok left c remains
    refine ⟨later, found, laterCommit.trans commit.symm, laterClaims.trans (Eq.trans ?_ claims.symm)⟩
    exact claims_rest snapshotInstant policy thisClusterUid now runDeadline documents listed present owned still

end Prune

section Sample

theorem latest_kept_sample : ∃ c rep, LatestKept septemberClock ⟨1, 0, 0, utc⟩ thisCluster (septemberAt 27 2) defaultRunDeadline
      (fridayRun ++ saturdayRun) ⟨"b1", [], [], none⟩ c rep :=
  latest_kept septemberClock ⟨1, 0, 0, utc⟩ thisCluster (septemberAt 27 2) defaultRunDeadline (fridayRun ++ saturdayRun)
    sample_whole.listed ⟨sampleDocument "b1" "2026-09-26T03:00:00Z" "2026-09-26T03:00:00Z" "/staging/data",
      by decide, by decide +kernel⟩ (.inl (by decide)) ⟨"b1", [], [], none⟩ (by decide +kernel)

def overlappingRuns : List Document :=
  [sampleDocument "x1" "2026-09-26T22:00:00Z" "2026-09-26T22:00:00Z" "/staging/claim-0",
    sampleDocument "y1" "2026-09-26T23:00:00Z" "2026-09-26T23:00:00Z" "/staging/data",
    sampleDocument "x2" "2026-09-26T22:00:00Z" "2026-09-27T02:00:00Z" "/staging/commit"]

theorem latest_forgotten :
    resolveRunSnapshots septemberClock overlappingRuns "latest" (some thisCluster) = .ok ⟨"x2", ["x1"], [], none⟩ ∧
      "x2" ∈ forgetIdsOf septemberClock ⟨1, 0, 0, utc⟩ thisCluster (septemberAt 27 2) defaultRunDeadline overlappingRuns := by
  decide +kernel

end Sample

end AppRafter.Backup
