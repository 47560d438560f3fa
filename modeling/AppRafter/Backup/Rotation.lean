import AppRafter.Backup.PruneExact

set_option autoImplicit false

namespace AppRafter.Backup

open Lib Lib.Rotation List

def forgotten (documents : List Document) (ids : List String) : List Document := documents.filter fun s => s.metaId ∉ ids

-- Every snapshot belongs to this cluster and to a run that has its manifest.
structure WholeRuns (thisClusterUid : String) (documents : List Document) : Prop where
  listed : Listed documents
  owned : ∀ s ∈ documents, ownedByThisCluster s.tags thisClusterUid = true
  complete : ∀ s ∈ documents, ∃ c ∈ documents, c.firstTag = s.firstTag ∧ (snapshotMeta documents c).isManifest = true

section Selection

variable (live : String → Bool)

def selected (documents : List Document) : List Document := documents.filter fun s => live s.firstTag

variable {documents : List Document}

theorem listed_selected (listed : Listed documents) : Listed (selected live documents) where
  named s member := listed.named s (mem_of_mem_filter member)
  distinct := listed.distinct.sublist (filter_sublist.map Document.metaId)

theorem meta_selected (documents : List Document) {s : Document} (alive : live s.firstTag = true) :
    snapshotMeta (selected live documents) s = snapshotMeta documents s := by
  have same : Dict.members Document.firstTag (selected live documents) s.firstTag =
      Dict.members Document.firstTag documents s.firstTag := by
    rw [selected, Dict.members, filter_filter]
    refine filter_congr fun other _ => ?_
    by_cases tagged : other.firstTag = s.firstTag
    · rw [tagged, alive, Bool.and_true]
    · rw [decide_eq_false tagged, Bool.false_and]
  rw [snapshotMeta, snapshotMeta, groupSize, groupSize, same]

theorem parse_selected (listed : Listed documents) :
    parseSnapshots (selected live documents) = (parseSnapshots documents).filter fun s => live s.runTag := by
  rw [parse_listed (listed_selected live listed), parse_listed listed, filter_map]
  refine map_congr_left fun s member => ?_
  exact meta_selected live documents (mem_filter.mp member).2

theorem whole_selected {thisClusterUid : String} (whole : WholeRuns thisClusterUid documents) :
    WholeRuns thisClusterUid (selected live documents) where
  listed := listed_selected live whole.listed
  owned s member := whole.owned s (mem_of_mem_filter member)
  complete s member := by
    obtain ⟨present, alive⟩ := mem_filter.mp member
    obtain ⟨c, listed, tagged, manifest⟩ := whole.complete s present
    have kept : live c.firstTag = true := tagged ▸ alive
    exact ⟨c, mem_filter.mpr ⟨listed, kept⟩, tagged, (meta_selected live documents kept).symm ▸ manifest⟩

end Selection

section Repository

variable (snapshotInstant : String → Option Instant) (policy : RetentionPolicy) (thisClusterUid : String)

def runCommits (documents : List Document) : List SnapshotMeta :=
  commits snapshotInstant (parseSnapshots documents) thisClusterUid

variable {documents arrived : List Document} {s : Document}

theorem run_commits_selected (live : String → Bool) (listed : Listed documents)
    (c : SnapshotMeta) : c ∈ runCommits snapshotInstant thisClusterUid (selected live documents) ↔
      c ∈ runCommits snapshotInstant thisClusterUid documents ∧ live c.runTag = true := by
  rw [runCommits, runCommits, mem_commits, mem_commits, parse_selected live listed]
  have members : live c.runTag = true → ∀ s,
      s ∈ runMembers ((parseSnapshots documents).filter fun s => live s.runTag) thisClusterUid c.runTag ↔
        s ∈ runMembers (parseSnapshots documents) thisClusterUid c.runTag := by
    intro alive s
    rw [mem_run_members, mem_run_members, mem_filter]
    constructor
    · rintro ⟨⟨present, _⟩, facts⟩
      exact ⟨present, facts⟩
    · rintro ⟨present, owned, tagged⟩
      exact ⟨⟨present, tagged ▸ alive⟩, owned, tagged⟩
  constructor
  · intro commits
    have alive := (mem_filter.mp ((mem_run_members _ _ _ _).mp commits.member).1).2
    exact ⟨(commits_congr snapshotInstant (members alive) c).mp commits, alive⟩
  · rintro ⟨commits, alive⟩
    exact (commits_congr snapshotInstant (members alive) c).mpr commits

def Stays (documents : List Document) (tag : String) : Prop :=
  ∃ c, PolicyKeeps snapshotInstant policy (runCommits snapshotInstant thisClusterUid documents) c ∧ c.runTag = tag

theorem run_commit (whole : WholeRuns thisClusterUid documents)
    (present : s ∈ documents) : ∃ c ∈ runCommits snapshotInstant thisClusterUid documents, c.runTag = s.firstTag := by
  obtain ⟨last, listed, tagged, manifest⟩ := whole.complete s present
  have parsed : snapshotMeta documents last ∈ parseSnapshots documents := parse_listed whole.listed ▸ mem_map_of_mem listed
  have member := (mem_run_members (parseSnapshots documents) thisClusterUid s.firstTag _).mpr
    ⟨parsed, whole.owned last listed, tagged⟩
  cases represented : (runOf snapshotInstant (runMembers (parseSnapshots documents) thisClusterUid s.firstTag)).representative with
  | none =>
    rw [(run_of_incomplete snapshotInstant _).mp represented _ member] at manifest
    cases manifest
  | some c =>
    have commits := (run_of_representative snapshotInstant (run_members_distinct
      (parse_listing whole.listed.distinct).distinct thisClusterUid s.firstTag) c).mp represented
    have same := ((mem_run_members _ _ _ _).mp commits.member).2.2
    exact ⟨c, (mem_commits snapshotInstant _ _ c).mpr (same.symm ▸ commits), same⟩

theorem run_commit_unique (listed : Listed documents) {c d : SnapshotMeta}
    (first : c ∈ runCommits snapshotInstant thisClusterUid documents)
    (second : d ∈ runCommits snapshotInstant thisClusterUid documents) (same : c.runTag = d.runTag) : c = d := by
  have left := (mem_commits snapshotInstant _ _ c).mp first
  have right := (mem_commits snapshotInstant _ _ d).mp second
  exact commits_unique snapshotInstant (run_members_distinct (parse_listing listed.distinct).distinct _ _) left (same ▸ right)

theorem stays_iff (whole : WholeRuns thisClusterUid documents) (now : Instant)
    (runDeadline : Duration) (present : s ∈ documents) :
    s.metaId ∉ (planPrune snapshotInstant (parseSnapshots documents) policy thisClusterUid now runDeadline).forgetIds ↔
      Stays snapshotInstant policy thisClusterUid documents s.firstTag := by
  have distinct := (parse_listing whole.listed.distinct).distinct
  have parsed : snapshotMeta documents s ∈ parseSnapshots documents := parse_listed whole.listed ▸ mem_map_of_mem present
  obtain ⟨c, commit, tagged⟩ := run_commit snapshotInstant _ whole present
  have verdict := complete_forgotten _ policy now runDeadline distinct commit
  have listed := forgets_id snapshotInstant policy thisClusterUid now runDeadline distinct _ parsed
  have ours : ownedByThisCluster (snapshotMeta documents s).tags thisClusterUid = true := whole.owned s present
  have run : (snapshotMeta documents s).runTag = c.runTag := tagged.symm
  rw [and_iff_right ours, run, verdict] at listed
  change ¬ (snapshotMeta documents s).id ∈ _ ↔ _
  rw [listed, not_not, ← tagged]
  constructor
  · intro keeps
    exact ⟨c, keeps, rfl⟩
  · rintro ⟨other, keeps, same⟩
    exact run_commit_unique _ _ whole.listed keeps.listed commit same ▸ keeps

def Rotated (arrived held : List Document) : Prop :=
  ∃ live : String → Bool, held = selected live arrived ∧
    ∀ tag, Stays snapshotInstant policy thisClusterUid arrived tag → live tag = true

theorem rotated_refl (arrived : List Document) : Rotated snapshotInstant policy thisClusterUid arrived arrived :=
  ⟨fun _ => true, (filter_true arrived).symm, fun _ _ => rfl⟩

theorem rotated_stays (listed : Listed arrived) (live : String → Bool)
    (holds : ∀ tag, Stays snapshotInstant policy thisClusterUid arrived tag → live tag = true) (tag : String) :
    Stays snapshotInstant policy thisClusterUid (selected live arrived) tag ↔
      Stays snapshotInstant policy thisClusterUid arrived tag := by
  have distinct : ((runCommits snapshotInstant thisClusterUid arrived).map SnapshotMeta.id).Nodup :=
    (parse_listing listed.distinct).distinct.sublist ((filter_sublist.trans filter_sublist).map SnapshotMeta.id)
  have selection := run_commits_selected snapshotInstant thisClusterUid live listed
  refine exists_congr fun c => and_congr_left fun _ => ?_
  refine kept_settled _ newer_run_asymm
    (walk_order snapshotInstant distinct) (fun other => (perm_insertionSort _ _).mem_iff) ?_ ?_ c
  · intro other member
    exact ((selection other).mp member).1
  · intro other keeps
    exact (selection other).mpr ⟨keeps.listed, holds other.runTag ⟨other, keeps, rfl⟩⟩

def pruned (documents : List Document) (now : Instant) (runDeadline : Duration) : List Document :=
  forgotten documents
    (planPrune snapshotInstant (parseSnapshots documents) policy thisClusterUid now runDeadline).forgetIds

variable (now : Instant) (runDeadline : Duration) {thisClusterUid}

theorem pruned_eq (whole : WholeRuns thisClusterUid documents) (live : String → Bool)
    (stays : ∀ tag, live tag = true ↔ Stays snapshotInstant policy thisClusterUid documents tag) :
    pruned snapshotInstant policy thisClusterUid documents now runDeadline = selected live documents := by
  refine filter_congr fun s present => ?_
  have verdict := stays_iff snapshotInstant policy _ whole now runDeadline present
  rw [Bool.eq_iff_iff, decide_eq_true_eq, verdict, stays]

theorem rotated_pruned {held : List Document} (whole : WholeRuns thisClusterUid arrived)
    (rotated : Rotated snapshotInstant policy thisClusterUid arrived held) :
    Rotated snapshotInstant policy thisClusterUid arrived
      (pruned snapshotInstant policy thisClusterUid held now runDeadline) := by
  classical
  obtain ⟨live, rfl, holds⟩ := rotated
  have again := rotated_stays _ _ _ whole.listed live holds
  let stays : String → Bool := fun tag => decide (Stays snapshotInstant policy thisClusterUid arrived tag)
  have left := pruned_eq snapshotInstant policy now runDeadline
    (whole_selected live whole) stays fun tag => decide_eq_true_iff.trans (again tag).symm
  refine ⟨fun tag => stays tag && live tag, ?_, fun tag kept => ?_⟩
  · rw [left, selected, selected, selected, filter_filter]
  · exact Bool.and_eq_true_iff.mpr ⟨decide_eq_true kept, holds tag kept⟩

theorem rotated_result {held : List Document} (whole : WholeRuns thisClusterUid arrived)
    (rotated : Rotated snapshotInstant policy thisClusterUid arrived held) (later : Instant) (deadline : Duration) :
    pruned snapshotInstant policy thisClusterUid held now runDeadline =
      pruned snapshotInstant policy thisClusterUid arrived later deadline := by
  classical
  obtain ⟨live, rfl, holds⟩ := rotated
  have again := rotated_stays _ _ _ whole.listed live holds
  let stays : String → Bool := fun tag => decide (Stays snapshotInstant policy thisClusterUid arrived tag)
  have left := pruned_eq snapshotInstant policy now runDeadline
    (whole_selected live whole) stays fun tag => decide_eq_true_iff.trans (again tag).symm
  have right := pruned_eq snapshotInstant policy later deadline whole stays fun tag => decide_eq_true_iff
  rw [left, right, selected, selected, filter_filter]
  refine filter_congr fun s _ => ?_
  by_cases kept : stays s.firstTag = true
  · rw [kept, holds _ (of_decide_eq_true kept), Bool.true_and]
  · rw [Bool.eq_false_iff.mpr kept, Bool.false_and]

end Repository

section Arrivals

def DistinctRuns (earlier later : List Document) : Prop := ∀ s ∈ later, ∀ e ∈ earlier, s.firstTag ≠ e.firstTag

instance (earlier later : List Document) : Decidable (DistinctRuns earlier later) :=
  inferInstanceAs (Decidable (∀ s ∈ later, ∀ e ∈ earlier, s.firstTag ≠ e.firstTag))

def newTag (later : List Document) (tag : String) : Bool := tag ∈ later.map Document.firstTag

variable {later earlier documents others : List Document} {s : Document}

theorem new_tag (member : s ∈ later) : newTag later s.firstTag = true := decide_eq_true (mem_map_of_mem member)

theorem old_tag (apart : DistinctRuns earlier later) (member : s ∈ earlier) : newTag later s.firstTag = false := by
  refine decide_eq_false fun tagged => ?_
  obtain ⟨other, listed, same⟩ := mem_map.mp tagged
  exact apart other listed s member same

theorem earlier_selected (apart : DistinctRuns earlier later) :
    selected (fun tag => !newTag later tag) (earlier ++ later) = earlier := by
  have old : earlier.filter (fun s => !newTag later s.firstTag) = earlier :=
    filter_eq_self.mpr fun s member => by rw [old_tag apart member]; rfl
  have new : later.filter (fun s => !newTag later s.firstTag) = [] :=
    filter_eq_nil_iff.mpr fun s member => by rw [new_tag member]; exact Bool.false_ne_true
  rw [selected, filter_append, old, new, append_nil]

theorem whole_earlier {thisClusterUid : String} (apart : DistinctRuns earlier later)
    (whole : WholeRuns thisClusterUid (earlier ++ later)) : WholeRuns thisClusterUid earlier :=
  earlier_selected apart ▸ whole_selected (fun tag => !newTag later tag) whole

variable (snapshotInstant : String → Option Instant) (policy : RetentionPolicy) (thisClusterUid : String)

theorem stays_earlier (apart : DistinctRuns earlier later)
    (listed : Listed (earlier ++ later)) {tag : String} (old : newTag later tag = false)
    (stays : Stays snapshotInstant policy thisClusterUid (earlier ++ later) tag) :
    Stays snapshotInstant policy thisClusterUid earlier tag := by
  obtain ⟨c, keeps, rfl⟩ := stays
  have selection := run_commits_selected snapshotInstant thisClusterUid (fun tag => !newTag later tag) listed
  rw [earlier_selected apart] at selection
  have commit := (selection c).mpr ⟨keeps.listed, by rw [old]; rfl⟩
  exact ⟨c, kept_anti _ (fun other member => ((selection other).mp member).1) commit keeps, rfl⟩

theorem rotated_backup {arrived held batch : List Document} (apart : DistinctRuns arrived batch)
    (listed : Listed (arrived ++ batch)) (rotated : Rotated snapshotInstant policy thisClusterUid arrived held) :
    Rotated snapshotInstant policy thisClusterUid (arrived ++ batch) (held ++ batch) := by
  obtain ⟨live, rfl, holds⟩ := rotated
  refine ⟨fun tag => newTag batch tag || live tag, ?_, fun tag stays => ?_⟩
  · have old : arrived.filter (fun s => newTag batch s.firstTag || live s.firstTag) = selected live arrived :=
      filter_congr fun s member => by rw [old_tag apart member, Bool.false_or]
    have new : batch.filter (fun s => newTag batch s.firstTag || live s.firstTag) = batch :=
      filter_eq_self.mpr fun s member => by rw [new_tag member, Bool.true_or]
    have both : selected (fun tag => newTag batch tag || live tag) (arrived ++ batch) = selected live arrived ++ batch := by
      rw [selected, filter_append, old, new]
    exact both.symm
  · cases fresh : newTag batch tag with
    | true => exact Bool.or_eq_true_iff.mpr (.inl fresh)
    | false => exact Bool.or_eq_true_iff.mpr (.inr (holds tag (stays_earlier _ _ _ apart listed fresh stays)))

inductive Event where
  | backup (batch : List Document)
  | prune (now : Instant) (runDeadline : Duration)

def replay (held : List Document) : List Event → List Document
  | [] => held
  | .backup batch :: rest => replay (held ++ batch) rest
  | .prune now runDeadline :: rest =>
    replay (pruned snapshotInstant policy thisClusterUid held now runDeadline) rest

def backups : List Event → List Document
  | [] => []
  | .backup batch :: rest => batch ++ backups rest
  | .prune _ _ :: rest => backups rest

def Apart (arrived : List Document) : List Event → Prop
  | [] => True
  | .backup batch :: rest => DistinctRuns arrived batch ∧ Apart (arrived ++ batch) rest
  | .prune _ _ :: rest => Apart arrived rest

theorem apart_backups (events : List Event) (arrived : List Document) (apart : Apart arrived events) :
    DistinctRuns arrived (backups events) := by
  induction events generalizing arrived with
  | nil => exact nofun
  | cons event rest ih =>
    cases event with
    | backup batch =>
      intro s member e earlier
      rcases mem_append.mp member with first | later
      · exact apart.1 s first e earlier
      · exact ih _ apart.2 s later e (mem_append_left _ earlier)
    | prune now runDeadline => exact ih arrived apart

theorem replay_rotated (events : List Event) (arrived held : List Document) (apart : Apart arrived events)
    (whole : WholeRuns thisClusterUid (arrived ++ backups events))
    (rotated : Rotated snapshotInstant policy thisClusterUid arrived held) :
    Rotated snapshotInstant policy thisClusterUid (arrived ++ backups events)
      (replay snapshotInstant policy thisClusterUid held events) := by
  induction events generalizing arrived held with
  | nil =>
    rw [backups, append_nil]
    exact rotated
  | cons event rest ih =>
    cases event with
    | backup batch =>
      rw [backups, ← append_assoc] at whole ⊢
      have here := whole_earlier (apart_backups rest _ apart.2) whole
      exact ih (arrived ++ batch) (held ++ batch) apart.2 whole (rotated_backup _ _ _ apart.1 here.listed rotated)
    | prune now runDeadline =>
      have here := whole_earlier (apart_backups rest _ apart) whole
      exact ih arrived _ apart whole (rotated_pruned _ _ now runDeadline here rotated)

theorem pruned_history {events : List Event} (apart : Apart [] events) (whole : WholeRuns thisClusterUid (backups events))
    (now later : Instant) (runDeadline deadline : Duration) :
    pruned snapshotInstant policy thisClusterUid (replay snapshotInstant policy thisClusterUid [] events) now runDeadline =
      pruned snapshotInstant policy thisClusterUid (backups events) later deadline :=
  rotated_result snapshotInstant policy now runDeadline whole (replay_rotated snapshotInstant policy _ _ [] [] apart whole
      (rotated_refl snapshotInstant policy thisClusterUid [])) later deadline

theorem meta_perm (permuted : documents.Perm others) (s : Document) : snapshotMeta documents s = snapshotMeta others s := by
  have sizes : groupSize documents s.firstTag = groupSize others s.firstTag := (permuted.filter _).length_eq
  rw [snapshotMeta, snapshotMeta, sizes]

theorem parse_perm (permuted : documents.Perm others) : (parseSnapshots documents).Perm (parseSnapshots others) := by
  have raws := permuted.filter fun s => s.metaId ≠ ""
  rw [parseSnapshots, funext (meta_perm raws)]
  exact raws.map _

theorem whole_perm (permuted : others.Perm documents)
    (whole : WholeRuns thisClusterUid documents) : WholeRuns thisClusterUid others where
  listed := ⟨fun s member => whole.listed.named s (permuted.mem_iff.mp member),
    (permuted.map Document.metaId).nodup_iff.mpr whole.listed.distinct⟩
  owned s member := whole.owned s (permuted.mem_iff.mp member)
  complete s member := by
    obtain ⟨c, listed, tagged, manifest⟩ := whole.complete s (permuted.mem_iff.mp member)
    exact ⟨c, permuted.mem_iff.mpr listed, tagged, meta_perm permuted c ▸ manifest⟩

theorem pruned_perm (listed : Listed documents) (permuted : others.Perm documents) (now : Instant) (runDeadline : Duration) :
    (pruned snapshotInstant policy thisClusterUid others now runDeadline).Perm
      (pruned snapshotInstant policy thisClusterUid documents now runDeadline) := by
  have plan := plan_prune_perm snapshotInstant policy thisClusterUid now runDeadline (parse_listing listed.distinct).distinct (parse_perm permuted)
  rw [pruned, plan]
  exact permuted.filter _

-- Two histories of the same runs, pruned at any points, leave the same snapshots.
theorem rotation_path_independent (first second : List Event) (one : Apart [] first) (two : Apart [] second)
    (same : (backups second).Perm (backups first)) (whole : WholeRuns thisClusterUid (backups first))
    (now later : Instant) (runDeadline deadline : Duration) :
    (pruned snapshotInstant policy thisClusterUid (replay snapshotInstant policy thisClusterUid [] second) later deadline).Perm
      (pruned snapshotInstant policy thisClusterUid (replay snapshotInstant policy thisClusterUid [] first) now runDeadline) := by
  have wholeToo := whole_perm thisClusterUid same whole
  rw [pruned_history snapshotInstant policy thisClusterUid one whole now later runDeadline deadline,
    pruned_history snapshotInstant policy thisClusterUid two wholeToo later later deadline deadline]
  exact pruned_perm snapshotInstant policy thisClusterUid whole.listed same later deadline

end Arrivals

section Sample

def sampleDocument (id started time : String) (path : String) : Document :=
  { id := some id, shortId := none, tags := [thisCluster ++ "-" ++ started], time := some time, backupEnd := none, paths := [path] }

def fridayRun : List Document :=
  [sampleDocument "a1" "2026-09-25T03:00:00Z" "2026-09-25T03:00:00Z" "/staging/claim-0",
    sampleDocument "a2" "2026-09-25T03:00:00Z" "2026-09-25T03:00:00Z" "/staging/commit"]

def saturdayRun : List Document := [sampleDocument "b1" "2026-09-26T03:00:00Z" "2026-09-26T03:00:00Z" "/staging/data"]

theorem sample_whole : WholeRuns thisCluster (fridayRun ++ saturdayRun) where
  listed := ⟨by decide, by decide⟩
  owned := by decide
  complete := by decide

theorem rotation_path_independent_sample :
    (pruned septemberClock ⟨1, 0, 0, utc⟩ thisCluster (replay septemberClock ⟨1, 0, 0, utc⟩ thisCluster []
        [.backup (fridayRun ++ saturdayRun)]) (septemberAt 27 2) defaultRunDeadline).Perm
      (pruned septemberClock ⟨1, 0, 0, utc⟩ thisCluster (replay septemberClock ⟨1, 0, 0, utc⟩ thisCluster []
        [.backup fridayRun, .prune (septemberAt 26 3) defaultRunDeadline, .backup saturdayRun])
        (septemberAt 27 2) defaultRunDeadline) :=
  rotation_path_independent septemberClock ⟨1, 0, 0, utc⟩ thisCluster
    [.backup fridayRun, .prune (septemberAt 26 3) defaultRunDeadline, .backup saturdayRun]
    [.backup (fridayRun ++ saturdayRun)]
    ⟨by decide, by decide, trivial⟩ ⟨by decide, trivial⟩ (List.Perm.refl _) sample_whole
    (septemberAt 27 2) (septemberAt 27 2) defaultRunDeadline defaultRunDeadline

end Sample

end AppRafter.Backup
