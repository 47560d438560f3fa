import AppRafter.Backup.Latest

set_option autoImplicit false

namespace AppRafter.Backup

open Lib List Option

-- Which snapshots `latest` is drawn from; none where several other clusters' runs are.
def poolTest (snaps : List Document) (thisClusterUid : Option String) : Option (Document → Bool) :=
  if thisClusterUid.any fun uid => snaps.any fun s => classifySnapshot s.tags uid = .thisCluster then
    some fun s => thisClusterUid.all fun uid => ownedByThisCluster s.tags uid
  else if (clusterUidsIn snaps).length > 1 then none
  else some fun _ => true

theorem latest_pool_eq (snaps : List Document) (thisClusterUid : Option String) :
    ((latestPool snaps thisClusterUid).toOption.map Prod.fst) =
      (poolTest snaps thisClusterUid).map fun test => snaps.filter test := by
  simp only [latestPool, poolTest]
  split
  · rfl
  · split
    · rfl
    · exact congrArg some (filter_true snaps).symm

variable {snaps others : List Document}

theorem uids_perm (permuted : others.Perm snaps) : clusterUidsIn others = clusterUidsIn snaps := by
  have sorted : ∀ list : List String, (list.insertionSort (· ≤ ·)).Pairwise (· ≤ ·) := fun list => pairwise_insertionSort _ list
  have same := ((perm_insertionSort (· ≤ ·) _).trans (permuted.filterMap fun s => snapshotClusterUid s.tags)).trans
    (perm_insertionSort (· ≤ ·) _).symm
  rw [clusterUidsIn, clusterUidsIn, List.Perm.eq_of_pairwise (fun _ _ _ _ => le_antisymm) (sorted _) (sorted _) same]

theorem pool_test_perm (permuted : others.Perm snaps) (thisClusterUid : Option String) :
    poolTest others thisClusterUid = poolTest snaps thisClusterUid := by
  have own : ∀ uid, (others.any fun s => classifySnapshot s.tags uid = .thisCluster) =
      snaps.any fun s => classifySnapshot s.tags uid = .thisCluster := fun uid => permuted.any_eq
  simp only [poolTest, uids_perm permuted, own]

theorem completes_perm (permuted : others.Perm snaps) : completesRun others = completesRun snaps := by
  funext s
  have sizes : groupSize others s.firstTag = groupSize snaps s.firstTag := (permuted.filter _).length_eq
  rw [completesRun, completesRun, sizes]

section Named

variable (snapshotInstant : String → Option Instant)

variable {snaps others : List Document} {named c : Document} {requested why : String} {thisClusterUid : Option String}

theorem claims_perm (permuted : others.Perm snaps) (distinct : (snaps.map Document.idOf).Nodup)
    (c : Document) : claimsOf snapshotInstant others c = claimsOf snapshotInstant snaps c := by
  rw [claimsOf, claimsOf]
  by_cases bare : c.firstTag = ""
  · rw [if_pos bare, if_pos bare]
  · rw [if_neg bare, if_neg bare]
    have members := (permuted.filter fun s => decide (s.idOf ≠ c.idOf ∧ s.firstTag = c.firstTag)).map
      fun s => (instantOf snapshotInstant s, s.idOf)
    refine congrArg (List.map Prod.snd) (insertion_sort_perm (compareLex (compareOn Prod.fst) (compareOn Prod.snd)) members ?_)
    intro a first b second tie
    obtain ⟨s, here, rfl⟩ := mem_map.mp first
    obtain ⟨t, there, rfl⟩ := mem_map.mp second
    have named : s.idOf = t.idOf := Std.LawfulEqOrd.eq_of_compare (Ordering.then_eq_eq.mp tie).2
    rw [inj_on_of_nodup_map distinct (mem_of_mem_filter here) (mem_of_mem_filter there) named]

inductive Starts (snaps : List Document) (named : Document) : Document → Prop where
  | itself (completes : completesRun snaps named = true) : Starts snaps named named
  | sibling (c : Document) (unfinished : completesRun snaps named = false) (tagged : named.firstTag ≠ "")
      (greatest : Greatest (instantOf snapshotInstant)
        ((snaps.filter fun s => s.firstTag = named.firstTag).filter (completesRun snaps)) c) : Starts snaps named c

def Candidate (snaps : List Document) (requested : String) (thisClusterUid : Option String) (c : Document) : Prop :=
  if requested = "latest" then
    ∃ test, poolTest snaps thisClusterUid = some test ∧
      Greatest (instantOf snapshotInstant) ((snaps.filter test).filter (completesRun snaps)) c
  else ∃ named ∈ snaps, namedBy requested named = true ∧ Starts snapshotInstant snaps named c

theorem starts_perm (permuted : others.Perm snaps)
    (starts : Starts snapshotInstant snaps named c) : Starts snapshotInstant others named c := by
  have completes := completes_perm permuted
  cases starts with
  | itself whole => exact .itself (by rw [completes]; exact whole)
  | sibling _ unfinished tagged greatest =>
    refine .sibling c (by rw [completes]; exact unfinished) tagged ?_
    rw [completes]
    exact greatest_perm _ ((permuted.filter _).filter _) greatest

theorem candidate_perm (permuted : others.Perm snaps) (candidate : Candidate snapshotInstant snaps requested thisClusterUid c) :
    Candidate snapshotInstant others requested thisClusterUid c := by
  rw [Candidate] at candidate ⊢
  by_cases latest : requested = "latest"
  · rw [if_pos latest] at candidate ⊢
    obtain ⟨test, chosen, greatest⟩ := candidate
    refine ⟨test, (pool_test_perm permuted thisClusterUid).trans chosen, ?_⟩
    rw [completes_perm permuted]
    exact greatest_perm _ ((permuted.filter _).filter _) greatest
  · rw [if_neg latest] at candidate ⊢
    obtain ⟨named, member, matched, starts⟩ := candidate
    exact ⟨named, permuted.mem_iff.mpr member, matched, starts_perm _ permuted starts⟩

theorem starts_mem (member : named ∈ snaps) (starts : Starts snapshotInstant snaps named c) : c ∈ snaps := by
  cases starts with
  | itself _ => exact member
  | sibling _ _ _ greatest => exact mem_of_mem_filter (mem_of_mem_filter greatest.member)

theorem candidate_mem (candidate : Candidate snapshotInstant snaps requested thisClusterUid c) : c ∈ snaps := by
  rw [Candidate] at candidate
  by_cases latest : requested = "latest"
  · rw [if_pos latest] at candidate
    obtain ⟨test, _, greatest⟩ := candidate
    exact mem_of_mem_filter (mem_of_mem_filter greatest.member)
  · rw [if_neg latest] at candidate
    obtain ⟨named, member, _, starts⟩ := candidate
    exact starts_mem _ member starts

def outcome (snaps : List Document) (requested : String) (thisClusterUid : Option String) : Option (String × List String) :=
  ((resolveRunSnapshots snapshotInstant snaps requested thisClusterUid).toOption).map fun run => (run.commit, run.claims)

def restored (snaps : List Document) (c : Document) : String × List String := (c.idOf, claimsOf snapshotInstant snaps c)

theorem commit_starts
    (found : commitOfNamedRun snapshotInstant snaps named requested = .ok c) : Starts snapshotInstant snaps named c := by
  rw [commitOfNamedRun] at found
  cases completes : completesRun snaps named with
  | true =>
    rw [if_pos completes] at found
    cases found
    exact .itself completes
  | false =>
    rw [if_neg (by rw [completes]; exact Bool.false_ne_true)] at found
    by_cases bare : named.firstTag = ""
    · rw [if_pos bare] at found
      cases found
    · rw [if_neg bare] at found
      cases chosen : maxByKey (instantOf snapshotInstant)
          ((snaps.filter fun s => s.firstTag = named.firstTag).filter (completesRun snaps)) with
      | none =>
        simp only [chosen] at found
        cases found
      | some commit =>
        simp only [chosen] at found
        cases found
        exact .sibling c completes bare (max_by_key_greatest _ chosen)

theorem commit_none (named c : Document) (refused : commitOfNamedRun snapshotInstant snaps named requested = .error why) :
    ¬ Starts snapshotInstant snaps named c := by
  intro starts
  rw [commitOfNamedRun] at refused
  cases starts with
  | itself completes =>
    rw [if_pos completes] at refused
    cases refused
  | sibling _ unfinished tagged greatest =>
    rw [if_neg (by rw [unfinished]; exact Bool.false_ne_true), if_neg tagged] at refused
    obtain ⟨commit, chosen⟩ := max_by_key_exists (instantOf snapshotInstant) (ne_nil_of_mem greatest.member)
    simp only [chosen] at refused
    cases refused

theorem outcome_some
    {run : RunSnapshots} (resolved : resolveRunSnapshots snapshotInstant snaps requested thisClusterUid = .ok run) :
    ∃ c, Candidate snapshotInstant snaps requested thisClusterUid c ∧
      (run.commit, run.claims) = restored snapshotInstant snaps c := by
  rw [resolveRunSnapshots] at resolved
  by_cases none_ : snaps = []
  · rw [if_pos none_] at resolved
    cases resolved
  · rw [if_neg none_] at resolved
    by_cases latest : requested = "latest"
    · rw [if_pos latest, chooseLatest] at resolved
      have pool := latest_pool_eq snaps thisClusterUid
      cases drawn : latestPool snaps thisClusterUid with
      | error why =>
        rw [drawn] at resolved
        cases resolved
      | ok drawnPool =>
        rw [drawn] at resolved pool
        obtain ⟨test, chosen, same⟩ := map_eq_some_iff.mp pool.symm
        change (newestComplete snapshotInstant snaps drawnPool.1 drawnPool.2 >>= _) = _ at resolved
        cases newest : newestComplete snapshotInstant snaps drawnPool.1 drawnPool.2 with
        | error why =>
          rw [newest] at resolved
          cases resolved
        | ok chosenRun =>
          rw [newest] at resolved
          cases resolved
          refine ⟨chosenRun.commit, ?_, rfl⟩
          rw [Candidate, if_pos latest]
          refine ⟨test, chosen, ?_⟩
          rw [same]
          exact max_by_key_greatest _ (newest_complete_ok _ newest)
    · rw [if_neg latest] at resolved
      cases first : snaps.find? (namedBy requested) with
      | none =>
        simp only [first] at resolved
        cases resolved
      | some named =>
        simp only [first] at resolved
        cases commit : commitOfNamedRun snapshotInstant snaps named requested with
        | error why =>
          rw [commit] at resolved
          cases resolved
        | ok c =>
          rw [commit] at resolved
          cases resolved
          refine ⟨c, ?_, rfl⟩
          rw [Candidate, if_neg latest]
          exact ⟨named, mem_of_find?_eq_some first, find?_some first, commit_starts _ commit⟩

theorem latest_refused (refused : resolveRunSnapshots snapshotInstant snaps "latest" thisClusterUid = .error why) (c : Document) :
    ¬ Candidate snapshotInstant snaps "latest" thisClusterUid c := by
  intro candidate
  have present := candidate_mem _ candidate
  obtain ⟨test, chosen, greatest⟩ := candidate
  rw [resolveRunSnapshots, if_neg (ne_nil_of_mem present), chooseLatest] at refused
  have pool := latest_pool_eq snaps thisClusterUid
  rw [chosen] at pool
  cases drawn : latestPool snaps thisClusterUid with
  | error why =>
    rw [drawn] at pool
    cases pool
  | ok drawnPool =>
    rw [drawn] at refused pool
    have same : drawnPool.1 = snaps.filter test := some.inj pool
    obtain ⟨commit, newest⟩ := max_by_key_exists (instantOf snapshotInstant) (ne_nil_of_mem greatest.member)
    rw [← same] at newest
    obtain ⟨latest, taken, _⟩ := newest_complete_some _ drawnPool.2 newest
    change ((newestComplete snapshotInstant snaps drawnPool.1 drawnPool.2) >>= _) = _ at refused
    rw [taken] at refused
    cases refused

theorem named_refused
    (named : requested ≠ "latest") (refused : resolveRunSnapshots snapshotInstant snaps requested thisClusterUid = .error why)
    {s : Document} (member : s ∈ snaps) (matched : namedBy requested s = true) :
    ∃ first ∈ snaps, namedBy requested first = true ∧ ∀ c, ¬ Starts snapshotInstant snaps first c := by
  rw [resolveRunSnapshots, if_neg (ne_nil_of_mem member), if_neg named] at refused
  cases found : snaps.find? (namedBy requested) with
  | none => exact absurd matched (find?_eq_none.mp found s member)
  | some first =>
    simp only [found] at refused
    cases commit : commitOfNamedRun snapshotInstant snaps first requested with
    | ok c =>
      rw [commit] at refused
      cases refused
    | error why =>
      exact ⟨first, mem_of_find?_eq_some found, find?_some found, fun c => commit_none _ first c commit⟩

section Request

variable (requested : String) (thisClusterUid : Option String)

-- The newest complete snapshot does not tie, and all that a text names start from one commit.
structure OneStart (snaps : List Document) : Prop where
  single : ∀ c d, Candidate snapshotInstant snaps requested thisClusterUid c →
    Candidate snapshotInstant snaps requested thisClusterUid d → c = d
  every : requested ≠ "latest" → ∀ c, Candidate snapshotInstant snaps requested thisClusterUid c →
    ∀ named ∈ snaps, namedBy requested named = true → Starts snapshotInstant snaps named c

variable {snaps others : List Document} {c named : Document}

theorem one_start_perm (permuted : others.Perm snaps) (one : OneStart snapshotInstant requested thisClusterUid snaps) :
    OneStart snapshotInstant requested thisClusterUid others where
  single c d first second := one.single c d (candidate_perm _ permuted.symm first) (candidate_perm _ permuted.symm second)
  every named c candidate s member matched := starts_perm snapshotInstant permuted
    (one.every named c (candidate_perm snapshotInstant permuted.symm candidate) s (permuted.mem_iff.mp member) matched)

theorem one_start_outcome (one : OneStart snapshotInstant requested thisClusterUid snaps)
    (candidate : Candidate snapshotInstant snaps requested thisClusterUid c) :
    outcome snapshotInstant snaps requested thisClusterUid = some (restored snapshotInstant snaps c) := by
  cases resolved : resolveRunSnapshots snapshotInstant snaps requested thisClusterUid with
  | ok run =>
    obtain ⟨d, other, same⟩ := outcome_some _ resolved
    rw [one.single c d candidate other, outcome, resolved, ← same]
    rfl
  | error why =>
    by_cases latest : requested = "latest"
    · subst latest
      exact absurd candidate (latest_refused _ resolved c)
    · have meant := id candidate
      rw [Candidate, if_neg latest] at meant
      obtain ⟨s, member, matched, _⟩ := meant
      obtain ⟨first, here, firstMatched, startless⟩ := named_refused _ latest resolved member matched
      exact absurd (one.every latest c candidate first here firstMatched) (startless c)

theorem no_candidate_outcome (without : ∀ c, ¬ Candidate snapshotInstant snaps requested thisClusterUid c) :
    outcome snapshotInstant snaps requested thisClusterUid = none := by
  cases resolved : resolveRunSnapshots snapshotInstant snaps requested thisClusterUid with
  | error why => rw [outcome, resolved]; rfl
  | ok run =>
    obtain ⟨c, candidate, _⟩ := outcome_some _ resolved
    exact absurd candidate (without c)

theorem one_start_order_free (permuted : others.Perm snaps)
    (distinct : (snaps.map Document.idOf).Nodup) (one : OneStart snapshotInstant requested thisClusterUid snaps) :
    outcome snapshotInstant others requested thisClusterUid = outcome snapshotInstant snaps requested thisClusterUid := by
  by_cases some_ : ∃ c, Candidate snapshotInstant snaps requested thisClusterUid c
  · obtain ⟨c, candidate⟩ := some_
    rw [one_start_outcome _ _ _ one candidate, one_start_outcome snapshotInstant requested thisClusterUid
        (one_start_perm _ _ _ permuted one)
        (candidate_perm _ permuted candidate),
      restored, restored, claims_perm snapshotInstant permuted distinct]
  · have without := not_exists.mp some_
    rw [no_candidate_outcome _ _ _ without, no_candidate_outcome snapshotInstant requested thisClusterUid fun c candidate =>
        without c (candidate_perm _ permuted.symm candidate)]

theorem first_outcome {first : Document} (rest : List Document) (named : requested ≠ "latest")
    (matched : namedBy requested first = true) :
    outcome snapshotInstant (first :: rest) requested thisClusterUid =
      (commitOfNamedRun snapshotInstant (first :: rest) first requested).toOption.map
        (restored snapshotInstant (first :: rest)) := by
  have found : (first :: rest).find? (namedBy requested) = some first := by rw [find?_cons, matched]
  rw [outcome, resolveRunSnapshots, if_neg named]
  simp only [found]
  cases commitOfNamedRun snapshotInstant (first :: rest) first requested <;> rfl

theorem filter_last {keep : Document → Bool} (front : List Document) (kept : keep c = true) :
    (front ++ [c]).filter keep = front.filter keep ++ [c] := by
  rw [filter_append, filter_cons_of_pos kept, filter_nil]

theorem last_chosen {front : List Document} {test : Document → Bool} (permuted : (front ++ [c]).Perm snaps)
    (greatest : Greatest (instantOf snapshotInstant) ((snaps.filter test).filter (completesRun snaps)) c) :
    maxByKey (instantOf snapshotInstant) (((front ++ [c]).filter test).filter (completesRun (front ++ [c]))) = some c := by
  obtain ⟨tested, whole⟩ := mem_filter.mp greatest.member
  have inside := (mem_filter.mp tested).2
  have ordered := greatest_perm _ ((permuted.filter test).filter (completesRun snaps)) greatest
  rw [filter_last front inside, filter_last _ whole] at ordered
  rw [completes_perm permuted, filter_last front inside, filter_last _ whole]
  exact max_by_key_last _ ordered

theorem candidate_reached (distinct : (snaps.map Document.idOf).Nodup)
    (candidate : Candidate snapshotInstant snaps requested thisClusterUid c) :
    ∃ others : List Document, others.Perm snaps ∧
      outcome snapshotInstant others requested thisClusterUid = some (restored snapshotInstant snaps c) := by
  have present := candidate_mem _ candidate
  rw [Candidate] at candidate
  by_cases latest : requested = "latest"
  · rw [if_pos latest] at candidate
    obtain ⟨test, chosen, greatest⟩ := candidate
    have permuted : (snaps.erase c ++ [c]).Perm snaps := perm_append_comm.trans (perm_cons_erase present).symm
    refine ⟨snaps.erase c ++ [c], permuted, ?_⟩
    have pool := latest_pool_eq (snaps.erase c ++ [c]) thisClusterUid
    rw [pool_test_perm permuted, chosen] at pool
    have last := last_chosen _ permuted greatest
    subst latest
    rw [outcome, resolveRunSnapshots, if_neg (by simp), chooseLatest]
    cases drawn : latestPool (snaps.erase c ++ [c]) thisClusterUid with
    | error why =>
      rw [drawn] at pool
      cases pool
    | ok drawnPool =>
      rw [drawn] at pool
      have same : drawnPool.1 = (snaps.erase c ++ [c]).filter test := some.inj pool
      rw [← same] at last
      obtain ⟨run, taken, commit⟩ := newest_complete_some _ drawnPool.2 last
      change Option.map _ (Except.toOption ((newestComplete snapshotInstant (snaps.erase c ++ [c]) drawnPool.1 drawnPool.2) >>= _)) = _
      rw [taken]
      subst commit
      rw [restored, ← claims_perm snapshotInstant permuted distinct]
      rfl
  · rw [if_neg latest] at candidate
    obtain ⟨named, member, matched, starts⟩ := candidate
    cases starts with
    | itself completes =>
      have permuted := (perm_cons_erase member).symm
      refine ⟨c :: snaps.erase c, permuted, ?_⟩
      have whole : completesRun (c :: snaps.erase c) c = true := by
        rw [completes_perm permuted]
        exact completes
      rw [first_outcome snapshotInstant _ thisClusterUid _ latest matched, commitOfNamedRun, if_pos whole,
        restored, ← claims_perm snapshotInstant permuted distinct]
      rfl
    | sibling _ unfinished tagged greatest =>
      have other : c ≠ named := by
        intro same
        have whole := (mem_filter.mp greatest.member).2
        rw [same, unfinished] at whole
        cases whole
      have left : c ∈ snaps.erase named := (mem_erase_of_ne other).mpr present
      have permuted : ((named :: (snaps.erase named).erase c) ++ [c]).Perm snaps :=
        (((perm_append_comm.trans (perm_cons_erase left).symm).cons named)).trans (perm_cons_erase member).symm
      refine ⟨(named :: (snaps.erase named).erase c) ++ [c], permuted, ?_⟩
      have last := last_chosen _ permuted greatest
      have whole : completesRun ((named :: (snaps.erase named).erase c) ++ [c]) named = false := by
        rw [completes_perm permuted]
        exact unfinished
      rw [cons_append] at last whole permuted ⊢
      rw [first_outcome snapshotInstant _ thisClusterUid _ latest matched, commitOfNamedRun,
        if_neg (by rw [whole]; exact Bool.false_ne_true), if_neg tagged, restored,
        ← claims_perm snapshotInstant permuted distinct]
      simp only [last]
      rfl

theorem startless_reached (member : named ∈ snaps) (text : requested ≠ "latest")
    (matched : namedBy requested named = true) (startless : ∀ c, ¬ Starts snapshotInstant snaps named c) :
    ∃ others : List Document, others.Perm snaps ∧ outcome snapshotInstant others requested thisClusterUid = none := by
  have permuted := (perm_cons_erase member).symm
  refine ⟨named :: snaps.erase named, permuted, ?_⟩
  rw [first_outcome snapshotInstant _ thisClusterUid _ text matched]
  cases commit : commitOfNamedRun snapshotInstant (named :: snaps.erase named) named requested with
  | error why => rfl
  | ok c =>
    have starts := commit_starts _ commit
    exact absurd (starts_perm _ permuted.symm starts) (startless c)

structure Resolves (snaps : List Document) : Prop where
  orderFree : ∀ others : List Document, others.Perm snaps →
    outcome snapshotInstant others requested thisClusterUid = outcome snapshotInstant snaps requested thisClusterUid
  whole : requested ≠ "latest" → ∀ run, resolveRunSnapshots snapshotInstant snaps requested thisClusterUid = .ok run →
    ∀ s ∈ snaps, Text.startsWith s.idOf requested = true → s.idOf ∈ runIds run
  claims : ∀ run, resolveRunSnapshots snapshotInstant snaps requested thisClusterUid = .ok run →
    ∃ c ∈ snaps, c.idOf = run.commit ∧
      ∀ id ∈ run.claims, c.firstTag ≠ "" ∧ ∃ s ∈ snaps, s.idOf = id ∧ s.firstTag = c.firstTag

theorem starts_run (member : named ∈ snaps)
    (starts : Starts snapshotInstant snaps named c) : named.idOf ∈ c.idOf :: claimsOf snapshotInstant snaps c := by
  cases starts with
  | itself _ => exact mem_cons_self
  | sibling _ _ tagged greatest =>
    have same : c.firstTag = named.firstTag := of_decide_eq_true (mem_filter.mp (mem_of_mem_filter greatest.member)).2
    by_cases itself : named.idOf = c.idOf
    · rw [itself]
      exact mem_cons_self
    · refine mem_cons_of_mem _ ((mem_claims snapshotInstant snaps c named.idOf).mpr ⟨same ▸ tagged, ?_⟩)
      exact ⟨named, member, itself, same.symm, rfl⟩

theorem resolved_claims (run : RunSnapshots)
    (resolved : resolveRunSnapshots snapshotInstant snaps requested thisClusterUid = .ok run) :
    ∃ c ∈ snaps, c.idOf = run.commit ∧
      ∀ id ∈ run.claims, c.firstTag ≠ "" ∧ ∃ s ∈ snaps, s.idOf = id ∧ s.firstTag = c.firstTag := by
  obtain ⟨c, candidate, same⟩ := outcome_some _ resolved
  obtain ⟨commit, claims⟩ := Prod.mk.inj same
  refine ⟨c, candidate_mem _ candidate, commit.symm, fun id member => ?_⟩
  rw [claims] at member
  obtain ⟨tagged, s, present, _, sameTag, named⟩ := (mem_claims snapshotInstant snaps c id).mp member
  exact ⟨tagged, s, present, named, sameTag⟩

theorem named_by_start {s : Document} (starts : Text.startsWith s.idOf requested = true) : namedBy requested s = true := by
  simp [namedBy, starts]

theorem order_free_start (distinct : (snaps.map Document.idOf).Nodup) (orderFree : ∀ others : List Document, others.Perm snaps →
      outcome snapshotInstant others requested thisClusterUid = outcome snapshotInstant snaps requested thisClusterUid) :
    OneStart snapshotInstant requested thisClusterUid snaps := by
  have single : ∀ c d, Candidate snapshotInstant snaps requested thisClusterUid c →
      Candidate snapshotInstant snaps requested thisClusterUid d → c = d := by
    intro c d first second
    obtain ⟨one, permuted, meantOne⟩ := candidate_reached _ _ _ distinct first
    obtain ⟨two, permutedToo, meantTwo⟩ := candidate_reached _ _ _ distinct second
    rw [orderFree one permuted] at meantOne
    rw [orderFree two permutedToo, meantOne] at meantTwo
    exact inj_on_of_nodup_map distinct (candidate_mem _ first)
      (candidate_mem _ second) (congrArg Prod.fst (some.inj meantTwo))
  refine ⟨single, fun text c candidate named member matched => ?_⟩
  by_cases some_ : ∃ d, Starts snapshotInstant snaps named d
  · obtain ⟨d, starts⟩ := some_
    have other : Candidate snapshotInstant snaps requested thisClusterUid d := by
      rw [Candidate, if_neg text]
      exact ⟨named, member, matched, starts⟩
    rw [single c d candidate other]
    exact starts
  · obtain ⟨one, permuted, refused⟩ := startless_reached _ _ thisClusterUid member text matched (not_exists.mp some_)
    obtain ⟨two, permutedToo, meant⟩ := candidate_reached _ _ _ distinct candidate
    rw [orderFree two permutedToo, ← orderFree one permuted, refused] at meant
    cases meant

-- A request resolves to one run, whatever the listing's order, exactly when it can mean only one.
theorem resolve_order_exact (snaps : List Document) (distinct : (snaps.map Document.idOf).Nodup) :
    Resolves snapshotInstant requested thisClusterUid snaps ↔ OneStart snapshotInstant requested thisClusterUid snaps := by
  constructor
  · intro resolves
    exact order_free_start snapshotInstant requested thisClusterUid distinct resolves.orderFree
  · intro one
    refine ⟨fun others permuted => one_start_order_free snapshotInstant requested thisClusterUid permuted distinct one,
      fun text run resolved s member starts => ?_, resolved_claims snapshotInstant requested thisClusterUid⟩
    obtain ⟨c, candidate, same⟩ := outcome_some snapshotInstant resolved
    obtain ⟨commit, claims⟩ := Prod.mk.inj same
    rw [runIds, commit, claims]
    exact starts_run snapshotInstant member (one.every text c candidate s member (named_by_start requested starts))

end Request

end Named

def fridayClaim : Document := sampleDocument "a1" "2026-09-25T03:00:00Z" "2026-09-25T03:00:00Z" "/staging/claim-0"

def fridayCommit : Document := sampleDocument "a2" "2026-09-25T03:00:00Z" "2026-09-25T03:00:00Z" "/staging/commit"

theorem friday_starts (c : Document) : Starts septemberClock (fridayRun ++ saturdayRun) fridayClaim c ↔ c = fridayCommit := by
  have unfinished : completesRun (fridayRun ++ saturdayRun) fridayClaim = false := by decide +kernel
  constructor
  · intro starts
    cases starts with
    | itself completes =>
      cases completes
    | sibling _ _ _ greatest =>
      have only : ∀ d ∈ (((fridayRun ++ saturdayRun).filter fun s => s.firstTag = fridayClaim.firstTag).filter
          (completesRun (fridayRun ++ saturdayRun))), d = fridayCommit := by decide +kernel
      exact only c greatest.member
  · rintro rfl
    exact .sibling fridayCommit unfinished (by decide +kernel) ⟨by decide +kernel, by decide +kernel⟩

-- A claim named by its id resolves to the commit of its run.
theorem friday_resolves : Resolves septemberClock "a1" none (fridayRun ++ saturdayRun) := by
  have named : ∀ s ∈ fridayRun ++ saturdayRun, namedBy "a1" s = true → s = fridayClaim := by decide +kernel
  have only : ∀ c, Candidate septemberClock (fridayRun ++ saturdayRun) "a1" none c → c = fridayCommit := by
    intro c candidate
    rw [Candidate, if_neg (by decide)] at candidate
    obtain ⟨s, member, matched, starts⟩ := candidate
    rw [named s member matched] at starts
    exact (friday_starts c).mp starts
  refine (resolve_order_exact septemberClock "a1" none (fridayRun ++ saturdayRun) (by decide)).mpr ⟨?_, ?_⟩
  · intro c d first second
    rw [only c first, only d second]
  · intro _ c candidate s member matched
    rw [named s member matched, only c candidate]
    exact (friday_starts fridayCommit).mpr rfl

def twoRuns : List Document :=
  [sampleDocument "a1" "2026-09-25T03:00:00Z" "2026-09-25T03:00:00Z" "/staging/data",
    sampleDocument "a2" "2026-09-26T03:00:00Z" "2026-09-26T03:00:00Z" "/staging/data"]

-- A text that the ids of two runs start with means whichever is listed first.
theorem ambiguous_text_guessed : ¬ Resolves septemberClock "a" none twoRuns := by
  intro resolves
  have swapped := resolves.orderFree twoRuns.reverse (reverse_perm twoRuns)
  have different : outcome septemberClock twoRuns.reverse "a" none ≠ outcome septemberClock twoRuns "a" none := by
    decide +kernel
  exact different swapped

end AppRafter.Backup
