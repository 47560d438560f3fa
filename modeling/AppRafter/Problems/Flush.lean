import AppRafter.Lib.Budget
import AppRafter.Problems.Bounds

set_option autoImplicit false

namespace AppRafter.Problems

open Lib List
open Platform (Rfc3339 numSeconds)

structure ProblemTuning where
  ttlSecs : Int := 3600
  refreshFloorSecs : Int := 900

section Decision

variable (time : Rfc3339)

def ageOut (rows : List RecentProblem) (ttlSecs now : Int) : List RecentProblem :=
  let cutoff := now - ttlSecs * 1000000000
  rows.filter fun row => (time.read row.lastSeen).all fun seen => decide (cutoff < seen)

def stale (row : RecentProblem) (now refreshFloorSecs : Int) : Bool :=
  (time.read row.lastSeen).all fun seen => decide (refreshFloorSecs ≤ numSeconds (now - seen))

def worthOne (written : List RecentProblem) (now refreshFloorSecs : Int) (computed : RecentProblem) : Bool :=
  match written.find? fun row => row.reason == computed.reason with
  | none => true
  | some row => row.message != computed.message || stale time row now refreshFloorSecs

def gone (computed : List RecentProblem) (row : RecentProblem) : Bool := !computed.any fun other => other.reason == row.reason

def problemsWriteIsWorthIt (written computed : List RecentProblem) (now refreshFloorSecs : Int) : Bool :=
  computed.any (worthOne time written now refreshFloorSecs) || written.any (gone computed)

def mergeRow (merged : List RecentProblem) (row : RecentProblem) : List RecentProblem :=
  if merged.any fun other => other.reason == row.reason then merged else merged ++ [row]

def mergeWritten (ledger written : List RecentProblem) : List RecentProblem := written.foldl mergeRow ledger

end Decision

structure Flush where
  time : Int
  decided : Bool
  left : Nat
deriving DecidableEq

section Flushes

variable (time : Rfc3339) (tuning : ProblemTuning) (ledger : List RecentProblem) (written : List RecentProblem)

def computedAt (now : Int) : List RecentProblem :=
  ageOut time (mergeWritten ledger written) tuning.ttlSecs now

def decidesAt (now : Int) : Bool :=
  problemsWriteIsWorthIt time written (computedAt time tuning ledger written now) now tuning.refreshFloorSecs

def flushAt (now : Int) : Flush :=
  ⟨now, decidesAt time tuning ledger written now,
    (written.filter (gone (computedAt time tuning ledger written now))).length⟩

def writtenAfter (now : Int) : List RecentProblem :=
  if decidesAt time tuning ledger written now then computedAt time tuning ledger written now else written

def flushes : List RecentProblem → List Int → List Flush
  | _, [] => []
  | written, now :: later => flushAt time tuning ledger written now :: flushes (writtenAfter time tuning ledger written now) later

def floorNanos : Int := tuning.refreshFloorSecs * 1000000000

def Spaced (run : List Flush) : Prop :=
  ∀ before window after, run = before ++ window ++ after →
    (∀ first ∈ window, ∀ second ∈ window, second.time - first.time < floorNanos tuning) →
    (window.filter (·.decided)).length ≤ 1 + total (·.left) window

-- Each was seen less than the floor ago, or the flush comes the floor after the last.
def Refreshed : Option Int → List RecentProblem → List Int → Prop
  | _, _, [] => True
  | previous, written, now :: later =>
    ((∀ row ∈ computedAt time tuning ledger written now, stale time row now tuning.refreshFloorSecs = false) ∨
      ∀ last, previous = some last → floorNanos tuning ≤ now - last) ∧
    Refreshed (some now) (writtenAfter time tuning ledger written now) later

end Flushes

section Merge

def Once (rows : List RecentProblem) : Prop := (rows.map (·.reason)).Nodup

variable {rows : List RecentProblem} {row : RecentProblem}

theorem once_same (once : Once rows) {first second : RecentProblem} (member : first ∈ rows)
    (other : second ∈ rows) (same : first.reason = second.reason) : first = second :=
  inj_on_of_nodup_map once member other same

theorem once_find (once : Once rows) (member : row ∈ rows) : rows.find? (fun other => other.reason == row.reason) = some row := by
  cases found : rows.find? fun other => other.reason == row.reason with
  | none => simpa using find?_eq_none.mp found row member
  | some other =>
    have named : other.reason = row.reason := by simpa using find?_some found
    rw [once_same once (mem_of_find?_eq_some found) member named]

theorem merge_row_cases (merged : List RecentProblem) (row : RecentProblem) :
    mergeRow merged row = merged ∨ (mergeRow merged row = merged ++ [row] ∧ ∀ other ∈ merged, other.reason ≠ row.reason) := by
  by_cases held : (merged.any fun other => other.reason == row.reason) = true
  · exact .inl (if_pos held)
  · refine .inr ⟨if_neg held, ?_⟩
    simpa using held

theorem merge_row_once {merged : List RecentProblem} (row : RecentProblem) (once : Once merged) : Once (mergeRow merged row) := by
  rcases merge_row_cases merged row with same | ⟨grown, fresh⟩
  · rwa [same]
  · rw [grown, Once, map_append, nodup_append]
    refine ⟨once, by simp, ?_⟩
    intro reason member other single
    obtain ⟨held, listed, rfl⟩ := mem_map.mp member
    obtain rfl : other = row.reason := by simpa using single
    exact fresh held listed

variable (ledger written : List RecentProblem)

theorem merge_once (once : Once ledger) : Once (mergeWritten ledger written) := by
  induction written generalizing ledger with
  | nil => exact once
  | cons row rest ih => exact ih _ (merge_row_once row once)

theorem merge_ledger (member : row ∈ ledger) : row ∈ mergeWritten ledger written := by
  induction written generalizing ledger with
  | nil => exact member
  | cons other rest ih =>
    apply ih
    rcases merge_row_cases ledger other with same | ⟨grown, _⟩
    · rwa [same]
    · rw [grown]
      exact mem_append_left _ member

theorem mem_merge (row : RecentProblem) (member : row ∈ mergeWritten ledger written) : row ∈ ledger ∨ row ∈ written := by
  induction written generalizing ledger with
  | nil => exact .inl member
  | cons other rest ih =>
    rcases ih _ member with merged | later
    · rcases merge_row_cases ledger other with same | ⟨grown, _⟩
      · exact .inl (same ▸ merged)
      · rw [grown] at merged
        rcases mem_append.mp merged with held | single
        · exact .inl held
        · exact .inr (mem_singleton.mp single ▸ mem_cons_self)
    · exact .inr (mem_cons_of_mem _ later)

end Merge

section Settled

variable (time : Rfc3339) (tuning : ProblemTuning) (ledger : List RecentProblem)

-- What it lists of the ledger is the ledger's own, and what is still due is listed.
structure Settled (written : List RecentProblem) (at_ : Int) : Prop where
  once : Once written
  due : ∀ row ∈ ageOut time ledger tuning.ttlSecs at_, row ∈ written

theorem mem_age_out (rows : List RecentProblem) (now : Int) (row : RecentProblem) : row ∈ ageOut time rows tuning.ttlSecs now ↔
      row ∈ rows ∧ (time.read row.lastSeen).all (fun seen => decide (now - tuning.ttlSecs * 1000000000 < seen)) = true := by
  rw [ageOut, mem_filter]

variable {now : Int} {row : RecentProblem} {written : List RecentProblem}

theorem age_out_later {rows : List RecentProblem} {earlier : Int} (later : earlier ≤ now)
    (listed : row ∈ ageOut time rows tuning.ttlSecs now) : row ∈ ageOut time rows tuning.ttlSecs earlier := by
  rw [mem_age_out] at listed ⊢
  refine ⟨listed.1, ?_⟩
  cases read : time.read row.lastSeen with
  | none => rfl
  | some seen =>
    have young := listed.2
    simp only [read, Option.all_some, decide_eq_true_eq] at young ⊢
    omega

theorem written_settled (written : List RecentProblem) (now : Int) (once : Once ledger) :
    Settled time tuning ledger (computedAt time tuning ledger written now) now where
  once := (merge_once _ written once).sublist (filter_sublist.map _)
  due := by
    intro row listed
    rw [mem_age_out] at listed
    rw [computedAt, mem_age_out]
    exact ⟨merge_ledger _ written listed.1, listed.2⟩

theorem settled_later {earlier : Int} (later : earlier ≤ now)
    (settled : Settled time tuning ledger written earlier) : Settled time tuning ledger written now where
  once := settled.once
  due := fun row listed => settled.due row (age_out_later time _ later listed)

theorem settled_after (once : Once ledger) (settled : Settled time tuning ledger written now) :
    Settled time tuning ledger (writtenAfter time tuning ledger written now) now := by
  unfold writtenAfter
  by_cases decided : decidesAt time tuning ledger written now = true
  · rw [if_pos decided]
    exact written_settled time tuning _ written now once
  · rw [if_neg decided]
    exact settled

theorem settled_listed (settled : Settled time tuning ledger written now) (listed : row ∈ computedAt time tuning ledger written now) : row ∈ written := by
  rw [computedAt, mem_age_out] at listed
  rcases mem_merge _ _ row listed.1 with held | own
  · exact settled.due row ((mem_age_out time tuning ledger now row).mpr ⟨held, listed.2⟩)
  · exact own

-- Only for a problem that leaves, or one listed and unseen for the floor.
theorem settled_decides (settled : Settled time tuning ledger written now)
    (decided : (flushAt time tuning ledger written now).decided = true) :
    (flushAt time tuning ledger written now).left ≠ 0 ∨
      ∃ row ∈ computedAt time tuning ledger written now, stale time row now tuning.refreshFloorSecs = true := by
  rw [flushAt, decidesAt, problemsWriteIsWorthIt, Bool.or_eq_true] at decided
  rcases decided with worth | dropped
  · right
    obtain ⟨row, listed, reason⟩ := any_eq_true.mp worth
    refine ⟨row, listed, ?_⟩
    have own := settled_listed time _ _ settled listed
    rw [worthOne, once_find settled.once own] at reason
    simpa using reason
  · left
    obtain ⟨row, own, leaves⟩ := any_eq_true.mp dropped
    have counted : row ∈ written.filter (gone (computedAt time tuning ledger written now)) := mem_filter.mpr ⟨own, leaves⟩
    exact Nat.pos_iff_ne_zero.mp (length_pos_of_mem counted)

end Settled

section Runs

variable (time : Rfc3339) (tuning : ProblemTuning) (ledger : List RecentProblem)

theorem later_spaced (once : Once ledger) (start : Int) (times : List Int) (written : List RecentProblem) (last : Int)
    (after : start ≤ last) (increasing : (last :: times).Pairwise (· < ·)) (settled : Settled time tuning ledger written last)
    (refreshed : Refreshed time tuning ledger (some last) written times) :
    ∀ flush ∈ flushes time tuning ledger written times, flush.decided = true → flush.left = 0 →
      floorNanos tuning ≤ flush.time - start := by
  induction times generalizing written last with
  | nil => simp [flushes]
  | cons now later ih =>
    obtain ⟨ahead, ordered⟩ := pairwise_cons.mp increasing
    have next : last < now := ahead now mem_cons_self
    have current := settled_later time _ _ (le_of_lt next) settled
    obtain ⟨fresh, rest⟩ := refreshed
    intro flush member decided kept
    rcases mem_cons.mp member with rfl | further
    · rcases settled_decides time _ _ current decided with leaves | ⟨row, listed, old⟩
      · exact absurd kept leaves
      · rcases fresh with young | apart
        · rw [young row listed] at old
          cases old
        · have gap := apart last rfl
          change floorNanos tuning ≤ now - start
          omega
    · exact ih _ now (by omega) ordered (settled_after time _ _ once current) rest flush further decided kept

def Apart (first second : Flush) : Prop :=
  first.decided = true → second.decided = true → second.left = 0 → floorNanos tuning ≤ second.time - first.time

theorem flushes_apart (once : Once ledger) (times : List Int) (increasing : times.Pairwise (· < ·))
    (written : List RecentProblem) (previous : Option Int) (refreshed : Refreshed time tuning ledger previous written times) :
    (flushes time tuning ledger written times).Pairwise (Apart tuning) := by
  induction times generalizing written previous with
  | nil => exact List.Pairwise.nil
  | cons now later ih =>
    obtain ⟨_, rest⟩ := refreshed
    refine pairwise_cons.mpr ⟨?_, ih (pairwise_cons.mp increasing).2 _ _ rest⟩
    intro flush member decided again kept
    have wrote : decidesAt time tuning ledger written now = true := decided
    have settled : Settled time tuning ledger (writtenAfter time tuning ledger written now) now := by
      rw [writtenAfter, if_pos wrote]
      exact written_settled time tuning _ written now once
    exact later_spaced time _ _ once now later _ now (le_refl now) increasing settled rest flush member again kept

theorem apart_counts {window : List Flush} (apart : window.Pairwise (Apart tuning))
    (short : ∀ first ∈ window, ∀ second ∈ window, second.time - first.time < floorNanos tuning) :
    (window.filter (·.decided)).length ≤ 1 + total (·.left) window := by
  induction window with
  | nil => simp
  | cons flush rest ih =>
    obtain ⟨first, others⟩ := pairwise_cons.mp apart
    rw [total]
    by_cases decided : flush.decided = true
    · have excused : ∀ later ∈ rest.filter (·.decided), 1 ≤ later.left := by
        intro later member
        obtain ⟨inside, again⟩ := mem_filter.mp member
        by_contra staying
        have near := short flush mem_cons_self later (mem_cons_of_mem _ inside)
        have far := first later inside decided again (by omega)
        omega
      have counted : (rest.filter (·.decided)).length ≤ total (·.left) (rest.filter (·.decided)) := by
        have ones := total_le _ (fun later : Flush => later.left) excused
        have length : total (fun _ : Flush => 1) (rest.filter (·.decided)) = (rest.filter (·.decided)).length := by
          induction rest.filter (·.decided) with
          | nil => rfl
          | cons _ more count => rw [total, count, length_cons, Nat.add_comm]
        omega
      have within := total_sublist (·.left) (rest.filter (·.decided)) rest filter_sublist
      have longer : ((flush :: rest).filter (·.decided)).length = (rest.filter (·.decided)).length + 1 := by
        simp [decided]
      omega
    · have earlier := ih others fun one member two listed =>
        short one (mem_cons_of_mem _ member) two (mem_cons_of_mem _ listed)
      have same : (flush :: rest).filter (·.decided) = rest.filter (·.decided) := by
        simp [decided]
      rw [same]
      omega

theorem snapshot_once (held : ProblemLedger) (object : ObjectKey) : Once (snapshot time held object) := by
  unfold snapshot Once
  cases held.find object with
  | none => simp
  | some perObject =>
    have same : ((perObject.entries.map fun entry => (⟨entry.1, entry.2.message, time.write entry.2.firstSeen,
        time.write entry.2.lastSeen, entry.2.count⟩ : RecentProblem)).insertionSort fun a b => a.firstSeen ≤ b.firstSeen).Perm
        (perObject.entries.map fun entry => (⟨entry.1, entry.2.message, time.write entry.2.firstSeen,
        time.write entry.2.lastSeen, entry.2.count⟩ : RecentProblem)) := perm_insertionSort _ _
    refine (same.map _).nodup_iff.mpr ?_
    rw [map_map]
    exact perObject.keys_nodup

theorem problem_flush_spaced (held : ProblemLedger) (object : ObjectKey) (written : List RecentProblem) (times : List Int)
    (increasing : times.Pairwise (· < ·))
    (refreshed : Refreshed time tuning (snapshot time held object) none written times) :
    Spaced tuning (flushes time tuning (snapshot time held object) written times) := by
  intro before window after split short
  have apart := flushes_apart time tuning _ (snapshot_once time held object) times increasing written none refreshed
  rw [split] at apart
  exact apart_counts tuning (pairwise_append.mp (pairwise_append.mp apart).1).2.1 short

end Runs

section Example

def epochTime : Rfc3339 where
  write := fun _ => "1970-01-01T00:00:00+00:00"
  read := fun text => if text = "1970-01-01T00:00:00+00:00" then some 0 else none

def onceFailed : ProblemLedger := record ⟨[], nodup_nil⟩ ⟨"demo", "web", "ClaimPruneFailed", "cannot delete a", 0, 0⟩

theorem recent_problem_spaced : Spaced {} (flushes epochTime {} (snapshot epochTime onceFailed ("demo", "web")) []
    [30000000000, 60000000000]) :=
  problem_flush_spaced epochTime {} onceFailed ("demo", "web") [] [30000000000, 60000000000] (by decide)
    ⟨.inl (by decide), .inl (by decide), trivial⟩

-- Nothing new is recorded, and the flush at the floor is followed by another.
theorem old_problem_rewritten : [30000000000, 900000000000, 930000000000].Pairwise (· < · : Int → Int → Prop) ∧
    ¬Spaced {} (flushes epochTime {} (snapshot epochTime onceFailed ("demo", "web")) []
      [30000000000, 900000000000, 930000000000]) := by
  refine ⟨by decide, fun spaced => ?_⟩
  have counted := spaced [⟨30000000000, true, 0⟩] [⟨900000000000, true, 0⟩, ⟨930000000000, true, 0⟩] [] (by decide) (by decide)
  exact absurd counted (by decide)

end Example

end AppRafter.Problems
