import Mathlib.Data.List.Rotate
import AppRafter.Lib.Group
import AppRafter.Platform.Reconcile

set_option autoImplicit false

namespace AppRafter.Problems

open Lib List
open Platform (Rfc3339)

def recentProblemsCap : Nat := 5

def maxTrackedObjects : Nat := 512

def maxMessageLen : Nat := 512

structure RecentProblem where
  reason : String
  message : String
  firstSeen : String
  lastSeen : String
  count : Int64

structure ProblemEntry where
  message : String
  firstSeen : Int
  lastSeen : Int
  count : Int64

abbrev ObjectKey := String × String

structure ProblemLedger where
  objects : List (ObjectKey × Dict ProblemEntry) := []
  keyed : (objects.map Prod.fst).Nodup := by decide

def takeBytes : Nat → List Char → List Char
  | _, [] => []
  | budget, c :: rest => if c.utf8Size ≤ budget then c :: takeBytes (budget - c.utf8Size) rest else []

def truncate (s : String) : String :=
  if Text.byteLen s ≤ maxMessageLen then s else String.ofList (takeBytes maxMessageLen s.toList) ++ "…"

variable (perObject : Dict ProblemEntry)

def newestSighting : Option Int := (perObject.entries.map fun entry => entry.2.lastSeen).max?

-- The hash map is walked from some point on; the first oldest object met goes.
def evictOldestObject (start : Nat) (ledger : ProblemLedger) : Option ObjectKey :=
  (minByKey Prod.snd ((ledger.objects.rotate start).filterMap fun object =>
    (newestSighting object.2).map fun seen => (object.1, seen))).map Prod.fst

def evictOldestReason : Dict ProblemEntry :=
  match minByKey (fun entry => entry.2.lastSeen) perObject.entries with
  | some oldest => perObject.erase oldest.1
  | none => perObject

namespace ProblemLedger

def find (ledger : ProblemLedger) (object : ObjectKey) : Option (Dict ProblemEntry) :=
  (ledger.objects.find? fun held => held.1 == object).map Prod.snd

variable (ledger : ProblemLedger)

theorem removed_keyed (object : ObjectKey) : ((ledger.objects.filter fun held => held.1 != object).map Prod.fst).Nodup :=
  ledger.keyed.sublist (filter_sublist.map Prod.fst)

def evict (object : ObjectKey) : ProblemLedger :=
  ⟨ledger.objects.filter fun held => held.1 != object, ledger.removed_keyed object⟩

theorem put_keyed (object : ObjectKey) (perObject : Dict ProblemEntry) :
    ((((ledger.objects.filter fun held => held.1 != object) ++ [(object, perObject)]).map Prod.fst)).Nodup := by
  rw [map_append, nodup_append]
  refine ⟨ledger.removed_keyed object, by simp, ?_⟩
  intro first member second single
  obtain ⟨held, kept, rfl⟩ := mem_map.mp member
  have apart := (mem_filter.mp kept).2
  obtain rfl : second = object := by simpa using single
  simpa using apart

def put (object : ObjectKey) (perObject : Dict ProblemEntry) : ProblemLedger :=
  ⟨(ledger.objects.filter fun held => held.1 != object) ++ [(object, perObject)], ledger.put_keyed object perObject⟩

end ProblemLedger

structure Sighting where
  ns : String
  name : String
  reason : String
  message : String
  now : Int
  -- Where the walk of the hash map begins.
  start : Nat

def Sighting.object (sighting : Sighting) : ObjectKey := (sighting.ns, sighting.name)

def makeRoom (ledger : ProblemLedger) (sighting : Sighting) : ProblemLedger :=
  if maxTrackedObjects ≤ ledger.objects.length ∧ (ledger.find sighting.object).isNone then
    match evictOldestObject sighting.start ledger with
    | some oldest => ledger.evict oldest
    | none => ledger
  else ledger

def recordReason (sighting : Sighting) : Dict ProblemEntry :=
  match perObject.get sighting.reason with
  | some entry =>
    perObject.insert sighting.reason
      { entry with message := truncate sighting.message, lastSeen := sighting.now, count := entry.count + 1 }
  | none =>
    let grown := perObject.insert sighting.reason ⟨truncate sighting.message, sighting.now, sighting.now, 1⟩
    if recentProblemsCap < grown.entries.length then evictOldestReason grown else grown

def record (ledger : ProblemLedger) (sighting : Sighting) : ProblemLedger :=
  let roomy := makeRoom ledger sighting
  roomy.put sighting.object (recordReason ((roomy.find sighting.object).getD Dict.empty) sighting)

def snapshot (time : Rfc3339) (ledger : ProblemLedger) (object : ObjectKey) : List RecentProblem :=
  match ledger.find object with
  | none => []
  | some perObject =>
    (perObject.entries.map fun entry =>
      ⟨entry.1, entry.2.message, time.write entry.2.firstSeen, time.write entry.2.lastSeen, entry.2.count⟩).insertionSort
      fun a b => a.firstSeen ≤ b.firstSeen

open Option
open Platform (Rfc3339)

structure Bounded (ledger : ProblemLedger) : Prop where
  objects : ledger.objects.length ≤ maxTrackedObjects
  reasons : ∀ object ∈ ledger.objects, object.2.entries.length ≤ recentProblemsCap
  -- An object with nothing to age by would never make room for another.
  filled : ∀ object ∈ ledger.objects, object.2.entries ≠ []

section Find

variable (ledger : ProblemLedger) (object other : ObjectKey) (perObject : Dict ProblemEntry)

theorem find_put_self : (ledger.put object perObject).find object = some perObject := by
  have gone : (ledger.objects.filter fun held => held.1 != object).find? (fun held => held.1 == object) = none := by
    rw [find?_eq_none]
    intro held kept
    have apart := (mem_filter.mp kept).2
    simpa using apart
  simp [ProblemLedger.find, ProblemLedger.put, find?_append, gone]

theorem find_evict_none (absent : ledger.find object = none) : (ledger.evict other).find object = none := by
  rw [ProblemLedger.find, map_eq_none_iff, find?_eq_none] at absent ⊢
  intro held kept
  exact absent held (mem_of_mem_filter kept)

theorem found_held (found : ledger.find object = some perObject) : (object, perObject) ∈ ledger.objects := by
  obtain ⟨held, first, rfl⟩ := map_eq_some_iff.mp found
  have named : held.1 = object := by simpa using find?_some first
  rw [← named]
  exact mem_of_find?_eq_some first

theorem evict_length (held : object ∈ ledger.objects.map Prod.fst) :
    (ledger.evict object).objects.length + 1 = ledger.objects.length := by
  have keys : (ledger.evict object).objects.map Prod.fst = (ledger.objects.map Prod.fst).erase object := by
    rw [ledger.keyed.erase_eq_filter, List.filter_map]
    rfl
  have shorter := congrArg List.length keys
  rw [length_map, length_erase_of_mem held, length_map] at shorter
  have filled : 0 < ledger.objects.length := by simpa using length_pos_of_mem held
  omega

theorem put_length : (ledger.put object perObject).objects.length = (ledger.evict object).objects.length + 1 := by
  simp [ProblemLedger.put, ProblemLedger.evict]

theorem evict_length_le : (ledger.evict object).objects.length ≤ ledger.objects.length := length_filter_le _ _

theorem evict_bounded (bounded : Bounded ledger) : Bounded (ledger.evict object) where
  objects := le_trans (evict_length_le ledger object) bounded.objects
  reasons := fun held kept => bounded.reasons held (mem_of_mem_filter kept)
  filled := fun held kept => bounded.filled held (mem_of_mem_filter kept)

theorem find_bounded (bounded : Bounded ledger) : ((ledger.find object).getD Dict.empty).entries.length ≤ recentProblemsCap := by
  cases found : ledger.find object with
  | none => simp [Dict.empty]
  | some perObject => exact bounded.reasons _ (found_held _ _ _ found)

end Find

section Room

variable (ledger : ProblemLedger) (sighting : Sighting)

theorem make_room_find : (makeRoom ledger sighting).find sighting.object = ledger.find sighting.object := by
  unfold makeRoom
  by_cases full : maxTrackedObjects ≤ ledger.objects.length ∧ (ledger.find sighting.object).isNone
  · rw [if_pos full]
    have absent : ledger.find sighting.object = none := isNone_iff_eq_none.mp full.2
    cases evictOldestObject sighting.start ledger with
    | none => rfl
    | some oldest => rw [absent, find_evict_none _ _ oldest absent]
  · rw [if_neg full]

-- A full ledger has an oldest object, since every object has a sighting.
theorem oldest_held (filled : ∀ object ∈ ledger.objects, object.2.entries ≠ []) (tracked : ledger.objects ≠ []) :
    ∃ oldest, evictOldestObject sighting.start ledger = some oldest ∧ oldest ∈ ledger.objects.map Prod.fst := by
  cases objects : ledger.objects.rotate sighting.start with
  | nil => exact absurd (rotate_eq_nil_iff.mp objects) tracked
  | cons first rest =>
    have seen : ∃ at_, newestSighting first.2 = some at_ := by
      have own : first ∈ ledger.objects := mem_rotate.mp (objects ▸ mem_cons_self)
      have sightings : (first.2.entries.map fun entry => entry.2.lastSeen) ≠ [] := by
        simpa using filled first own
      exact ne_none_iff_exists'.mp fun nothing => sightings (max?_eq_none_iff.mp nothing)
    obtain ⟨at_, seen⟩ := seen
    have candidates : ((ledger.objects.rotate sighting.start).filterMap fun object =>
        (newestSighting object.2).map fun seen => (object.1, seen)) ≠ [] := by
      simp [objects, seen]
    obtain ⟨front, oldest, back, found, split, _⟩ := min_by_key_exists Prod.snd candidates
    refine ⟨oldest.1, by simp [evictOldestObject, found], ?_⟩
    have listed : oldest ∈ (ledger.objects.rotate sighting.start).filterMap fun object =>
        (newestSighting object.2).map fun seen => (object.1, seen) := by
      rw [split]
      simp
    obtain ⟨object, member, built⟩ := mem_filterMap.mp listed
    obtain ⟨_, _, rfl⟩ := map_eq_some_iff.mp built
    exact mem_map_of_mem (mem_rotate.mp member)

theorem make_room_bounded (bounded : Bounded ledger) : Bounded (makeRoom ledger sighting) := by
  unfold makeRoom
  by_cases full : maxTrackedObjects ≤ ledger.objects.length ∧ (ledger.find sighting.object).isNone
  · rw [if_pos full]
    cases evictOldestObject sighting.start ledger with
    | none => exact bounded
    | some oldest => exact evict_bounded _ oldest bounded
  · rw [if_neg full]
    exact bounded

theorem make_room_free (bounded : Bounded ledger) :
    ((makeRoom ledger sighting).evict sighting.object).objects.length < maxTrackedObjects := by
  by_cases held : sighting.object ∈ (makeRoom ledger sighting).objects.map Prod.fst
  · have shorter := evict_length _ _ held
    have fits := (make_room_bounded _ sighting bounded).objects
    omega
  · have absent : ledger.find sighting.object = none := by
      rw [← make_room_find ledger sighting]
      by_contra found
      obtain ⟨perObject, found⟩ := ne_none_iff_exists'.mp found
      exact held (mem_map_of_mem (found_held _ _ _ found))
    refine lt_of_le_of_lt (evict_length_le _ _) ?_
    unfold makeRoom
    by_cases full : maxTrackedObjects ≤ ledger.objects.length
    · rw [if_pos ⟨full, by simp [absent]⟩]
      have tracked : ledger.objects ≠ [] := by
        intro empty
        rw [empty] at full
        exact absurd full (by decide)
      obtain ⟨oldest, found, listed⟩ := oldest_held _ sighting bounded.filled tracked
      have shorter := evict_length _ _ listed
      have fits := bounded.objects
      rw [found]
      dsimp only
      omega
    · rw [if_neg (fun both => full both.1)]
      omega

end Room

section Reasons

variable (perObject : Dict ProblemEntry) (sighting : Sighting)

-- It has a place, one is left, or another reason is the one to go.
def Retained : Prop :=
  sighting.reason ∈ perObject.keys ∨ perObject.entries.length < recentProblemsCap ∨
    ∃ held ∈ perObject.entries, held.2.lastSeen < sighting.now ∨ (held.2.lastSeen = sighting.now ∧ held.1 < sighting.reason)

variable (absent : perObject.get sighting.reason = none)

include absent in
theorem get_none_absent : sighting.reason ∉ perObject.keys := (Dict.get_eq_none perObject sighting.reason).mp absent

theorem keys_length : perObject.keys.length = perObject.entries.length := length_map _

theorem record_reason_known {entry : ProblemEntry} (known : perObject.get sighting.reason = some entry) :
    (recordReason perObject sighting).keys.Perm perObject.keys := by
  rw [recordReason, known]
  refine Dict.insert_keys_same _ ?_
  exact (Dict.mem_keys_iff _ _).mpr ⟨entry, (Dict.get_eq_some _ _ _).mp known⟩

def grown : Dict ProblemEntry := perObject.insert sighting.reason ⟨truncate sighting.message, sighting.now, sighting.now, 1⟩

include absent in
theorem grown_keys : (grown perObject sighting).keys.Perm (sighting.reason :: perObject.keys) :=
  Dict.insert_keys_perm _ (get_none_absent _ _ absent)

include absent in
theorem grown_length : (grown perObject sighting).entries.length = perObject.entries.length + 1 := by
  have lengths := (grown_keys _ _ absent).length_eq
  simpa [keys_length] using lengths

include absent in
-- The first of the least recently seen goes.
theorem record_reason_new :
    recordReason perObject sighting = grown perObject sighting ∧ perObject.entries.length < recentProblemsCap ∨
      ∃ front oldest back, recordReason perObject sighting = (grown perObject sighting).erase oldest.1 ∧
        recentProblemsCap ≤ perObject.entries.length ∧ (grown perObject sighting).entries = front ++ oldest :: back ∧
        FirstLeast (fun entry => entry.2.lastSeen) front oldest back := by
  have read : recordReason perObject sighting =
      if recentProblemsCap < (grown perObject sighting).entries.length then evictOldestReason (grown perObject sighting)
      else grown perObject sighting := by
    rw [recordReason, absent]
    rfl
  have longer := grown_length _ _ absent
  rw [read]
  by_cases full : recentProblemsCap < (grown perObject sighting).entries.length
  · rw [if_pos full]
    have filled : (grown perObject sighting).entries ≠ [] := ne_nil_of_length_pos (by omega)
    obtain ⟨front, oldest, back, found, split, least⟩ := min_by_key_exists (fun entry => entry.2.lastSeen) filled
    exact .inr ⟨front, oldest, back, by rw [evictOldestReason, found], by omega, split, least⟩
  · rw [if_neg full]
    exact .inl ⟨rfl, by omega⟩

theorem record_reason_bounded (fits : perObject.entries.length ≤ recentProblemsCap) :
    (recordReason perObject sighting).entries.length ≤ recentProblemsCap ∧ (recordReason perObject sighting).entries ≠ [] := by
  cases held : perObject.get sighting.reason with
  | some entry =>
    have same := record_reason_known _ _ held
    have lengths := same.length_eq
    rw [keys_length, keys_length] at lengths
    have member := (Dict.get_eq_some _ _ _).mp held
    have filled := length_pos_of_mem member
    exact ⟨by omega, ne_nil_of_length_pos (by omega)⟩
  | none =>
    have longer := grown_length _ _ held
    rcases record_reason_new _ _ held with ⟨kept, room⟩ | ⟨front, oldest, back, dropped, full, split, _⟩
    · rw [kept]
      exact ⟨by omega, ne_nil_of_length_pos (by omega)⟩
    · have listed : oldest.1 ∈ (grown perObject sighting).keys := by
        rw [Dict.keys, split]
        simp
      have shorter : (recordReason perObject sighting).entries.length = (grown perObject sighting).entries.length - 1 := by
        rw [← keys_length, dropped, Dict.erase_keys, length_erase_of_mem listed, keys_length]
      have cap : recentProblemsCap = 5 := rfl
      exact ⟨by omega, ne_nil_of_length_pos (by omega)⟩

theorem kept_iff : sighting.reason ∈ (recordReason perObject sighting).keys ↔ Retained perObject sighting := by
  cases held : perObject.get sighting.reason with
  | some entry =>
    have known : sighting.reason ∈ perObject.keys := (Dict.mem_keys_iff _ _).mpr ⟨entry, (Dict.get_eq_some _ _ _).mp held⟩
    exact iff_of_true ((record_reason_known _ _ held).mem_iff.mpr known) (.inl known)
  | none =>
    have absent := get_none_absent _ _ held
    have present : sighting.reason ∈ (grown perObject sighting).keys := (grown_keys _ _ held).mem_iff.mpr mem_cons_self
    rcases record_reason_new _ _ held with ⟨kept, room⟩ | ⟨front, oldest, back, dropped, full, split, least⟩
    · rw [kept]
      exact iff_of_true present (.inr (.inl room))
    · have own (entry : String × ProblemEntry) : entry ∈ (grown perObject sighting).entries ↔
          entry = (sighting.reason, ⟨truncate sighting.message, sighting.now, sighting.now, 1⟩) ∨
            (entry.1 ≠ sighting.reason ∧ entry ∈ perObject.entries) := Dict.mem_insert _ _ _ _
      have ordered : ∀ entry ∈ back, oldest.1 < entry.1 := by
        have sorted := pairwise_map.mp (grown perObject sighting).ordered
        rw [split] at sorted
        exact (pairwise_cons.mp (pairwise_append.mp sorted).2.1).1
      rw [dropped, Dict.erase_keys, (Dict.keys_nodup _).mem_erase_iff]
      have inside : oldest ∈ (grown perObject sighting).entries := by simp [split]
      constructor
      · rintro ⟨apart, _⟩
        have mine : oldest ∈ perObject.entries := by
          rcases (own oldest).mp inside with same | older
          · exact absurd (congrArg Prod.fst same).symm apart
          · exact older.2
        have fresh : ((sighting.reason, ⟨truncate sighting.message, sighting.now, sighting.now, 1⟩) : String × ProblemEntry) ∈
            front ++ oldest :: back := by
          rw [← split]
          exact (own _).mpr (.inl rfl)
        refine .inr (.inr ⟨oldest, mine, ?_⟩)
        rcases mem_append.mp fresh with early | late
        · exact .inl (least.before _ early)
        · rcases mem_cons.mp late with same | later
          · exact absurd (congrArg Prod.fst same) apart
          · rcases lt_or_eq_of_le (least.after _ later) with older | level
            · exact .inl older
            · exact .inr ⟨level, ordered _ later⟩
      · rintro (known | room | ⟨older, listed, before⟩)
        · exact absurd known absent
        · omega
        · refine ⟨?_, present⟩
          intro same
          have new : oldest = (sighting.reason, ⟨truncate sighting.message, sighting.now, sighting.now, 1⟩) := by
            rcases (own oldest).mp inside with new | ⟨apart, _⟩
            · exact new
            · exact absurd same.symm apart
          have different : older.1 ≠ sighting.reason := by
            intro named
            exact absent ((Dict.mem_keys_iff _ _).mpr ⟨older.2, named ▸ listed⟩)
          have member : older ∈ front ++ oldest :: back := by
            rw [← split]
            exact (own older).mpr (.inr ⟨different, listed⟩)
          rcases mem_append.mp member with early | late
          · have above := least.before older early
            rw [new] at above
            dsimp only at above
            omega
          · rcases mem_cons.mp late with equal | later
            · exact different (equal ▸ same.symm)
            · have above := least.after older later
              have below := ordered older later
              rw [new] at above below
              dsimp only at above below
              rcases before with earlier | ⟨_, first⟩
              · omega
              · exact lt_asymm below first

end Reasons

section Runs

variable (time : Rfc3339)

inductive LedgerCall where
  | record (sighting : Sighting)
  | evict (object : ObjectKey)

def perform (ledger : ProblemLedger) : LedgerCall → ProblemLedger
  | .record sighting => record ledger sighting
  | .evict object => ledger.evict object

def recorded (calls : List LedgerCall) : ProblemLedger := calls.foldl perform {}

variable {ledger : ProblemLedger}

theorem record_bounded (sighting : Sighting) (bounded : Bounded ledger) : Bounded (record ledger sighting) := by
  have roomy := make_room_bounded _ sighting bounded
  have own := record_reason_bounded _ sighting (find_bounded _ sighting.object roomy)
  have kept := evict_bounded _ sighting.object roomy
  have free := make_room_free _ sighting bounded
  constructor
  · rw [record, put_length]
    exact free
  · intro object member
    rcases mem_append.mp member with other | self
    · exact kept.reasons object other
    · rw [mem_singleton.mp self]
      exact own.1
  · intro object member
    rcases mem_append.mp member with other | self
    · exact kept.filled object other
    · rw [mem_singleton.mp self]
      exact own.2

theorem perform_bounded (call : LedgerCall) (bounded : Bounded ledger) : Bounded (perform ledger call) := by
  cases call with
  | record sighting => exact record_bounded sighting bounded
  | evict object => exact evict_bounded _ object bounded

theorem recorded_bounded (calls : List LedgerCall) : Bounded (recorded calls) := by
  induction calls using List.reverseRecOn with
  | nil => exact ⟨by decide, by simp [recorded], by simp [recorded]⟩
  | append_singleton earlier call ih =>
    rw [recorded, foldl_concat]
    exact perform_bounded call ih

theorem snapshot_reasons {object : ObjectKey} {perObject : Dict ProblemEntry}
    (found : ledger.find object = some perObject) (reason : String) :
    reason ∈ (snapshot time ledger object).map (·.reason) ↔ reason ∈ perObject.keys := by
  rw [snapshot, found]
  simp [mem_insertionSort, Dict.keys]

def Shown (ledger : ProblemLedger) (sighting : Sighting) : Prop :=
  sighting.reason ∈ (snapshot time (record ledger sighting) sighting.object).map (·.reason)

theorem ledger_bounded_and_shown_iff (calls : List LedgerCall) (next : Sighting) : Bounded (recorded calls) ∧
      (Shown time (recorded calls) next ↔ Retained (((recorded calls).find next.object).getD Dict.empty) next) := by
  refine ⟨recorded_bounded calls, ?_⟩
  have found : (record (recorded calls) next).find next.object =
      some (recordReason (((makeRoom (recorded calls) next).find next.object).getD Dict.empty) next) := find_put_self _ _ _
  rw [Shown, snapshot_reasons time found, kept_iff, make_room_find]

def wednesday : Rfc3339 where
  write := fun instant => if instant = 5 then "1970-01-01T00:00:00.000000005+00:00" else "1970-01-01T00:00:00.000000010+00:00"
  read := fun text => if text = "1970-01-01T00:00:00.000000005+00:00" then some 5 else some 10

def fiveReasons : List LedgerCall := ["A", "B", "C", "D", "E"].map fun reason => .record ⟨"demo", "web", reason, "m", 10, 0⟩

-- The clock has stepped back before a sixth reason comes up.
theorem sixth_reason_unseen : ¬Shown wednesday (recorded fiveReasons) ⟨"demo", "web", "F", "m", 5, 0⟩ := by
  unfold Shown
  decide

end Runs

end AppRafter.Problems
