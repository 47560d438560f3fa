import Mathlib.Data.List.Induction
import AppRafter.Lib.System
import AppRafter.Lib.Window

set_option autoImplicit false

namespace AppRafter.Platform

open Lib List Option

structure VersionHistoryEntry where
  version : String
  appliedAt : String
  outcome : String
deriving DecidableEq

def versionHistoryCap : Nat := 10

def VersionHistoryEntry.stamp (entry : VersionHistoryEntry) : String × String := (entry.version, entry.appliedAt)

def appendVersionHistory (history : List VersionHistoryEntry) (entry : VersionHistoryEntry) : List VersionHistoryEntry :=
  window versionHistoryCap (history ++ [entry])

def mergeEntry (merged : List VersionHistoryEntry) (entry : VersionHistoryEntry) : List VersionHistoryEntry :=
  if merged.any fun held => held.version == entry.version && held.appliedAt == entry.appliedAt then merged else merged ++ [entry]

def mergeVersionHistory (server ours : List VersionHistoryEntry) : List VersionHistoryEntry :=
  window versionHistoryCap (ours.foldl mergeEntry server)

def noteBump (bumps : List VersionHistoryEntry) (entry : VersionHistoryEntry) : List VersionHistoryEntry :=
  window versionHistoryCap (bumps ++ [entry])

def forgetBumps (bumps recorded : List VersionHistoryEntry) : List VersionHistoryEntry :=
  bumps.filter fun entry => !recorded.contains entry

def appendUnrecorded (history : List VersionHistoryEntry) (entry : VersionHistoryEntry) : List VersionHistoryEntry :=
  if history.contains entry then history else appendVersionHistory history entry

def newHistory (copy unrecorded : List VersionHistoryEntry) : List VersionHistoryEntry := unrecorded.foldl appendUnrecorded copy

-- `shown` holds every history the cache may still give; the other two serve the statements.
structure Ledger where
  first : List VersionHistoryEntry
  landed : List VersionHistoryEntry := []
  server : List VersionHistoryEntry
  shown : List (List VersionHistoryEntry)
  unrecorded : List VersionHistoryEntry := []
  copy : Option (List VersionHistoryEntry) := none
deriving DecidableEq

-- A pass that is cut stops between two of these; the next starts with its own copy.
inductive LedgerEvent where
  | read (copy : List VersionHistoryEntry)
  | land (entry : VersionHistoryEntry) (answered : Bool)
  | rewrite
  | record (answered : Bool)
  | unchanged

variable (s : Ledger)

def Ledger.write (ours : List VersionHistoryEntry) : Ledger :=
  { s with server := mergeVersionHistory s.server ours, shown := mergeVersionHistory s.server ours :: s.shown }

def Ledger.settle : Ledger := { s with unrecorded := forgetBumps s.unrecorded s.unrecorded, copy := none }

def Ledger.landBump (entry : VersionHistoryEntry) (answered : Bool) : Ledger :=
  { s with
    landed := s.landed ++ [entry]
    unrecorded := if answered then noteBump s.unrecorded entry else s.unrecorded
    copy := if answered then s.copy else none }

def Ledger.step : LedgerEvent → Option Ledger
  | .read copy => if copy ∈ s.shown then some { s with copy := some copy } else none
  | .land entry answered => s.copy.map fun _ => s.landBump entry answered
  | .rewrite => s.copy.map s.write
  | .record answered =>
    s.copy.map fun copy =>
      if answered then (s.write (newHistory copy s.unrecorded)).settle
      else { s.write (newHistory copy s.unrecorded) with copy := none }
  | .unchanged => s.copy.bind fun copy => if newHistory copy s.unrecorded = copy then some s.settle else none

def ledger : System Ledger LedgerEvent where
  initial s := s = { first := s.first, server := s.first, shown := [s.first] } ∧ s.first.length ≤ versionHistoryCap ∧
      (s.first.map VersionHistoryEntry.stamp).Nodup
  step := Ledger.step

def Ledger.sent : LedgerEvent → List VersionHistoryEntry
  | .rewrite => s.copy.getD []
  | .record _ => newHistory (s.copy.getD []) s.unrecorded
  | _ => []

def Ledger.fresh : LedgerEvent → Bool
  | .land entry answered => answered && !((s.first ++ s.landed).map VersionHistoryEntry.stamp).contains entry.stamp
  | _ => true

def Ledger.meets (event : LedgerEvent) : Bool :=
  ((s.sent event).all fun entry => s.server.contains entry || s.unrecorded.contains entry) && s.fresh event

section Merge

variable {merged : List VersionHistoryEntry} {entry : VersionHistoryEntry}

theorem merge_absent
    (absent : entry.stamp ∉ merged.map VersionHistoryEntry.stamp) : mergeEntry merged entry = merged ++ [entry] := by
  rw [mergeEntry, if_neg]
  intro found
  obtain ⟨held, member, same⟩ := any_eq_true.mp found
  refine absent (mem_map.mpr ⟨held, member, ?_⟩)
  simpa [VersionHistoryEntry.stamp] using same

theorem merge_present (member : entry ∈ merged) : mergeEntry merged entry = merged := by
  rw [mergeEntry, if_pos]
  exact any_eq_true.mpr ⟨entry, member, by simp⟩

theorem stamps_inj {all : List VersionHistoryEntry} (distinct : (all.map VersionHistoryEntry.stamp).Nodup)
    {one other : VersionHistoryEntry} (first : one ∈ all) (second : other ∈ all) (same : one.stamp = other.stamp) : one = other :=
  inj_on_of_nodup_map distinct first second same

theorem merge_appends (all server ours : List VersionHistoryEntry) (distinct : (all.map VersionHistoryEntry.stamp).Nodup)
    (known : ∀ entry ∈ server, entry ∈ all) (ourKnown : ∀ entry ∈ ours, entry ∈ all) (once : ours.Nodup) :
    ours.foldl mergeEntry server = server ++ ours.filter fun entry => !server.contains entry := by
  induction ours generalizing server with
  | nil => exact (append_nil server).symm
  | cons entry rest ih =>
    obtain ⟨apart, restOnce⟩ := nodup_cons.mp once
    have here := ourKnown entry mem_cons_self
    have later : ∀ other ∈ rest, other ∈ all := fun other member => ourKnown other (mem_cons_of_mem _ member)
    rw [foldl_cons]
    by_cases held : entry ∈ server
    · rw [merge_present held, ih server known later restOnce, filter_cons_of_neg (by simpa using held)]
    · have absent : entry.stamp ∉ server.map VersionHistoryEntry.stamp := by
        intro found
        obtain ⟨other, member, same⟩ := mem_map.mp found
        rw [stamps_inj distinct (known other member) here same] at member
        exact held member
      have grown : ∀ other ∈ server ++ [entry], other ∈ all := by
        intro other member
        rcases mem_append.mp member with old | new
        · exact known other old
        · rwa [mem_singleton.mp new]
      have kept : rest.filter (fun other => !(server ++ [entry]).contains other) =
          rest.filter fun other => !server.contains other := by
        refine filter_congr fun other member => ?_
        have different : other ≠ entry := fun same => apart (same ▸ member)
        simp [different]
      rw [merge_absent absent, ih _ grown later restOnce, kept, filter_cons_of_pos (by simpa using held),
        append_assoc, singleton_append]

end Merge

section Append

variable (copy unrecorded : List VersionHistoryEntry)

theorem append_unrecorded_shape (short : copy.length ≤ versionHistoryCap) :
    ∃ pushed, newHistory copy unrecorded = window versionHistoryCap (copy ++ pushed) ∧ pushed.Sublist unrecorded ∧
      ∀ entry ∈ unrecorded, entry ∉ copy → entry ∈ pushed := by
  induction unrecorded using List.reverseRecOn with
  | nil => exact ⟨[], by rw [append_nil, window_short short]; rfl, List.Sublist.slnil, nofun⟩
  | append_singleton earlier last ih =>
    obtain ⟨pushed, shape, sub, all⟩ := ih
    have step : newHistory copy (earlier ++ [last]) = appendUnrecorded (newHistory copy earlier) last := foldl_concat _ _ _ _
    by_cases held : last ∈ newHistory copy earlier
    · refine ⟨pushed, ?_, sub.trans (sublist_append_left _ _), ?_⟩
      · rw [step, appendUnrecorded, if_pos (by simpa using held), shape]
      · intro entry member outside
        rcases mem_append.mp member with old | new
        · exact all entry old outside
        · rw [mem_singleton.mp new] at outside ⊢
          rw [shape] at held
          rcases mem_append.mp ((window_suffix _ _).subset held) with inside | there
          · exact absurd inside outside
          · exact there
    · refine ⟨pushed ++ [last], ?_, sub.append (List.Sublist.refl _), ?_⟩
      · rw [step, appendUnrecorded, if_neg (by simpa using held), appendVersionHistory, shape, window_front, append_assoc]
      · intro entry member outside
        rcases mem_append.mp member with old | new
        · exact mem_append_left _ (all entry old outside)
        · exact mem_append_right _ new

theorem new_history_once (once : copy.Nodup) : (newHistory copy unrecorded).Nodup := by
  induction unrecorded using List.reverseRecOn with
  | nil => exact once
  | append_singleton earlier last ih =>
    have step : newHistory copy (earlier ++ [last]) = appendUnrecorded (newHistory copy earlier) last := foldl_concat _ _ _ _
    rw [step, appendUnrecorded]
    by_cases held : last ∈ newHistory copy earlier
    · rwa [if_pos (by simpa using held)]
    · rw [if_neg (by simpa using held)]
      refine List.Nodup.sublist (window_suffix _ _).sublist (nodup_append'.mpr ⟨ih, nodup_singleton last, ?_⟩)
      intro entry old new
      exact held (mem_singleton.mp new ▸ old)

-- What is sent or unrecorded is on the server or unrecorded: the write adds what it lacks.
theorem sent_adds {copy unrecorded server : List VersionHistoryEntry} (short : copy.length ≤ versionHistoryCap)
    (few : unrecorded.length ≤ versionHistoryCap) (once : unrecorded.Nodup)
    (known : ∀ entry ∈ newHistory copy unrecorded, entry ∈ server ∨ entry ∈ unrecorded)
    (recorded : ∀ entry ∈ copy, entry ∈ unrecorded → entry ∈ server) :
    (newHistory copy unrecorded).filter (fun entry => !server.contains entry) =
      unrecorded.filter fun entry => !server.contains entry := by
  obtain ⟨pushed, shape, sub, all⟩ := append_unrecorded_shape copy unrecorded short
  have fits : pushed.length ≤ versionHistoryCap := Nat.le_trans sub.length_le few
  have split : newHistory copy unrecorded = window (versionHistoryCap - pushed.length) copy ++ pushed := by
    rw [shape, window_append, window_short fits]
  have front : (window (versionHistoryCap - pushed.length) copy).filter (fun entry => !server.contains entry) = [] := by
    refine filter_eq_nil_iff.mpr fun entry member => ?_
    have held : entry ∈ newHistory copy unrecorded := split ▸ mem_append_left _ member
    have onServer : entry ∈ server := by
      rcases known entry held with here | waiting
      · exact here
      · exact recorded entry ((window_suffix _ _).subset member) waiting
    simpa using onServer
  rw [split, filter_append, front]
  refine sublist_whole (sub.filter _) (once.filter _) fun entry member => ?_
  obtain ⟨waiting, missing⟩ := mem_filter.mp member
  have absent : entry ∉ server := by simpa using missing
  exact mem_filter.mpr ⟨all entry waiting fun inside => absent (recorded entry inside waiting), missing⟩

end Append

section Runs

-- `before` and `recorded` are on the server; the unrecorded bumps are the newest of the others.
structure Divided (s : Ledger) (before recorded pending : List VersionHistoryEntry) : Prop where
  landed : s.landed = before ++ recorded ++ pending
  server : s.server = window versionHistoryCap (s.first ++ (before ++ recorded))
  unrecorded : s.unrecorded = window versionHistoryCap (recorded ++ pending)
  shown : ∀ history ∈ s.shown, ∀ entry ∈ history, entry ∈ s.first ++ (before ++ recorded)

structure LedgerInv (s : Ledger) : Prop where
  stamps : ((s.first ++ s.landed).map VersionHistoryEntry.stamp).Nodup
  sizes : ∀ history ∈ s.shown, history.length ≤ versionHistoryCap
  once : ∀ history ∈ s.shown, history.Nodup
  copy : ∀ copy, s.copy = some copy → copy ∈ s.shown
  divided : ∃ before recorded pending, Divided s before recorded pending

theorem merged_length (server ours : List VersionHistoryEntry) : (mergeVersionHistory server ours).length ≤ versionHistoryCap :=
  window_length _ _

theorem forget_all (bumps : List VersionHistoryEntry) : forgetBumps bumps bumps = [] := by
  refine filter_eq_nil_iff.mpr fun entry member => ?_
  simpa using member

section Write

variable {s : Ledger} {before recorded pending copy : List VersionHistoryEntry} (inv : LedgerInv s)
  (divided : Divided s before recorded pending) (given : s.copy = some copy)

include inv in
theorem all_distinct : (s.first ++ s.landed).Nodup := List.Nodup.of_map _ inv.stamps

variable {entry : VersionHistoryEntry}

include divided

theorem server_known (entry : VersionHistoryEntry) (held : entry ∈ s.server) :
    entry ∈ s.first ++ s.landed := by
  rw [divided.server] at held
  rw [divided.landed, ← append_assoc]
  exact mem_append_left _ ((window_suffix _ _).subset held)

theorem unrecorded_known (held : entry ∈ s.unrecorded) : entry ∈ s.first ++ s.landed := by
  rw [divided.unrecorded] at held
  rw [divided.landed, append_assoc]
  exact mem_append_right _ (mem_append_right _ ((window_suffix _ _).subset held))

include inv

theorem pending_off_server (waiting : entry ∈ pending) : entry ∉ s.first ++ (before ++ recorded) := by
  have distinct := all_distinct inv
  rw [divided.landed, ← append_assoc] at distinct
  intro there
  exact (nodup_append'.mp distinct).2.2 there waiting

theorem recorded_on_server (waiting : entry ∈ s.unrecorded) (seen : entry ∈ s.first ++ (before ++ recorded)) :
    entry ∈ s.server := by
  rw [divided.unrecorded, window_append] at waiting
  rcases mem_append.mp waiting with here | there
  · rw [divided.server, ← append_assoc, window_append]
    have suffix : window (versionHistoryCap - pending.length) recorded <:+ window versionHistoryCap recorded := by
      rw [← window_window recorded (Nat.sub_le _ _)]
      exact window_suffix _ _
    exact mem_append_right _ (suffix.subset here)
  · exact absurd seen (pending_off_server inv divided ((window_suffix _ _).subset there))

theorem unrecorded_missing :
    s.unrecorded.filter (fun entry => !s.server.contains entry) = window versionHistoryCap pending := by
  have split : s.unrecorded = window (versionHistoryCap - pending.length) recorded ++ window versionHistoryCap pending := by
    rw [divided.unrecorded, window_append]
  have front : (window (versionHistoryCap - pending.length) recorded).filter (fun entry => !s.server.contains entry) = [] := by
    refine filter_eq_nil_iff.mpr fun entry member => ?_
    have seen : entry ∈ s.first ++ (before ++ recorded) :=
      mem_append_right _ (mem_append_right _ ((window_suffix _ _).subset member))
    have held := recorded_on_server inv divided (split ▸ mem_append_left _ member) seen
    simpa using held
  have back : (window versionHistoryCap pending).filter (fun entry => !s.server.contains entry) =
      window versionHistoryCap pending := by
    refine filter_eq_self.mpr fun entry member => ?_
    have absent : entry ∉ s.server := by
      intro held
      rw [divided.server] at held
      exact pending_off_server inv divided ((window_suffix _ _).subset member) ((window_suffix _ _).subset held)
    simpa using absent
  rw [split, filter_append, front, back, nil_append]

theorem unrecorded_once : s.unrecorded.Nodup := by
  have distinct := (nodup_append'.mp (all_distinct inv)).2.1
  rw [divided.landed, append_assoc] at distinct
  rw [divided.unrecorded]
  exact (nodup_append'.mp distinct).2.1.sublist (window_suffix _ _).sublist

include given

theorem record_merges (known : ∀ entry ∈ newHistory copy s.unrecorded, entry ∈ s.server ∨ entry ∈ s.unrecorded) :
    mergeVersionHistory s.server (newHistory copy s.unrecorded) = window versionHistoryCap (s.first ++ s.landed) := by
  have few : s.unrecorded.length ≤ versionHistoryCap := by
    rw [divided.unrecorded]
    exact window_length _ _
  have shown := inv.copy copy given
  have onServer : ∀ entry ∈ copy, entry ∈ s.unrecorded → entry ∈ s.server := fun entry member waiting =>
    recorded_on_server inv divided waiting (divided.shown copy shown entry member)
  have once := unrecorded_once inv divided
  have ourKnown : ∀ entry ∈ newHistory copy s.unrecorded, entry ∈ s.first ++ s.landed := by
    intro entry member
    rcases known entry member with held | waiting
    · exact server_known divided entry held
    · exact unrecorded_known divided waiting
  have adds := sent_adds (inv.sizes copy shown) few once known onServer
  have sentOnce := new_history_once copy s.unrecorded (inv.once copy shown)
  rw [mergeVersionHistory, merge_appends _ s.server _ inv.stamps (server_known divided) ourKnown sentOnce, adds,
    unrecorded_missing inv divided, window_back, divided.server, window_front, divided.landed]
  simp only [append_assoc]

theorem rewrite_keeps (known : ∀ entry ∈ copy, entry ∈ s.server ∨ entry ∈ s.unrecorded) :
    mergeVersionHistory s.server copy = s.server := by
  have shown := inv.copy copy given
  have onServer : ∀ entry ∈ copy, entry ∈ s.server := by
    intro entry member
    rcases known entry member with held | waiting
    · exact held
    · exact recorded_on_server inv divided waiting (divided.shown copy shown entry member)
  have nothing : copy.filter (fun entry => !s.server.contains entry) = [] := by
    refine filter_eq_nil_iff.mpr fun entry member => ?_
    simpa using onServer entry member
  rw [mergeVersionHistory, merge_appends _ s.server copy inv.stamps (server_known divided)
    (fun entry member => server_known divided entry (onServer entry member)) (inv.once copy shown),
    nothing, append_nil, divided.server, window_window _ (Nat.le_refl _)]

theorem unchanged_recorded (same : newHistory copy s.unrecorded = copy) : pending = [] := by
  have shown := inv.copy copy given
  obtain ⟨pushed, shape, sub, all⟩ := append_unrecorded_shape copy s.unrecorded (inv.sizes copy shown)
  have few : s.unrecorded.length ≤ versionHistoryCap := by
    rw [divided.unrecorded]
    exact window_length _ _
  have split : copy = window (versionHistoryCap - pushed.length) copy ++ pushed := by
    rw [window_append, window_short (Nat.le_trans sub.length_le few)] at shape
    exact same.symm.trans shape
  refine (window_empty versionHistoryCap pending (by decide)).mp (eq_nil_iff_forall_not_mem.mpr fun entry member => ?_)
  have waiting : entry ∈ s.unrecorded := by
    rw [divided.unrecorded, window_append]
    exact mem_append_right _ member
  have inside : entry ∈ copy := by
    by_contra outside
    exact outside (split ▸ mem_append_right _ (all entry waiting outside))
  exact pending_off_server inv divided ((window_suffix _ _).subset member) (divided.shown copy shown entry inside)

end Write

theorem initial_inv (start : ledger.initial s) : LedgerInv s := by
  obtain ⟨shape, short, distinct⟩ := start
  rw [shape] at *
  refine ⟨by simpa using distinct, ?_, ?_, fun copy given => (nomatch given), [], [], [], rfl, ?_, rfl, ?_⟩
  · intro history member
    rw [mem_singleton.mp member]
    exact short
  · intro history member
    rw [mem_singleton.mp member]
    exact List.Nodup.of_map _ distinct
  · simp [window_short short]
  · intro history member entry held
    rw [mem_singleton.mp member] at held
    simpa using held

variable {s : Ledger} {before recorded : List VersionHistoryEntry}

theorem write_divided {ours : List VersionHistoryEntry} {pending : List VersionHistoryEntry}
    (divided : Divided s before recorded pending)
    (merged : mergeVersionHistory s.server ours = window versionHistoryCap (s.first ++ s.landed)) :
    Divided (s.write ours) before (recorded ++ pending) [] where
  landed := by
    rw [append_nil]
    exact divided.landed.trans (append_assoc _ _ _)
  server := by
    change mergeVersionHistory s.server ours = _
    rw [merged, divided.landed, append_assoc before recorded pending]
    rfl
  unrecorded := by
    rw [append_nil]
    exact divided.unrecorded
  shown := by
    intro history member entry held
    rcases mem_cons.mp member with rfl | earlier
    · rw [merged, divided.landed, append_assoc before recorded pending] at held
      exact (window_suffix _ _).subset held
    · have seen := divided.shown history earlier entry held
      simp only [mem_append] at seen ⊢
      tauto

theorem write_inv (s : Ledger) (ours : List VersionHistoryEntry) (inv : LedgerInv s)
    (merged : mergeVersionHistory s.server ours = window versionHistoryCap (s.first ++ s.landed) ∨
      mergeVersionHistory s.server ours = s.server) : LedgerInv (s.write ours) := by
  obtain ⟨before, recorded, pending, divided⟩ := inv.divided
  have known : (mergeVersionHistory s.server ours).Nodup := by
    rcases merged with all | same
    · rw [all]
      exact (all_distinct inv).sublist (window_suffix _ _).sublist
    · rw [same, divided.server]
      have distinct := all_distinct inv
      rw [divided.landed, ← append_assoc] at distinct
      exact (nodup_append'.mp distinct).1.sublist (window_suffix _ _).sublist
  refine ⟨inv.stamps, ?_, ?_, ?_, ?_⟩
  · exact forall_mem_cons.mpr ⟨merged_length _ _, inv.sizes⟩
  · exact forall_mem_cons.mpr ⟨known, inv.once⟩
  · exact fun copy given => mem_cons_of_mem _ (inv.copy copy given)
  · rcases merged with all | same
    · exact ⟨before, recorded ++ pending, [], write_divided divided all⟩
    · refine ⟨before, recorded, pending, divided.landed, same.trans divided.server, divided.unrecorded, ?_⟩
      intro history member entry held
      rcases mem_cons.mp member with rfl | earlier
      · rw [same, divided.server] at held
        exact (window_suffix _ _).subset held
      · exact divided.shown history earlier entry held

theorem settle_inv (inv : LedgerInv s) (divided : Divided s before recorded []) : LedgerInv s.settle where
  stamps := inv.stamps
  sizes := inv.sizes
  once := inv.once
  copy _ given := nomatch given
  divided := by
    refine ⟨before ++ recorded, [], [], ?_, ?_, forget_all _, ?_⟩
    · rw [append_nil]
      exact divided.landed
    · rw [append_nil]
      exact divided.server
    · rw [append_nil]
      exact divided.shown

theorem land_inv (s : Ledger) (entry : VersionHistoryEntry) (inv : LedgerInv s)
    (fresh : entry.stamp ∉ (s.first ++ s.landed).map VersionHistoryEntry.stamp) : LedgerInv (s.landBump entry true) := by
  obtain ⟨before, recorded, pending, divided⟩ := inv.divided
  refine ⟨?_, inv.sizes, inv.once, inv.copy, before, recorded, pending ++ [entry], ?_, divided.server, ?_, divided.shown⟩
  · change ((s.first ++ (s.landed ++ [entry])).map VersionHistoryEntry.stamp).Nodup
    rw [← append_assoc, map_append]
    refine nodup_append'.mpr ⟨inv.stamps, nodup_singleton _, ?_⟩
    intro stamp old new
    exact fresh (mem_singleton.mp new ▸ old)
  · change s.landed ++ [entry] = _
    rw [divided.landed, append_assoc]
  · change noteBump s.unrecorded entry = _
    rw [noteBump, divided.unrecorded, window_front, append_assoc]

theorem meets_known {event : LedgerEvent} (meets : s.meets event = true) (entry : VersionHistoryEntry)
    (member : entry ∈ s.sent event) : entry ∈ s.server ∨ entry ∈ s.unrecorded := by
  have either := all_eq_true.mp (Bool.and_eq_true_iff.mp meets).1 entry member
  simpa using either

theorem step_inv (s t : Ledger) (event : LedgerEvent) (inv : LedgerInv s) (meets : s.meets event = true)
    (taken : s.step event = some t) : LedgerInv t := by
  obtain ⟨before, recorded, pending, divided⟩ := inv.divided
  have known := meets_known meets
  cases event with
  | read copy =>
    change (if copy ∈ s.shown then _ else none) = some t at taken
    by_cases shown : copy ∈ s.shown
    · rw [if_pos shown] at taken
      cases taken
      refine ⟨inv.stamps, inv.sizes, inv.once, ?_, before, recorded, pending,
        ⟨divided.landed, divided.server, divided.unrecorded, divided.shown⟩⟩
      intro other given
      rwa [← some.inj given]
    · rw [if_neg shown] at taken
      cases taken
  | land entry answered =>
    obtain ⟨copy, _, rfl⟩ := map_eq_some_iff.mp taken
    have fresh : answered = true ∧ entry.stamp ∉ (s.first ++ s.landed).map VersionHistoryEntry.stamp := by
      have both := (Bool.and_eq_true_iff.mp meets).2
      simpa [Ledger.fresh] using both
    rw [fresh.1]
    exact land_inv s entry inv fresh.2
  | rewrite =>
    obtain ⟨copy, given, rfl⟩ := map_eq_some_iff.mp taken
    rw [Ledger.sent, given] at known
    exact write_inv s copy inv (.inr (rewrite_keeps inv divided given known))
  | record answered =>
    obtain ⟨copy, given, rfl⟩ := map_eq_some_iff.mp taken
    rw [Ledger.sent, given] at known
    have merged := record_merges inv divided given known
    have written := write_inv s _ inv (.inl merged)
    have whole := write_divided divided merged
    cases answered with
    | true => exact settle_inv written whole
    | false =>
      exact ⟨written.stamps, written.sizes, written.once, fun _ absent => (nomatch absent), before, _, [],
        ⟨whole.landed, whole.server, whole.unrecorded, whole.shown⟩⟩
  | unchanged =>
    obtain ⟨copy, given, taken⟩ := bind_eq_some_iff.mp taken
    by_cases same : newHistory copy s.unrecorded = copy
    · rw [if_pos same] at taken
      cases taken
      have none := unchanged_recorded inv divided given same
      rw [none] at divided
      exact settle_inv inv divided
    · rw [if_neg same] at taken
      cases taken

-- With no bump unrecorded, the history is the last ten of the initial one and the bumps.
theorem history_is_tail (s : Ledger) (reachable : (ledger.restrict Ledger.meets).Reachable s) (settled : s.unrecorded = []) :
    s.server = window versionHistoryCap (s.first ++ s.landed) ∧ s.server.Nodup := by
  have inv : LedgerInv s := by
    refine (ledger.restrict Ledger.meets).invariant LedgerInv initial_inv ?_ s reachable
    intro before event after held taken
    obtain ⟨meets, step⟩ := ledger.restrict_step Ledger.meets before after event taken
    exact step_inv before after event held meets step
  obtain ⟨before, recorded, pending, divided⟩ := inv.divided
  have none : pending = [] := by
    have empty := divided.unrecorded.symm.trans settled
    exact (append_eq_nil_iff.mp ((window_empty _ _ (by decide)).mp empty)).2
  have landed : s.landed = before ++ recorded := by rw [divided.landed, none, append_nil]
  have server : s.server = window versionHistoryCap (s.first ++ s.landed) := by rw [landed, divided.server]
  refine ⟨server, ?_⟩
  rw [server]
  exact (all_distinct inv).sublist (window_suffix _ _).sublist

end Runs

def bump (n : Nat) : VersionHistoryEntry := ⟨"1.0." ++ Nat.repr n, "2026-05-20T12:00:0" ++ Nat.repr n, "succeeded"⟩

def firstBumps (n : Nat) : List VersionHistoryEntry := (List.range n).map bump

def steadyRun (n : Nat) : List LedgerEvent :=
  (List.range n).flatMap fun k => [.read (window versionHistoryCap (firstBumps k)), .land (bump k) true, .record true]

def freshLedger : Ledger := { first := [], server := [], shown := [[]] }

theorem two_bumps_recorded : ∃ s, (ledger.restrict Ledger.meets).run freshLedger (steadyRun 2) = some s ∧
    s.server = window versionHistoryCap (s.first ++ s.landed) := by
  obtain ⟨s, finished, settled⟩ : ∃ s, (ledger.restrict Ledger.meets).run freshLedger (steadyRun 2) = some s ∧
      s.unrecorded = [] := by
    refine ⟨{ first := [], landed := firstBumps 2, server := firstBumps 2, shown := [firstBumps 2, firstBumps 1, []] }, ?_, rfl⟩
    decide +kernel
  refine ⟨s, finished, (history_is_tail s ?_ settled).1⟩
  exact (ledger.restrict Ledger.meets).reachable_run freshLedger (.initial _ ⟨rfl, by decide, by decide⟩) _ s finished

-- A pass on the status of before the eleventh bump brings the evicted first one back.
theorem stale_copy_revives : ∃ s, ledger.run freshLedger (steadyRun 11 ++ [.read (firstBumps 10), .rewrite]) = some s ∧
    s.unrecorded = [] ∧ s.landed = firstBumps 11 ∧ s.server = (firstBumps 11).drop 2 ++ [bump 0] ∧
    s.server ≠ window versionHistoryCap (s.first ++ s.landed) := by
  refine ⟨((ledger.run freshLedger (steadyRun 11 ++ [.read (firstBumps 10), .rewrite])).getD freshLedger), ?_⟩
  decide +kernel

end AppRafter.Platform
