import Mathlib.Data.List.Nodup

set_option autoImplicit false

namespace AppRafter.Lib

open List Option

-- A manager on record owns the keys named there, or the list whole where none is named.
structure ListMap (Key Entry Manager : Type) where
  live : List Entry
  owners : List (Manager × List Key) := []

namespace ListMap

variable {Key Entry Manager : Type} [DecidableEq Key] [DecidableEq Manager] (map : ListMap Key Entry Manager) (manager : Manager)

def owned : Option (List Key) :=
  (map.owners.find? fun owner => owner.1 = manager).map Prod.snd

def ownsKey (key : Key) : Bool :=
  (map.owned manager).any fun keys => keys.contains key

def heldByOther (key : Key) : Bool :=
  map.owners.any fun owner => decide (owner.1 ≠ manager) && (owner.2.isEmpty || owner.2.contains key)

variable (keyOf : Entry → Key)

def stays (map : ListMap Key Entry Manager) (manager : Manager) (sent : List Entry) (entry : Entry) : Bool :=
  !(sent.map keyOf).contains (keyOf entry) && (!map.ownsKey manager (keyOf entry) || map.heldByOther manager (keyOf entry))

def ownersAfter (keys : List Key) : List (Manager × List Key) :=
  (map.owners.filter fun owner => owner.1 ≠ manager) ++ if keys.isEmpty then [] else [(manager, keys)]

-- An entry owned and no longer sent goes with its last holder. A key twice is refused.
def apply (map : ListMap Key Entry Manager) (manager : Manager) (sent : List Entry) : Option (ListMap Key Entry Manager) :=
  if (sent.map keyOf).Nodup then
    some { live := map.live.filter (map.stays keyOf manager sent) ++ sent, owners := map.ownersAfter manager (sent.map keyOf) }
  else none

section Apply

variable {map after : ListMap Key Entry Manager} {manager : Manager} {sent : List Entry}
variable (applied : map.apply keyOf manager sent = some after)

include applied

theorem apply_live : after.live = map.live.filter (map.stays keyOf manager sent) ++ sent := by
  by_cases once : (sent.map keyOf).Nodup
  · rw [apply, if_pos once] at applied
    rw [← some.inj applied]
  · rw [apply, if_neg once] at applied
    cases applied

theorem apply_owners : after.owners = map.ownersAfter manager (sent.map keyOf) := by
  by_cases once : (sent.map keyOf).Nodup
  · rw [apply, if_pos once] at applied
    rw [← some.inj applied]
  · rw [apply, if_neg once] at applied
    cases applied

end Apply

section Owners

variable (map : ListMap Key Entry Manager) (manager : Manager) (keys : List Key)

omit [DecidableEq Key] in
theorem owned_after_self : ({ map with owners := map.ownersAfter manager keys } : ListMap Key Entry Manager).owned manager =
      if keys.isEmpty then none else some keys := by
  have others : (map.owners.filter fun owner => owner.1 ≠ manager).find? (fun owner => owner.1 = manager) = none := by
    rw [find?_eq_none]
    intro owner member same
    have other := (mem_filter.mp member).2
    simp only [decide_eq_true_eq] at other same
    exact other same
  rw [owned, ownersAfter, find?_append, others]
  cases keys with
  | nil => rfl
  | cons key rest => simp

omit [DecidableEq Key] in

omit [DecidableEq Key] in
theorem mem_owners_after (owner : Manager × List Key) : owner ∈ map.ownersAfter manager keys ↔
      (owner ∈ map.owners ∧ owner.1 ≠ manager) ∨ (keys ≠ [] ∧ owner = (manager, keys)) := by
  rw [ownersAfter, mem_append, mem_filter, decide_eq_true_iff]
  refine or_congr Iff.rfl ?_
  cases keys with
  | nil => simp
  | cons key rest => simp

end Owners

end ListMap

end AppRafter.Lib

namespace AppRafter.Lib

open List

-- Rows under keys the table itself gives out, none twice.
structure Table (Row : Type) (key : Row → Nat) where
  rows : List Row
  next : Nat
  below : ∀ row ∈ rows, key row < next := by decide
  distinct : (rows.map key).Nodup := by decide

namespace Table

variable {Row : Type} {key : Row → Nat}

instance [DecidableEq Row] : DecidableEq (Table Row key) := fun first second =>
  decidable_of_iff (first.rows = second.rows ∧ first.next = second.next) (by
    constructor
    · rintro ⟨rows, next⟩
      cases first
      cases second
      cases rows
      cases next
      rfl
    · rintro rfl
      exact ⟨rfl, rfl⟩)

variable (table : Table Row key)

theorem key_unique (first second : Row) (member : first ∈ table.rows) (other : second ∈ table.rows)
    (same : key first = key second) : first = second :=
  inj_on_of_nodup_map table.distinct member other same

def insert (row : Row) (fresh : key row = table.next) : Table Row key where
  rows := table.rows ++ [row]
  next := table.next + 1
  below := by
    intro other member
    rcases mem_append.mp member with earlier | last
    · exact Nat.lt_succ_of_lt (table.below other earlier)
    · rw [mem_singleton.mp last, fresh]
      exact Nat.lt_succ_self _
  distinct := by
    rw [map_append]
    refine List.Nodup.append table.distinct (nodup_singleton _) ?_
    intro taken earlier last
    obtain ⟨other, member, same⟩ := mem_map.mp earlier
    have bound := table.below other member
    rw [same, mem_singleton.mp last, fresh] at bound
    exact Nat.lt_irrefl _ bound

def remove (at_ : Nat) : Table Row key where
  rows := table.rows.filter fun row => key row ≠ at_
  next := table.next
  below := fun row member => table.below row (mem_filter.mp member).1
  distinct := table.distinct.sublist (filter_sublist.map key)

def mapRows (change : Row → Row) (keeps : ∀ row, key (change row) = key row) : Table Row key where
  rows := table.rows.map change
  next := table.next
  below := by
    intro row member
    obtain ⟨old, held, same⟩ := mem_map.mp member
    rw [← same, keeps]
    exact table.below old held
  distinct := by
    rw [map_map, (funext keeps : key ∘ change = key)]
    exact table.distinct

end Table

end AppRafter.Lib

namespace AppRafter.Lib.Keyed

open List

variable {Item Key : Type} [DecidableEq Key] (key : Item → Key) (items : List Item)

-- A store of items that keeps one item under each key.
def upsert (item : Item) : List Item := (items.filter fun other => key other ≠ key item) ++ [item]

def discard (at_ : Key) : List Item := items.filter fun other => key other ≠ at_

theorem mem_upsert (item other : Item) :
    other ∈ upsert key items item ↔ (other ∈ items ∧ key other ≠ key item) ∨ other = item := by
  simp [upsert, mem_filter]

theorem mem_discard (at_ : Key) (other : Item) :
    other ∈ discard key items at_ ↔ other ∈ items ∧ key other ≠ at_ := by
  simp [discard, mem_filter]

theorem upsert_all (items fresh : List Item) (apart : (fresh.map key).Nodup) :
    fresh.foldl (upsert key) items = (items.filter fun old => key old ∉ fresh.map key) ++ fresh := by
  induction fresh generalizing items with
  | nil => simp
  | cons item rest ih =>
    obtain ⟨first, others⟩ := nodup_cons.mp apart
    have kept : [item].filter (fun old => key old ∉ rest.map key) = [item] := by
      simpa using first
    rw [foldl_cons, ih _ others, upsert, filter_append, kept, filter_filter, append_assoc]
    refine congrArg₂ _ (filter_congr ?_) rfl
    intro old _
    simp only [map_cons, mem_cons, not_or, Bool.decide_and, decide_not, ne_eq]
    exact Bool.and_comm _ _

end AppRafter.Lib.Keyed
