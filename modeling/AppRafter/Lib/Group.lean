import AppRafter.Lib.Dict
import Mathlib.Data.List.Basic
import Mathlib.Order.Lattice

set_option autoImplicit false

namespace AppRafter.Lib

open List

variable {α β : Type} [LinearOrder β] (key : α → β)

def lesser (best : Option α) (item : α) : Option α :=
  match best with
  | none => some item
  | some held => if key item < key held then some item else some held

-- Rust's `min_by_key`: of several least, the first.
def minByKey (items : List α) : Option α := items.foldl (lesser key) none

structure FirstLeast (front : List α) (item : α) (back : List α) : Prop where
  before : ∀ other ∈ front, key item < key other
  after : ∀ other ∈ back, key item ≤ key other

theorem min_by_key_concat (front : List α) (last : α) :
    minByKey key (front ++ [last]) = lesser key (minByKey key front) last := by
  simp [minByKey]

theorem min_by_key_exists {items : List α} (filled : items ≠ []) :
    ∃ front item back, minByKey key items = some item ∧ items = front ++ item :: back ∧ FirstLeast key front item back := by
  induction items using List.reverseRecOn with
  | nil => exact absurd rfl filled
  | append_singleton earlier last ih =>
    rw [min_by_key_concat]
    by_cases empty : earlier = []
    · subst empty
      exact ⟨[], last, [], rfl, rfl, by simp, by simp⟩
    · obtain ⟨front, item, back, found, split, least⟩ := ih empty
      rw [found]
      by_cases below : key last < key item
      · refine ⟨earlier, last, [], by simp [lesser, below], rfl, ?_, by simp⟩
        intro other member
        rw [split] at member
        rcases mem_append.mp member with early | late
        · exact lt_trans below (least.before other early)
        · rcases mem_cons.mp late with rfl | later
          · exact below
          · exact lt_of_lt_of_le below (least.after other later)
      · refine ⟨front, item, back ++ [last], by simp [lesser, below], by simp [split], least.before, ?_⟩
        intro other member
        rcases mem_append.mp member with early | late
        · exact least.after other early
        · rw [mem_singleton.mp late]
          exact not_lt.mp below

end AppRafter.Lib

namespace AppRafter.Lib.Dict

open List

variable {α β : Type} (key : β → String) (start : α) (push : α → β → α)

def group (items : List β) : Dict α :=
  items.foldl (fun groups item => groups.insert (key item) (push ((groups.get (key item)).getD start) item)) empty

def members (items : List β) (named : String) : List β := items.filter fun item => key item = named

variable (items : List β) (named : String)

theorem mem_members (item : β) : item ∈ members key items named ↔ item ∈ items ∧ key item = named := by
  rw [members, mem_filter, decide_eq_true_eq]

theorem group_append_one (item : β) : group key start push (items ++ [item]) = (group key start push items).insert (key item)
      (push (((group key start push items).get (key item)).getD start) item) := foldl_concat _ _ _ _

theorem get_group : (group key start push items).get named =
      if members key items named = [] then none else some ((members key items named).foldl push start) := by
  induction items using List.reverseRecOn with
  | nil => rfl
  | append_singleton front last ih =>
    have split : members key (front ++ [last]) named = members key front named ++ members key [last] named :=
      filter_append front [last]
    rw [group_append_one, get_insert, split]
    by_cases same : named = key last
    · subst same
      have single : members key [last] (key last) = [last] := by simp [members]
      have grown : members key front (key last) ++ [last] ≠ [] := append_ne_nil_of_right_ne_nil _ (cons_ne_nil _ _)
      rw [if_pos rfl, single, if_neg grown, foldl_concat, ih]
      by_cases first : members key front (key last) = []
      · rw [first]
        rfl
      · rw [if_neg first]
        rfl
    · have other : members key [last] named = [] := by simp [members, Ne.symm same]
      rw [if_neg same, ih, other, append_nil]

theorem mem_group (built : α) : (named, built) ∈ (group key start push items).entries ↔
      members key items named ≠ [] ∧ built = (members key items named).foldl push start := by
  rw [← get_eq_some, get_group]
  by_cases none_ : members key items named = []
  · rw [if_pos none_]
    exact iff_of_false (fun found => by cases found) fun facts => facts.1 none_
  · rw [if_neg none_, Option.some_inj]
    exact ⟨fun found => ⟨none_, found.symm⟩, fun facts => facts.2.symm⟩

end AppRafter.Lib.Dict

namespace AppRafter.Lib

open List

variable {α β : Type} [Ord β] (key : α → β)

def greater (best : Option α) (item : α) : Option α :=
  match best with
  | none => some item
  | some held => if compare (key held) (key item) = .gt then some held else some item

-- Rust's `max_by_key`: of several greatest, the last.
def maxByKey (items : List α) : Option α := items.foldl (greater key) none

-- The last of the greatest: nothing before it is greater, everything after it is less.
structure LastGreatest (front : List α) (item : α) (back : List α) : Prop where
  before : ∀ other ∈ front, (compare (key other) (key item)).isLE = true
  after : ∀ other ∈ back, compare (key item) (key other) = .gt

variable {item : α} {back front items : List α}

theorem greater_stays (after : ∀ other ∈ back, compare (key item) (key other) = .gt) :
    back.foldl (greater key) (some item) = some item := by
  induction back with
  | nil => rfl
  | cons next rest ih =>
    have stays : greater key (some item) next = some item := if_pos (after next mem_cons_self)
    rw [foldl_cons, stays]
    exact ih fun other member => after other (mem_cons_of_mem next member)

theorem max_by_key_concat (front : List α) (last : α) :
    maxByKey key (front ++ [last]) = greater key (maxByKey key front) last := foldl_concat _ _ _ _

variable [Std.TransOrd β]

theorem max_by_key_some (items : List α) (item : α) (greatest : maxByKey key items = some item) :
    ∃ front back, items = front ++ item :: back ∧ LastGreatest key front item back := by
  induction items using List.reverseRecOn generalizing item with
  | nil => cases greatest
  | append_singleton earlier last ih =>
    rw [max_by_key_concat] at greatest
    have alone : ∀ other ∈ ([] : List α), compare (key last) (key other) = .gt :=
      nofun
    cases best : maxByKey key earlier with
    | none =>
      have empty : earlier = [] := by
        cases earlier using List.reverseRecOn with
        | nil => rfl
        | append_singleton front item =>
          rw [max_by_key_concat] at best
          cases held : maxByKey key front with
          | none =>
            rw [held] at best
            cases best
          | some other =>
            rw [held, greater] at best
            split at best <;> cases best
      rw [best] at greatest
      cases greatest
      exact ⟨[], [], by rw [empty], ⟨nofun, alone⟩⟩
    | some held =>
      obtain ⟨front, back, split_, spec⟩ := ih held best
      rw [best, greater] at greatest
      by_cases less : compare (key held) (key last) = .gt
      · rw [if_pos less] at greatest
        cases greatest
        refine ⟨front, back ++ [last], by rw [split_, append_assoc, cons_append], spec.before, ?_⟩
        intro other member
        rcases mem_append.mp member with early | late
        · exact spec.after other early
        · rw [mem_singleton.mp late]
          exact less
      · rw [if_neg less] at greatest
        cases greatest
        refine ⟨earlier, [], rfl, fun other member => ?_, alone⟩
        have above : (compare (key held) (key last)).isLE = true := Ordering.ne_gt_iff_isLE.mp less
        refine Std.TransCmp.isLE_trans ?_ above
        rw [split_] at member
        rcases mem_append.mp member with early | late
        · exact spec.before other early
        · rcases mem_cons.mp late with same | later
          · rw [same]
            exact Std.ReflCmp.isLE_rfl
          · rw [Std.OrientedCmp.lt_of_gt (spec.after other later)]
            rfl

theorem max_by_key_split (spec : LastGreatest key front item back) : maxByKey key (front ++ item :: back) = some item := by
  rw [maxByKey, foldl_append, foldl_cons]
  have taken : greater key (front.foldl (greater key) none) item = some item := by
    cases best : front.foldl (greater key) none with
    | none => rfl
    | some held =>
      obtain ⟨early, late, split_, _⟩ := max_by_key_some key front held best
      have member : held ∈ front := split_ ▸ mem_append_right early mem_cons_self
      exact if_neg (Ordering.ne_gt_iff_isLE.mpr (spec.before held member))
  rw [taken]
  exact greater_stays key spec.after

theorem max_by_key_filter (keep : α → Bool) (item : α) (greatest : maxByKey key items = some item)
    (kept : keep item = true) : maxByKey key (items.filter keep) = some item := by
  obtain ⟨front, back, split_, spec⟩ := max_by_key_some key items item greatest
  rw [split_, filter_append, filter_cons_of_pos kept]
  exact max_by_key_split key ⟨fun other member => spec.before other (mem_of_mem_filter member),
    fun other member => spec.after other (mem_of_mem_filter member)⟩

theorem max_by_key_mem (greatest : maxByKey key items = some item) : item ∈ items := by
  obtain ⟨front, back, split_, _⟩ := max_by_key_some key items item greatest
  rw [split_]
  exact mem_append_right front mem_cons_self

structure Greatest (items : List α) (item : α) : Prop where
  member : item ∈ items
  above : ∀ other ∈ items, (compare (key other) (key item)).isLE = true

omit [Std.TransOrd β] in
theorem greatest_perm {others : List α} (permuted : others.Perm items) (greatest : Greatest key items item) :
    Greatest key others item :=
  ⟨permuted.mem_iff.mpr greatest.member, fun other member => greatest.above other (permuted.mem_iff.mp member)⟩

theorem max_by_key_greatest (chosen : maxByKey key items = some item) : Greatest key items item := by
  obtain ⟨front, back, rfl, spec⟩ := max_by_key_some key items item chosen
  refine ⟨mem_append_right front mem_cons_self, fun other member => ?_⟩
  rcases mem_append.mp member with early | late
  · exact spec.before other early
  · rcases mem_cons.mp late with same | later
    · rw [same]
      exact Std.ReflCmp.isLE_rfl
    · rw [Std.OrientedCmp.lt_of_gt (spec.after other later)]
      rfl

-- Whichever of the greatest is listed last is chosen.
theorem max_by_key_last (greatest : Greatest key (front ++ [item]) item) : maxByKey key (front ++ [item]) = some item :=
  max_by_key_split key
    ⟨fun other member => greatest.above other (mem_append_left _ member), nofun⟩

omit [Std.TransOrd β] in
theorem max_by_key_exists (inhabited : items ≠ []) : ∃ item, maxByKey key items = some item := by
  cases chosen : maxByKey key items with
  | some item => exact ⟨item, rfl⟩
  | none =>
    cases items using List.reverseRecOn with
    | nil => exact absurd rfl inhabited
    | append_singleton front last =>
      rw [max_by_key_concat] at chosen
      cases held : maxByKey key front with
      | none =>
        rw [held] at chosen
        cases chosen
      | some other =>
        rw [held, greater] at chosen
        split at chosen <;> cases chosen

variable (cmp : α → α → Ordering)

omit [Ord β] [Std.TransOrd β] in
theorem insertion_sorted [Std.TransCmp cmp] (items : List α) :
    (items.insertionSort fun a b => (cmp a b).isLE).Pairwise fun a b => (cmp a b).isLE = true := by
  have total : Std.Total fun a b : α => (cmp a b).isLE = true := ⟨fun a b => by
    cases order : cmp a b with
    | lt => exact .inl rfl
    | eq => exact .inl rfl
    | gt =>
      have behind : cmp b a = .lt := Std.OrientedCmp.lt_of_gt order
      exact .inr (by rw [behind]; rfl)⟩
  have transitive : IsTrans α fun a b => (cmp a b).isLE = true := ⟨fun a b c => Std.TransCmp.isLE_trans⟩
  exact pairwise_insertionSort _ items

omit [Ord β] [Std.TransOrd β] in
-- A sort of items that tie only with themselves does not depend on their order.
theorem insertion_sort_perm [Std.TransCmp cmp] {others : List α} (permuted : others.Perm items)
    (single : ∀ a ∈ items, ∀ b ∈ items, cmp a b = .eq → a = b) :
    others.insertionSort (fun a b => (cmp a b).isLE) = items.insertionSort fun a b => (cmp a b).isLE := by
  have sorted := (perm_insertionSort (fun a b : α => (cmp a b).isLE) others).trans
    (permuted.trans (perm_insertionSort (fun a b : α => (cmp a b).isLE) items).symm)
  refine sorted.eq_of_pairwise ?_ (insertion_sorted cmp others) (insertion_sorted cmp items)
  intro a b first second below above
  have here := permuted.mem_iff.mp ((perm_insertionSort _ others).mem_iff.mp first)
  have there := (perm_insertionSort _ items).mem_iff.mp second
  refine single a here b there ?_
  cases order : cmp a b with
  | lt =>
    rw [Std.OrientedCmp.gt_of_lt order] at above
    cases above
  | eq => rfl
  | gt =>
    rw [order] at below
    cases below

section Stable

variable {α κ : Type} [DecidableEq κ] (r : α → α → Prop) [DecidableRel r] (key : α → κ)

theorem insertion_sort_filter (level : ∀ a b, key a = key b → r a b) (items : List α) (k : κ) :
    (items.insertionSort r).filter (key · = k) = items.filter (key · = k) := by
  have tied : (items.filter (key · = k)).Pairwise r := by
    refine pairwise_of_forall_mem_list fun a first b second => level a b ?_
    have here := of_decide_eq_true (mem_filter.mp first).2
    have there := of_decide_eq_true (mem_filter.mp second).2
    exact here.trans there.symm
  have kept := (sublist_insertionSort tied filter_sublist).filter (key · = k)
  rw [filter_filter] at kept
  simp only [Bool.and_self] at kept
  refine (kept.eq_of_length ?_).symm
  exact ((perm_insertionSort r items).filter _).length_eq.symm

variable (antisymm : ∀ a b, r a b → r b a → key a = key b) (level : ∀ a b, key a = key b → r a b)

omit [DecidableRel r] in
include antisymm in
include level in
-- A sorted list is made up of what it holds under each key.
theorem sorted_determined {first second : List α} (rising : first.Pairwise r) (risingToo : second.Pairwise r)
    (same : ∀ k, first.filter (key · = k) = second.filter (key · = k)) : first = second := by
  have members : ∀ {xs ys : List α}, (∀ k, xs.filter (key · = k) = ys.filter (key · = k)) → ∀ a ∈ xs, a ∈ ys := by
    intro xs ys same a member
    have inside : a ∈ xs.filter (key · = key a) := mem_filter.mpr ⟨member, decide_eq_true rfl⟩
    rw [same (key a)] at inside
    exact mem_of_mem_filter inside
  induction first generalizing second with
  | nil =>
    cases second with
    | nil => rfl
    | cons b bs => exact absurd (members (fun k => (same k).symm) b mem_cons_self) not_mem_nil
  | cons a as ih =>
    cases second with
    | nil => exact absurd (members same a mem_cons_self) not_mem_nil
    | cons b bs =>
      have below : r a b := by
        rcases mem_cons.mp (members (fun k => (same k).symm) b mem_cons_self) with rfl | later
        · exact level b b rfl
        · exact rel_of_pairwise_cons rising later
      have above : r b a := by
        rcases mem_cons.mp (members same a mem_cons_self) with rfl | later
        · exact level a a rfl
        · exact rel_of_pairwise_cons risingToo later
      have keys := antisymm a b below above
      have heads := same (key a)
      rw [filter_cons, filter_cons, if_pos (decide_eq_true rfl), if_pos (decide_eq_true keys.symm)] at heads
      obtain ⟨rfl, _⟩ := List.cons.inj heads
      refine congrArg (a :: ·) (ih rising.of_cons risingToo.of_cons fun k => ?_)
      have here := same k
      simp only [filter_cons] at here
      split at here
      · exact (List.cons.inj here).2
      · exact here

include antisymm in
include level in
-- A stable sort does not look at the order of items with different keys.
theorem insertion_sort_same [Std.Total r] [IsTrans α r] {items others : List α}
    (same : ∀ k, others.filter (key · = k) = items.filter (key · = k)) :
    others.insertionSort r = items.insertionSort r := by
  refine sorted_determined r key antisymm level (pairwise_insertionSort r _) (pairwise_insertionSort r _) fun k => ?_
  rw [insertion_sort_filter r key level, insertion_sort_filter r key level, same k]

omit [DecidableEq κ] in
include antisymm in
include level in
-- A permutation of the items leaves the keys where they are.
theorem insertion_sort_keys [Std.Total r] [IsTrans α r] {items others : List α} (permuted : others.Perm items) :
    (others.insertionSort r).map key = (items.insertionSort r).map key := by
  have sorted := (perm_insertionSort r others).trans (permuted.trans (perm_insertionSort r items).symm)
  have rises : ∀ list : List α, ((list.insertionSort r).map key).Pairwise fun k l => ∀ a b, key a = k → key b = l → r a b := by
    intro list
    rw [pairwise_map]
    refine (pairwise_insertionSort r list).imp fun {a b} below c d first second => ?_
    exact IsTrans.trans c a d (level c a first) (IsTrans.trans a b d below (level b d second.symm))
  refine (sorted.map key).eq_of_pairwise ?_ (rises others) (rises items)
  intro k l first second below above
  obtain ⟨a, _, rfl⟩ := mem_map.mp first
  obtain ⟨b, _, rfl⟩ := mem_map.mp second
  exact antisymm a b (below a b rfl rfl) (above b a rfl rfl)

end Stable

end AppRafter.Lib
