import Mathlib.Data.Finset.Card
import Mathlib.Data.Finset.Image

set_option autoImplicit false

namespace AppRafter.Lib.Rotation

open List

section Walk

variable {α π : Type} [DecidableEq π] (period : α → π)

-- The newest of each period, for `keep` periods; one in `seen` has had its newest item.
def survivors : Nat → List π → List α → List α
  | _, _, [] => []
  | keep, seen, item :: rest =>
    if period item ∈ seen then survivors keep seen rest
    else
      match keep with
      | 0 => []
      | left + 1 => item :: survivors left (period item :: seen) rest

variable {item : α} {items : List α} (keep : Nat)

theorem survivors_seen {seen : List π} (rest : List α) (old : period item ∈ seen) :
    survivors period keep seen (item :: rest) = survivors period keep seen rest := by
  simp only [survivors, if_pos old]

variable (seen : List π)

theorem survivors_full (items : List α) : survivors period 0 seen items = [] := by
  induction items with
  | nil => rfl
  | cons item rest ih =>
    by_cases old : period item ∈ seen
    · rw [survivors_seen _ 0 rest old, ih]
    · simp only [survivors, if_neg old]

theorem survivors_new (left : Nat) (seen : List π) (item : α) (rest : List α) (new : period item ∉ seen) :
    survivors period (left + 1) seen (item :: rest) = item :: survivors period left (period item :: seen) rest := by
  simp only [survivors, if_neg new]

theorem survivors_sublist (items : List α) : (survivors period keep seen items).Sublist items := by
  induction items generalizing keep seen with
  | nil => exact List.Sublist.refl _
  | cons item rest ih =>
    by_cases old : period item ∈ seen
    · rw [survivors_seen _ keep rest old]
      exact (ih keep seen).cons item
    · cases keep with
      | zero =>
        rw [survivors_full]
        exact nil_sublist _
      | succ left =>
        rw [survivors_new period left seen item rest old]
        exact (ih left (period item :: seen)).cons_cons item

-- What the walk keeps it keeps again of any selection that still holds it.
theorem survivors_stable (items kept : List α) (distinct : items.Nodup)
    (selection : kept.Sublist items) (holds : ∀ item ∈ survivors period keep seen items, item ∈ kept) :
    survivors period keep seen kept = survivors period keep seen items := by
  induction selection generalizing keep seen with
  | slnil => rfl
  | @cons shorter rest item selection ih =>
    obtain ⟨absent, distinct⟩ := nodup_cons.mp distinct
    by_cases old : period item ∈ seen
    · rw [survivors_seen _ keep rest old] at holds ⊢
      exact ih keep seen distinct holds
    · cases keep with
      | zero => rw [survivors_full, survivors_full]
      | succ left =>
        rw [survivors_new period left seen item rest old] at holds
        exact absurd (selection.subset (holds item mem_cons_self)) absent
  | @cons_cons shorter rest item selection ih =>
    obtain ⟨absent, distinct⟩ := nodup_cons.mp distinct
    by_cases old : period item ∈ seen
    · rw [survivors_seen _ keep rest old] at holds ⊢
      rw [survivors_seen _ keep shorter old]
      refine ih keep seen distinct fun other survives => ?_
      rcases mem_cons.mp (holds other survives) with same | later
      · exact absurd (same ▸ (survivors_sublist period keep seen rest).subset survives) absent
      · exact later
    · cases keep with
      | zero => rw [survivors_full, survivors_full]
      | succ left =>
        rw [survivors_new period left seen item rest old] at holds ⊢
        rw [survivors_new period left seen item shorter old]
        refine congrArg _ (ih left (period item :: seen) distinct fun other survives => ?_)
        rcases mem_cons.mp (holds other (mem_cons_of_mem item survives)) with same | later
        · exact absurd (same ▸ (survivors_sublist period left (period item :: seen) rest).subset survives) absent
        · exact later

variable (newer : α → α → Prop) [DecidableRel newer]

def newerPeriods (items : List α) (item : α) : Finset π :=
  ((items.filter fun other => decide (newer other item)).map period).toFinset

theorem mem_newer_periods (items : List α) (item : α) (at_ : π) :
    at_ ∈ newerPeriods period newer items item ↔ ∃ other ∈ items, newer other item ∧ period other = at_ := by
  simp [newerPeriods, and_assoc]

-- It is its period's newest, and fewer than `keep` periods have a newer item.
structure Survives (keep : Nat) (items : List α) (item : α) : Prop where
  listed : item ∈ items
  newest : ∀ other ∈ items, newer other item → period other ≠ period item
  early : (newerPeriods period newer items item).card < keep

variable (asymm : ∀ a b, newer a b → ¬ newer b a)

include asymm in
theorem newer_periods_first {first : α} {rest : List α} (ahead : ∀ other ∈ rest, newer first other) :
    newerPeriods period newer (first :: rest) first = ∅ := by
  refine Finset.eq_empty_of_forall_notMem fun at_ member => ?_
  obtain ⟨other, listed, before, _⟩ := (mem_newer_periods period newer _ _ _).mp member
  rcases mem_cons.mp listed with same | later
  · subst same
    exact asymm _ _ before before
  · exact asymm first other (ahead other later) before

theorem newer_periods_later {first : α} (rest : List α) (before : newer first item) :
    newerPeriods period newer (first :: rest) item = insert (period first) (newerPeriods period newer rest item) := by
  ext at_
  simp only [mem_newer_periods, Finset.mem_insert, mem_cons]
  constructor
  · rintro ⟨other, same | later, newerOther, placed⟩
    · exact .inl (placed ▸ same ▸ rfl)
    · exact .inr ⟨other, later, newerOther, placed⟩
  · rintro (placed | ⟨other, later, newerOther, placed⟩)
    · exact ⟨first, .inl rfl, before, placed.symm⟩
    · exact ⟨other, .inr later, newerOther, placed⟩

include asymm in
theorem mem_survivors_seen (keep : Nat) (seen : List π) (sorted : items.Pairwise newer) (item : α) :
    item ∈ survivors period keep seen items ↔ item ∈ items ∧ period item ∉ seen ∧
      (∀ other ∈ items, newer other item → period other ≠ period item) ∧
      (newerPeriods period newer items item \ seen.toFinset).card < keep := by
  induction items generalizing keep seen with
  | nil => exact ⟨nofun, fun facts => absurd facts.1 not_mem_nil⟩
  | cons first rest ih =>
    obtain ⟨ahead, sorted⟩ := pairwise_cons.mp sorted
    have absent : first ∉ rest := fun member => asymm first first (ahead first member) (ahead first member)
    by_cases same : item = first
    · subst same
      have nothing := newer_periods_first period newer asymm ahead
      have newest : ∀ other ∈ item :: rest, newer other item → period other ≠ period item := by
        intro other listed before
        have counted : period other ∈ newerPeriods period newer (item :: rest) item :=
          (mem_newer_periods period newer _ _ _).mpr ⟨other, listed, before, rfl⟩
        rw [nothing] at counted
        exact absurd counted (Finset.notMem_empty _)
      by_cases old : period item ∈ seen
      · rw [survivors_seen _ keep rest old]
        exact iff_of_false (fun survives => absent ((survivors_sublist period keep seen rest).subset survives))
          fun facts => facts.2.1 old
      · rw [nothing, Finset.empty_sdiff, Finset.card_empty]
        cases keep with
        | zero =>
          rw [survivors_full]
          exact iff_of_false not_mem_nil fun facts => Nat.not_lt_zero 0 facts.2.2.2
        | succ left =>
          rw [survivors_new period left seen item rest old]
          exact iff_of_true mem_cons_self ⟨mem_cons_self, old, newest, Nat.succ_pos left⟩
    · rw [mem_cons, or_iff_right same]
      by_cases member : item ∈ rest
      · have before := ahead item member
        rw [newer_periods_later period newer rest before, forall_mem_cons, imp_iff_right before]
        by_cases old : period first ∈ seen
        · rw [survivors_seen _ keep rest old, ih keep seen sorted, Finset.insert_sdiff_of_mem _ (mem_toFinset.mpr old)]
          refine and_congr_right fun _ => and_congr_right fun new => and_congr_left fun _ => ?_
          exact (and_iff_right fun (equal : period first = period item) => new (equal ▸ old)).symm
        · cases keep with
          | zero =>
            rw [survivors_full]
            exact iff_of_false not_mem_nil fun facts => Nat.not_lt_zero _ facts.2.2.2
          | succ left =>
            have counted : (insert (period first) (newerPeriods period newer rest item) \ seen.toFinset).card =
                (newerPeriods period newer rest item \ (period first :: seen).toFinset).card + 1 := by
              rw [Finset.insert_sdiff_of_notMem _ (fun held => old (mem_toFinset.mp held)),
                ← Finset.card_erase_add_one (Finset.mem_insert_self _ _), Finset.erase_insert_eq_erase,
                toFinset_cons, Finset.sdiff_insert]
            rw [survivors_new period left seen first rest old, mem_cons, or_iff_right same,
              ih left (period first :: seen) sorted, counted, Nat.add_lt_add_iff_right, mem_cons, not_or]
            constructor
            · rintro ⟨_, ⟨other, new⟩, newest, early⟩
              exact ⟨member, new, ⟨fun equal => other equal.symm, newest⟩, early⟩
            · rintro ⟨_, new, ⟨other, newest⟩, early⟩
              exact ⟨member, ⟨fun equal => other equal.symm, new⟩, newest, early⟩
      · exact iff_of_false
          (fun survives => (mem_cons.mp ((survivors_sublist period keep seen _).subset survives)).elim same member)
          fun facts => member facts.1

include asymm in
theorem mem_survivors (keep : Nat) (sorted : items.Pairwise newer) (item : α) :
    item ∈ survivors period keep [] items ↔ Survives period newer keep items item := by
  rw [mem_survivors_seen period newer asymm keep [] sorted item, toFinset_nil, Finset.sdiff_empty]
  constructor
  · rintro ⟨listed, _, newest, early⟩
    exact ⟨listed, newest, early⟩
  · rintro ⟨listed, newest, early⟩
    exact ⟨listed, not_mem_nil, newest, early⟩

-- A survivor of more items is one of any fewer that hold it.
theorem survives_anti {keep : Nat} {fewer : List α} (within : ∀ item ∈ fewer, item ∈ items)
    (listed : item ∈ fewer) (survives : Survives period newer keep items item) :
    Survives period newer keep fewer item where
  listed := listed
  newest other member := survives.newest other (within other member)
  early := by
    refine lt_of_le_of_lt (Finset.card_le_card fun at_ counted => ?_) survives.early
    obtain ⟨other, member, before, placed⟩ := (mem_newer_periods period newer _ _ _).mp counted
    exact (mem_newer_periods period newer _ _ _).mpr ⟨other, within other member, before, placed⟩

theorem survives_congr (keep : Nat) {others : List α} (same : ∀ item, item ∈ items ↔ item ∈ others) (item : α) :
    Survives period newer keep items item ↔ Survives period newer keep others item :=
  ⟨fun survives => survives_anti period newer (fun one => (same one).mpr) ((same item).mp survives.listed) survives,
    fun survives => survives_anti period newer (fun one => (same one).mp) ((same item).mpr survives.listed) survives⟩

include asymm in
-- Items that hold every survivor of more items have the same survivors.
theorem survives_settled (keep : Nat) (items kept sorted : List α)
    (order : sorted.Pairwise newer) (same : ∀ item, item ∈ sorted ↔ item ∈ items)
    (within : ∀ item ∈ kept, item ∈ items) (holds : ∀ item, Survives period newer keep items item → item ∈ kept)
    (item : α) : Survives period newer keep kept item ↔ Survives period newer keep items item := by
  classical
  have distinct : sorted.Nodup := order.imp fun {a b} (before : newer a b) (equal : a = b) => by
    subst equal
    exact asymm a a before before
  have selection : (sorted.filter (· ∈ kept)).Sublist sorted := filter_sublist
  have chosen : ∀ other, other ∈ sorted.filter (· ∈ kept) ↔ other ∈ kept := by
    intro other
    rw [mem_filter, same, decide_eq_true_eq]
    exact and_iff_right_of_imp (within other)
  have whole : ∀ other, Survives period newer keep items other ↔ other ∈ survivors period keep [] sorted := by
    intro other
    rw [mem_survivors period newer asymm keep order]
    exact survives_congr period newer keep (fun one => (same one).symm) other
  have part : ∀ other, Survives period newer keep kept other ↔ other ∈ survivors period keep [] (sorted.filter (· ∈ kept)) := by
    intro other
    rw [mem_survivors period newer asymm keep (order.sublist selection)]
    exact survives_congr period newer keep (fun one => (chosen one).symm) other
  rw [part, whole, survivors_stable period keep [] _ _ distinct selection]
  intro other survives
  exact (chosen other).mpr (holds other ((whole other).mpr survives))

end Walk

section Rules

variable {α π : Type} [DecidableEq π] (newer : α → α → Prop) [DecidableRel newer]

-- How many periods a rule keeps, and which period an item falls in.
structure Rule (α π : Type) where
  keep : Nat
  period : α → π

-- What a rotation keeps: what no rule can place, and what survives under some rule.
structure Kept (placed : α → Bool) (rules : List (Rule α π)) (items : List α) (item : α) : Prop where
  listed : item ∈ items
  reason : placed item = false ∨ ∃ rule ∈ rules, Survives rule.period newer rule.keep (items.filter placed) item

variable {placed : α → Bool} {rules : List (Rule α π)} {items : List α}

theorem kept_anti {fewer : List α} (within : ∀ item ∈ fewer, item ∈ items) {item : α} (listed : item ∈ fewer)
    (kept : Kept newer placed rules items item) : Kept newer placed rules fewer item := by
  refine ⟨listed, kept.reason.imp_right ?_⟩
  rintro ⟨rule, member, survives⟩
  have both : placed item = true := (mem_filter.mp survives.listed).2
  refine ⟨rule, member, survives_anti rule.period newer ?_ (mem_filter.mpr ⟨listed, both⟩) survives⟩
  intro other chosen
  obtain ⟨present, dated⟩ := mem_filter.mp chosen
  exact mem_filter.mpr ⟨within other present, dated⟩

theorem kept_congr (placed : α → Bool) (rules : List (Rule α π)) {others : List α}
    (same : ∀ item, item ∈ items ↔ item ∈ others) (item : α) :
    Kept newer placed rules items item ↔ Kept newer placed rules others item :=
  ⟨fun kept => kept_anti newer (fun one => (same one).mpr) ((same item).mp kept.listed) kept,
    fun kept => kept_anti newer (fun one => (same one).mp) ((same item).mpr kept.listed) kept⟩

-- Rotating early changes nothing.
theorem kept_settled (asymm : ∀ a b, newer a b → ¬ newer b a)
    {held sorted : List α} (order : sorted.Pairwise newer) (same : ∀ item, item ∈ sorted ↔ item ∈ items)
    (within : ∀ item ∈ held, item ∈ items) (holds : ∀ item, Kept newer placed rules items item → item ∈ held)
    (item : α) : Kept newer placed rules held item ↔ Kept newer placed rules items item := by
  have settled : ∀ rule ∈ rules, ∀ other, Survives rule.period newer rule.keep (held.filter placed) other ↔
      Survives rule.period newer rule.keep (items.filter placed) other := by
    intro rule member other
    refine survives_settled rule.period newer asymm rule.keep _ _ (sorted.filter placed)
      (order.sublist filter_sublist) ?_ ?_ ?_ other
    · intro one
      rw [mem_filter, mem_filter, same]
    · intro one chosen
      obtain ⟨present, dated⟩ := mem_filter.mp chosen
      exact mem_filter.mpr ⟨within one present, dated⟩
    · intro one survives
      obtain ⟨present, dated⟩ := mem_filter.mp survives.listed
      exact mem_filter.mpr ⟨holds one ⟨present, .inr ⟨rule, member, survives⟩⟩, dated⟩
  constructor
  · rintro ⟨listed, free | ⟨rule, member, survives⟩⟩
    · exact ⟨within item listed, .inl free⟩
    · exact ⟨within item listed, .inr ⟨rule, member, (settled rule member item).mp survives⟩⟩
  · intro kept
    refine ⟨holds item kept, kept.reason.imp_right ?_⟩
    rintro ⟨rule, member, survives⟩
    exact ⟨rule, member, (settled rule member item).mpr survives⟩

end Rules

end AppRafter.Lib.Rotation
