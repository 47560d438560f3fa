import Mathlib.Data.List.Perm.Subperm
import Mathlib.Data.List.Nodup

set_option autoImplicit false

namespace AppRafter.Lib

open List

section Total

variable {α : Type} (weight : α → Nat)

def total : List α → Nat
  | [] => 0
  | item :: rest => weight item + total rest

theorem total_perm {first second : List α} (same : first.Perm second) : total weight first = total weight second := by
  induction same with
  | nil => rfl
  | cons item _ ih => rw [total, total, ih]
  | swap a b rest =>
    simp only [total]
    omega
  | trans _ _ first second => exact first.trans second

variable {β : Type}

theorem total_map (change : β → α) (list : List β) :
    total weight (list.map change) = total (fun item => weight (change item)) list := by
  induction list with
  | nil => rfl
  | cons item rest ih => rw [map_cons, total, total, ih]

theorem total_congr (other : α → Nat) (list : List α) (same : ∀ item ∈ list, weight item = other item) :
    total weight list = total other list := by
  induction list with
  | nil => rfl
  | cons item rest ih =>
    rw [total, total, same item mem_cons_self, ih fun item member => same item (mem_cons_of_mem _ member)]

theorem total_sublist (part whole : List α) (within : part.Sublist whole) : total weight part ≤ total weight whole := by
  induction within with
  | slnil => exact Nat.le_refl 0
  | cons item _ ih =>
    rw [total]
    omega
  | cons_cons item _ ih =>
    rw [total, total]
    omega

-- Items counted once each weigh no more than a list that has them all.
theorem total_subset (part whole : List α) (once : part.Nodup) (within : ∀ item ∈ part, item ∈ whole) :
    total weight part ≤ total weight whole := by
  obtain ⟨arranged, same, sub⟩ := subperm_of_subset once within
  rw [← total_perm weight same]
  exact total_sublist weight _ whole sub

theorem total_filter (list : List α) (keep : α → Bool) :
    total weight list = total weight (list.filter keep) + total weight (list.filter fun item => !keep item) := by
  induction list with
  | nil => rfl
  | cons item rest ih =>
    by_cases kept : keep item = true
    · rw [filter_cons_of_pos kept, filter_cons_of_neg (by simp [kept]), total, total, ih, Nat.add_assoc]
    · rw [filter_cons_of_neg kept, filter_cons_of_pos (by simpa using kept), total, total]
      omega

theorem total_le (other : α → Nat) {list : List α} (below : ∀ item ∈ list, weight item ≤ other item) :
    total weight list ≤ total other list := by
  induction list with
  | nil => exact Nat.le_refl 0
  | cons item rest ih =>
    have first := below item mem_cons_self
    have later := ih fun item member => below item (mem_cons_of_mem _ member)
    rw [total, total]
    omega

-- Shares that have no item in common weigh no more than the whole.
theorem total_apart (share : β → α → Bool) (holders : List β) (list : List α)
    (apart : holders.Pairwise fun first second => ∀ item ∈ list, ¬(share first item = true ∧ share second item = true)) :
    total (fun holder => total weight (list.filter (share holder))) holders ≤ total weight list := by
  induction holders generalizing list with
  | nil => exact Nat.zero_le _
  | cons holder rest ih =>
    obtain ⟨first, others⟩ := pairwise_cons.mp apart
    have left : ∀ other ∈ rest,
        total weight (list.filter (share other)) = total weight ((list.filter fun item => !share holder item).filter (share other)) := by
      intro other member
      rw [filter_filter]
      congr 1
      refine filter_congr fun item listed => ?_
      cases held : share other item with
      | false => rfl
      | true =>
        have free : share holder item = false := by
          by_contra taken
          rw [Bool.not_eq_false] at taken
          exact first other member item listed ⟨taken, held⟩
        simp [free]
    have rest_le := ih (list.filter fun item => !share holder item)
      (others.imp fun disjoint item listed => disjoint item (mem_of_mem_filter listed))
    rw [total, total_congr _ _ rest left, total_filter weight list (share holder)]
    omega

theorem total_filter_le (list : List α) (few many : α → Bool) (wider : ∀ item ∈ list, few item = true → many item = true) :
    total weight (list.filter few) ≤ total weight (list.filter many) := by
  have both : list.filter few = (list.filter many).filter few := by
    rw [filter_filter]
    apply filter_congr
    intro item member
    cases kept : few item with
    | false => rfl
    | true => rw [wider item member kept]; rfl
  rw [both]
  exact total_sublist weight _ _ filter_sublist

end Total

-- Sums of u64 values as a release build computes them.
section Words

def u64Max : Nat := 18446744073709551615

theorem u64_le (n : UInt64) : n.toNat ≤ u64Max := Nat.le_of_lt_succ n.toNat_lt

variable (a b : UInt64)

theorem u64_min_nat : (min a b).toNat = min a.toNat b.toNat := by
  change (if a ≤ b then a else b).toNat = _
  by_cases below : a ≤ b
  · rw [if_pos below, Nat.min_eq_left (UInt64.le_iff_toNat_le.mp below)]
  · have above : b.toNat ≤ a.toNat := Nat.le_of_not_le fun order => below (UInt64.le_iff_toNat_le.mpr order)
    rw [if_neg below, Nat.min_eq_right above]

theorem u64_max_nat : (max a b).toNat = max a.toNat b.toNat := by
  change (if a ≤ b then b else a).toNat = _
  by_cases below : a ≤ b
  · rw [if_pos below, Nat.max_eq_right (UInt64.le_iff_toNat_le.mp below)]
  · have above : b.toNat ≤ a.toNat := Nat.le_of_not_le fun order => below (UInt64.le_iff_toNat_le.mpr order)
    rw [if_neg below, Nat.max_eq_left above]

def saturatingAdd : UInt64 := UInt64.ofNat (min (a.toNat + b.toNat) u64Max)

@[simp]
theorem saturating_add_nat : (saturatingAdd a b).toNat = min (a.toNat + b.toNat) u64Max :=
  UInt64.toNat_ofNat_of_lt' (Nat.lt_succ_of_le (Nat.min_le_right _ _))

def wrappingSum (list : List UInt64) : UInt64 := list.foldl (· + ·) 0

theorem wrapping_sum_nat (list : List UInt64) : (wrappingSum list).toNat = total UInt64.toNat list % 18446744073709551616 := by
  have folded : ∀ start : UInt64,
      (list.foldl (· + ·) start).toNat = (start.toNat + total UInt64.toNat list) % 18446744073709551616 := by
    induction list with
    | nil => exact fun start => (Nat.mod_eq_of_lt start.toNat_lt).symm
    | cons item rest ih =>
      intro start
      rw [foldl_cons, ih, total, UInt64.toNat_add, Nat.mod_add_mod, Nat.add_assoc]
  rw [wrappingSum, folded, UInt64.toNat_zero, Nat.zero_add]

-- Cutting a partial sum off at the bound changes nothing of the sum cut off there.
theorem min_add_min (a b bound : Nat) : min (min a bound + b) bound = min (a + b) bound := by omega

theorem saturating_fold {α : Type} (weight : α → UInt64) (list : List α) (start : UInt64) :
    (list.foldl (fun sum item => saturatingAdd sum (weight item)) start).toNat =
      min (start.toNat + total (fun item => (weight item).toNat) list) u64Max := by
  induction list generalizing start with
  | nil => exact (Nat.min_eq_left (u64_le start)).symm
  | cons item rest ih =>
    rw [foldl_cons, ih, saturating_add_nat, total, min_add_min, Nat.add_assoc]

end Words

section FirstFit

variable {α : Type} (weight : α → Nat) (limit : Nat)

structure Fit (α : Type) where
  taken : List α
  refused : List α

def firstFit (used : Nat) : List α → Fit α
  | [] => ⟨[], []⟩
  | item :: rest =>
    if used + weight item ≤ limit then
      let later := firstFit (used + weight item) rest
      ⟨item :: later.taken, later.refused⟩
    else
      let later := firstFit used rest
      ⟨later.taken, item :: later.refused⟩

variable (used : Nat) (item : α) (rest : List α)

theorem first_fit_take (fits : used + weight item ≤ limit) : firstFit weight limit used (item :: rest) =
      ⟨item :: (firstFit weight limit (used + weight item) rest).taken,
        (firstFit weight limit (used + weight item) rest).refused⟩ := by
  rw [firstFit, if_pos fits]

theorem first_fit_refuse (full : limit < used + weight item) : firstFit weight limit used (item :: rest) =
      ⟨(firstFit weight limit used rest).taken, item :: (firstFit weight limit used rest).refused⟩ := by
  rw [firstFit, if_neg (Nat.not_le.mpr full)]

theorem first_fit_cases (list : List α) (item : α) :
    item ∈ list ↔ item ∈ (firstFit weight limit used list).taken ∨ item ∈ (firstFit weight limit used list).refused := by
  induction list generalizing used with
  | nil => simp [firstFit]
  | cons first rest ih =>
    by_cases fits : used + weight first ≤ limit
    · rw [first_fit_take _ limit used first rest fits, mem_cons, mem_cons, ih, or_assoc]
    · rw [first_fit_refuse _ limit used first rest (Nat.not_le.mp fits), mem_cons, mem_cons, ih used]
      exact or_left_comm

variable {list : List α}

-- What is taken fits as a whole.
theorem first_fit_within (some : (firstFit weight limit used list).taken ≠ []) :
    used + total weight (firstFit weight limit used list).taken ≤ limit := by
  induction list generalizing used with
  | nil => exact absurd rfl some
  | cons first rest ih =>
    by_cases fits : used + weight first ≤ limit
    · rw [first_fit_take _ limit used first rest fits, total]
      by_cases more : (firstFit weight limit (used + weight first) rest).taken = []
      · rw [more]
        exact fits
      · have later := ih _ more
        omega
    · rw [first_fit_refuse _ limit used first rest (Nat.not_le.mp fits)] at some ⊢
      exact ih _ some

-- First fit decides on each item by itself and by what it took of those before.
theorem first_fit_append (front back : List α) : firstFit weight limit used (front ++ back) =
      ⟨(firstFit weight limit used front).taken ++
          (firstFit weight limit (used + total weight (firstFit weight limit used front).taken) back).taken,
        (firstFit weight limit used front).refused ++
          (firstFit weight limit (used + total weight (firstFit weight limit used front).taken) back).refused⟩ := by
  induction front generalizing used with
  | nil => rfl
  | cons first rest ih =>
    by_cases fits : used + weight first ≤ limit
    · rw [cons_append, first_fit_take _ limit used first _ fits, ih,
        first_fit_take _ limit used first _ fits, Nat.add_assoc]
      rfl
    · have full := Nat.not_le.mp fits
      rw [cons_append, first_fit_refuse _ limit used first _ full, ih, first_fit_refuse _ limit used first _ full]
      rfl

-- The items that are not refused are those taken.
theorem first_fit_filter [DecidableEq α] (once : list.Nodup) :
    list.filter (fun item => item ∉ (firstFit weight limit used list).refused) = (firstFit weight limit used list).taken := by
  induction list generalizing used with
  | nil => rfl
  | cons first rest ih =>
    obtain ⟨fresh, distinct⟩ := nodup_cons.mp once
    by_cases fits : used + weight first ≤ limit
    · have taken : first ∉ (firstFit weight limit (used + weight first) rest).refused := fun member =>
        fresh ((first_fit_cases weight limit _ rest first).mpr (.inr member))
      rw [first_fit_take _ limit used first rest fits, filter_cons_of_pos (by simpa using taken), ih _ distinct]
    · rw [first_fit_refuse _ limit used first rest (Nat.not_le.mp fits), filter_cons_of_neg (by simp), ← ih used distinct]
      apply filter_congr
      intro item member
      have other : item ≠ first := fun same => fresh (same ▸ member)
      simp [other]

section Position

variable {before after : List α} (once : (before ++ item :: after).Nodup)

include once

theorem first_fit_refused_at : item ∈ (firstFit weight limit used (before ++ item :: after)).refused ↔
    limit < used + total weight (firstFit weight limit used before).taken + weight item := by
  obtain ⟨_, distinct, apart⟩ := nodup_append.mp once
  have fresh := (nodup_cons.mp distinct).1
  have absent : item ∉ (firstFit weight limit used before).refused := fun member =>
    apart item ((first_fit_cases weight limit used before item).mpr (.inr member)) item mem_cons_self rfl
  rw [first_fit_append, mem_append, or_iff_right absent]
  by_cases fits : used + total weight (firstFit weight limit used before).taken + weight item ≤ limit
  · rw [first_fit_take _ limit _ item after fits]
    refine iff_of_false ?_ (Nat.not_lt.mpr fits)
    exact fun member => fresh ((first_fit_cases weight limit _ after item).mpr (.inr member))
  · rw [first_fit_refuse _ limit _ item after (Nat.not_le.mp fits)]
    exact iff_of_true mem_cons_self (Nat.not_le.mp fits)

theorem first_fit_taken_before [DecidableEq α] :
    before.filter (fun earlier => earlier ∉ (firstFit weight limit used (before ++ item :: after)).refused) =
      (firstFit weight limit used before).taken := by
  obtain ⟨distinct, _, apart⟩ := nodup_append.mp once
  rw [first_fit_append]
  refine Eq.trans (filter_congr ?_) (first_fit_filter weight limit used distinct)
  intro earlier member
  have behind : earlier ∉
      (firstFit weight limit (used + total weight (firstFit weight limit used before).taken) (item :: after)).refused :=
    fun refused => apart earlier member _ ((first_fit_cases weight limit _ _ earlier).mpr (.inr refused)) rfl
  simp [behind]

end Position

-- Every item refused beside `used + extra` is one that `used` alone leaves no room for.
def Justified (extra : Nat) (used : Nat) : List α → Prop
  | [] => True
  | item :: rest =>
    if used + extra + weight item ≤ limit then Justified extra (used + weight item) rest
    else limit < used + weight item ∧ Justified extra used rest

theorem justified_at (extra : Nat) (list : List α) :
    Justified weight limit extra used list ↔ ∀ before item after, list = before ++ item :: after →
      limit < used + extra + total weight (firstFit weight limit (used + extra) before).taken + weight item →
      limit < used + total weight (firstFit weight limit (used + extra) before).taken + weight item := by
  induction list generalizing used with
  | nil =>
    refine iff_of_true trivial ?_
    intro before item after cut
    simp at cut
  | cons first rest ih =>
    by_cases roomy : used + extra + weight first ≤ limit
    · have moved : used + weight first + extra = used + extra + weight first := Nat.add_right_comm ..
      rw [Justified, if_pos roomy, ih, moved]
      constructor
      · intro justified before item after cut full
        cases before with
        | nil =>
          obtain ⟨rfl, rfl⟩ := List.cons.inj cut
          exact absurd roomy (Nat.not_le.mpr full)
        | cons head front =>
          obtain ⟨rfl, within⟩ := List.cons.inj cut
          rw [first_fit_take _ limit _ first front roomy, total] at full ⊢
          have later := justified front item after within (by omega)
          omega
      · intro justified before item after cut full
        have later := justified (first :: before) item after (congrArg (first :: ·) cut)
        rw [first_fit_take _ limit _ first before roomy, total] at later
        omega
    · have refused := Nat.not_le.mp roomy
      rw [Justified, if_neg roomy, ih]
      constructor
      · rintro ⟨full, justified⟩ before item after cut exceeds
        cases before with
        | nil =>
          obtain ⟨rfl, rfl⟩ := List.cons.inj cut
          exact full
        | cons head front =>
          obtain ⟨rfl, within⟩ := List.cons.inj cut
          rw [first_fit_refuse _ limit _ first front refused] at exceeds ⊢
          exact justified front item after within exceeds
      · intro justified
        refine ⟨justified [] first rest rfl refused, ?_⟩
        intro before item after cut full
        have later := justified (first :: before) item after (congrArg (first :: ·) cut)
        rw [first_fit_refuse _ limit _ first before refused] at later
        exact later full

-- That is so just where the extra stays beside all that first fit takes without it.
theorem justified_iff (extra : Nat) (list : List α) : Justified weight limit extra used list ↔
      (firstFit weight limit used list).taken = [] ∨
        used + extra + total weight (firstFit weight limit used list).taken ≤ limit := by
  induction list generalizing used with
  | nil => exact ⟨fun _ => .inl rfl, fun _ => trivial⟩
  | cons first rest ih =>
    by_cases roomy : used + extra + weight first ≤ limit
    · have fits : used + weight first ≤ limit := by omega
      rw [Justified, if_pos roomy, ih, first_fit_take _ limit used first rest fits, total]
      constructor
      · rintro (none | within)
        · rw [none]
          exact .inr roomy
        · right
          omega
      · rintro (none | within)
        · cases none
        · right
          omega
    · rw [Justified, if_neg roomy]
      by_cases fits : used + weight first ≤ limit
      · rw [first_fit_take _ limit used first rest fits, total]
        constructor
        · rintro ⟨full, _⟩
          omega
        · rintro (none | within)
          · cases none
          · omega
      · have full := Nat.not_le.mp fits
        rw [first_fit_refuse _ limit used first rest full, ih]
        exact and_iff_right full

end FirstFit

end AppRafter.Lib
