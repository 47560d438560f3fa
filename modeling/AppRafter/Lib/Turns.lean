import Mathlib.Data.List.Nodup
import Mathlib.Data.List.Perm.Basic

set_option autoImplicit false

namespace AppRafter.Lib

open List

section Turns

variable {α : Type}

-- Queues served in rounds: the heads in turn, then what is behind them.
def turns : Nat → List (List α) → List α
  | 0, _ => []
  | rounds + 1, queues => queues.filterMap List.head? ++ turns rounds (queues.map List.tail)

theorem heads_tails_perm (queues : List (List α)) :
    (queues.filterMap List.head? ++ (queues.map List.tail).flatten).Perm queues.flatten := by
  induction queues with
  | nil => exact .refl _
  | cons queue rest ih =>
    cases queue with
    | nil =>
      exact ih
    | cons first behind =>
      simp only [filterMap_cons, head?_cons, map_cons, tail_cons, flatten_cons, cons_append]
      refine .cons first ?_
      rw [← append_assoc]
      refine (perm_append_comm.append_right _).trans ?_
      rw [append_assoc]
      exact ih.append_left behind

variable {queues : List (List α)}

theorem turns_idle (idle : ∀ queue ∈ queues, queue = []) (rounds : Nat) : turns rounds queues = [] := by
  induction rounds generalizing queues with
  | zero => rfl
  | succ rounds ih =>
    rw [turns, ih (by simpa using fun queue member => congrArg List.tail (idle queue member)), append_nil]
    exact filterMap_eq_nil_iff.mpr fun queue member => by rw [idle queue member]; rfl

theorem tails_shorter {rounds : Nat} (enough : ∀ queue ∈ queues, queue.length ≤ rounds + 1) :
    ∀ queue ∈ queues.map List.tail, queue.length ≤ rounds := by
  intro tail member
  obtain ⟨queue, listed, rfl⟩ := mem_map.mp member
  have bound := enough queue listed
  rw [length_tail]
  omega

theorem turns_perm {rounds : Nat} (enough : ∀ queue ∈ queues, queue.length ≤ rounds) :
    (turns rounds queues).Perm queues.flatten := by
  induction rounds generalizing queues with
  | zero =>
    have drained : queues.flatten = [] := flatten_eq_nil_iff.mpr fun queue member =>
      length_eq_zero_iff.mp (Nat.le_zero.mp (enough queue member))
    rw [drained]
    exact .refl _
  | succ rounds ih => exact ((ih (tails_shorter enough)).append_left _).trans (heads_tails_perm queues)

theorem turns_add (first later : Nat) (queues : List (List α)) :
    turns (first + later) queues = turns first queues ++ turns later (queues.map (List.drop first)) := by
  induction first generalizing queues with
  | zero =>
    have whole : queues.map (List.drop 0) = queues := map_id queues
    rw [Nat.zero_add, whole]
    rfl
  | succ first ih =>
    have dropped : (queues.map List.tail).map (List.drop first) = queues.map (List.drop (first + 1)) := by simp
    rw [Nat.add_right_comm, turns, turns, ih, dropped, append_assoc]

theorem mem_turns {rounds : Nat} {item : α} :
    item ∈ turns rounds queues ↔ ∃ queue ∈ queues, ∃ i < rounds, queue[i]? = some item := by
  induction rounds generalizing queues with
  | zero => simp [turns]
  | succ rounds ih =>
    rw [turns, mem_append, ih, mem_filterMap]
    constructor
    · rintro (⟨queue, member, head⟩ | ⟨tail, member, i, below, found⟩)
      · exact ⟨queue, member, 0, by omega, head?_eq_getElem? ▸ head⟩
      · obtain ⟨queue, listed, rfl⟩ := mem_map.mp member
        exact ⟨queue, listed, i + 1, by omega, by rwa [getElem?_tail] at found⟩
    · rintro ⟨queue, member, i, below, found⟩
      cases i with
      | zero => exact .inl ⟨queue, member, head?_eq_getElem? ▸ found⟩
      | succ i => exact .inr ⟨queue.tail, mem_map_of_mem member, i, by omega, by rwa [getElem?_tail]⟩

-- A queue told apart by what it holds comes out in its own order.
theorem turns_filter (p : α → Bool) {before after : List (List α)} {queue : List α} (own : ∀ item ∈ queue, p item = true)
    (others : ∀ other ∈ before ++ after, ∀ item ∈ other, p item = false) {rounds : Nat} (enough : queue.length ≤ rounds) :
    (turns rounds (before ++ queue :: after)).filter p = queue := by
  induction rounds generalizing before after queue with
  | zero => exact (length_eq_zero_iff.mp (Nat.le_zero.mp enough)).symm ▸ rfl
  | succ rounds ih =>
    have foreign (queues : List (List α)) (apart : ∀ other ∈ queues, ∀ item ∈ other, p item = false) :
        (queues.filterMap List.head?).filter p = [] := by
      rw [filter_eq_nil_iff]
      intro item member
      obtain ⟨other, listed, head⟩ := mem_filterMap.mp member
      rw [apart other listed item (mem_of_head? head)]
      exact Bool.false_ne_true
    have behind := @ih (before.map List.tail) (after.map List.tail) queue.tail
      (fun item member => own item (mem_of_mem_tail member)) (fun other member item inside => by
        rw [← map_append] at member
        obtain ⟨whole, listed, rfl⟩ := mem_map.mp member
        exact others whole listed item (mem_of_mem_tail inside)) (by rw [length_tail]; omega)
    rw [turns, filter_append, map_append, map_cons, behind, filterMap_append, filter_append,
      foreign before fun other member => others other (mem_append_left _ member)]
    cases queue with
    | nil =>
      rw [filterMap_cons_none rfl, foreign after fun other member => others other (mem_append_right _ member)]
      rfl
    | cons first rest =>
      rw [filterMap_cons_some (head?_cons), filter_cons_of_pos (own first mem_cons_self),
        foreign after fun other member => others other (mem_append_right _ member)]
      rfl

-- What is further ahead in its queue comes out earlier.
theorem turns_fair [DecidableEq α] {queues : List (List α)} (once : queues.flatten.Nodup) {rounds : Nat}
    (enough : ∀ queue ∈ queues, queue.length ≤ rounds) {queue other : List α} (listed : queue ∈ queues) (beside : other ∈ queues)
    {k : Nat} {first second : α} (ahead : queue[k]? = some first) (behind : other[k + 1]? = some second) :
    (turns rounds queues).idxOf first < (turns rounds queues).idxOf second := by
  have long : k + 1 < other.length := (List.getElem?_eq_some_iff.mp behind).1
  have cut := turns_add (k + 1) (rounds - (k + 1)) queues
  rw [show k + 1 + (rounds - (k + 1)) = rounds from by have := enough other beside; omega] at cut
  have early : first ∈ turns (k + 1) queues := mem_turns.mpr ⟨queue, listed, k, by omega, ahead⟩
  have late : second ∈ turns (rounds - (k + 1)) (queues.map (List.drop (k + 1))) := by
    refine mem_turns.mpr ⟨other.drop (k + 1), mem_map_of_mem beside, 0, ?_, by simpa using behind⟩
    have bound := enough other beside
    omega
  have distinct := (turns_perm enough).nodup_iff.mpr once
  rw [cut] at distinct ⊢
  have missing : second ∉ turns (k + 1) queues := fun member => (nodup_append.mp distinct).2.2 _ member _ late rfl
  rw [idxOf_append_of_mem early, idxOf_append_of_notMem missing]
  have place := idxOf_lt_length_of_mem early
  omega

end Turns

end AppRafter.Lib
