import Mathlib.Data.List.Basic
import Mathlib.Data.List.Nodup

set_option autoImplicit false

namespace AppRafter.Lib

open List

variable {α : Type}

-- The last `size` entries: a ring buffer that drops from the front.
def window (size : Nat) (entries : List α) : List α := entries.drop (entries.length - size)

theorem window_short {size : Nat} {entries : List α} (short : entries.length ≤ size) : window size entries = entries := by
  have none : entries.length - size = 0 := by omega
  rw [window, none, drop_zero]

variable (size : Nat) (entries : List α)

theorem window_length : (window size entries).length ≤ size := by
  rw [window, length_drop]
  omega

theorem window_suffix : window size entries <:+ entries := drop_suffix _ _

variable (front back : List α)

theorem window_append : window size (front ++ back) = window (size - back.length) front ++ window size back := by
  rw [window, window, window, length_append, drop_append]
  by_cases fills : back.length ≤ size
  · have kept : front.length + back.length - size - front.length = back.length - size := by omega
    have dropped : front.length + back.length - size = front.length - (size - back.length) := by omega
    rw [kept, dropped]
  · have kept : front.length + back.length - size - front.length = back.length - size := by omega
    have gone : List.drop (front.length + back.length - size) front = [] := drop_eq_nil_of_le (by omega)
    have none : List.drop (front.length - (size - back.length)) front = [] := drop_eq_nil_of_le (by omega)
    rw [kept, gone, none]

theorem window_window {small size : Nat} (below : small ≤ size) : window small (window size entries) = window small entries := by
  rw [window, window, length_drop, drop_drop]
  by_cases short : entries.length ≤ size
  · congr 1
    omega
  · congr 1
    omega

theorem window_front : window size (window size front ++ back) = window size (front ++ back) := by
  rw [window_append, window_append size front, window_window front (Nat.sub_le _ _)]

theorem window_back : window size (front ++ window size back) = window size (front ++ back) := by
  rw [window_append, window_append size front, window_window back (Nat.le_refl size)]
  by_cases fills : back.length ≤ size
  · rw [window_short fills]
  · have first : size - (window size back).length = 0 := by
      rw [window, length_drop]
      omega
    have second : size - back.length = 0 := by omega
    rw [first, second]

theorem window_empty (positive : 0 < size) : window size entries = [] ↔ entries = [] := by
  rw [window, drop_eq_nil_iff]
  constructor
  · intro short
    exact length_eq_zero_iff.mp (by omega)
  · rintro rfl
    exact Nat.zero_le _

-- A sublist of distinct entries that lacks none of them is the whole.
theorem sublist_whole {part whole : List α} (sub : part.Sublist whole) (distinct : whole.Nodup) (all : ∀ entry ∈ whole, entry ∈ part) :
    part = whole :=
  sub.eq_of_length_le (List.Nodup.length_le_of_subset distinct all)

open Option

variable {α : Type} [DecidableEq α]

-- The newest entry of a newest-first list, and the newest one that differs from it.
structure Tracks (entries : List α) (current previous : Option α) : Prop where
  newest : entries.head? = current
  empty : current = none → previous = none
  before : ∀ value, current = some value → previous = entries.find? fun other => other ≠ value

-- What `previous` becomes when `next` is entered.
def shift (current previous : Option α) (next : α) : Option α :=
  match current with
  | none => previous
  | some value => if value = next then previous else some value

theorem tracks_nil : Tracks ([] : List α) none none where
  newest := rfl
  empty _ := rfl
  before _ none := nomatch none

variable {previous : Option α}

theorem tracks_push {entries : List α} {current : Option α} (next : α)
    (tracks : Tracks entries current previous) : Tracks (next :: entries) (some next) (shift current previous next) where
  newest := rfl
  empty none := nomatch none
  before value same := by
    rw [← some.inj same, find?_cons_of_neg (by simp)]
    cases entries with
    | nil =>
      have none : current = none := tracks.newest.symm
      rw [none, tracks.empty none]
      rfl
    | cons first rest =>
      have newest : current = some first := tracks.newest.symm
      rw [newest, shift]
      by_cases again : first = next
      · rw [if_pos again, tracks.before first newest, again]
      · rw [if_neg again, find?_cons_of_pos (by simpa using again)]

theorem tracks_behind (older entries : List α) (value ahead : α)
    (tracks : Tracks older (some value) previous) (grown : entries = older ∨ entries = ahead :: older) :
    previous = (entries.dropWhile fun other => other ≠ value).find? fun other => other ≠ value := by
  cases older with
  | nil => exact nomatch tracks.newest
  | cons first rest =>
    have newest : first = value := some.inj tracks.newest
    have kept : ((first :: rest).dropWhile fun other => other ≠ value) = first :: rest :=
      dropWhile_cons_of_neg (by simp [newest])
    cases grown with
    | inl same => rw [same, kept, tracks.before value rfl]
    | inr pushed =>
      rw [pushed]
      by_cases again : ahead = value
      · rw [dropWhile_cons_of_neg (by simp [again]), find?_cons_of_neg (by simp [again]), tracks.before value rfl]
      · rw [dropWhile_cons_of_pos (by simp [again]), kept, tracks.before value rfl]

end AppRafter.Lib
