import Mathlib.Data.List.Basic

set_option autoImplicit false

namespace AppRafter.Lib

open List

-- A `>` is at least one token and ends the pattern.
inductive Wild (α : Type) where
  | lit (token : α)
  | one
  | rest
deriving DecidableEq

namespace Wild

variable {α : Type} [DecidableEq α]

def accepts : List (Wild α) → List α → Bool
  | [], [] => true
  | [.rest], _ :: _ => true
  | .lit token :: pattern, head :: tokens => decide (token = head) && accepts pattern tokens
  | .one :: pattern, _ :: tokens => accepts pattern tokens
  | _, _ => false

@[simp]
theorem accepts_end (tokens : List α) : accepts [] tokens = true ↔ tokens = [] := by
  cases tokens with
  | nil => simp [accepts]
  | cons head tokens => simp [accepts]

@[simp]
theorem accepts_lit (token : α) (pattern : List (Wild α)) (tokens : List α) :
    accepts (.lit token :: pattern) tokens = true ↔ ∃ left, tokens = token :: left ∧ accepts pattern left = true := by
  cases tokens with
  | nil => simp [accepts]
  | cons head tokens =>
    simp only [accepts, Bool.and_eq_true, decide_eq_true_eq, List.cons.injEq]
    constructor
    · rintro ⟨same, accepted⟩
      exact ⟨tokens, ⟨same.symm, rfl⟩, accepted⟩
    · rintro ⟨left, ⟨same, rfl⟩, accepted⟩
      exact ⟨same.symm, accepted⟩

@[simp]
theorem accepts_one (pattern : List (Wild α)) (tokens : List α) :
    accepts (.one :: pattern) tokens = true ↔ ∃ token left, tokens = token :: left ∧ accepts pattern left = true := by
  cases tokens with
  | nil => simp [accepts]
  | cons head tokens => simp [accepts]

@[simp]
theorem accepts_rest (tokens : List α) : accepts [.rest] tokens = true ↔ ∃ token left, tokens = token :: left := by
  cases tokens with
  | nil => simp [accepts]
  | cons head tokens => simp [accepts]

theorem accepts_lits (literals tokens : List α) : accepts (literals.map .lit) tokens = true ↔ tokens = literals := by
  induction literals generalizing tokens with
  | nil => exact accepts_end tokens
  | cons literal literals ih =>
    rw [map_cons, accepts_lit]
    constructor
    · rintro ⟨left, rfl, accepted⟩
      rw [(ih left).mp accepted]
    · rintro rfl
      exact ⟨literals, rfl, (ih literals).mpr rfl⟩

variable {pattern : List (Wild α)}

-- A pattern cut short by `rest` has no other way to go on.
theorem accepts_rest_end (more : pattern ≠ []) (tokens : List α) : accepts (.rest :: pattern) tokens = false := by
  cases pattern with
  | nil => exact absurd rfl more
  | cons next pattern => cases tokens <;> rfl

-- The literal tokens of a pattern stand in everything it accepts.
theorem accepts_mem (tokens : List α) (accepted : accepts pattern tokens = true) (token : α)
    (member : .lit token ∈ pattern) : token ∈ tokens := by
  induction pattern generalizing tokens with
  | nil => cases member
  | cons first pattern ih =>
    cases first with
    | lit other =>
      obtain ⟨left, rfl, inner⟩ := (accepts_lit other pattern tokens).mp accepted
      rcases mem_cons.mp member with same | later
      · cases same
        exact mem_cons_self
      · exact mem_cons_of_mem _ (ih left inner later)
    | one =>
      obtain ⟨head, left, rfl, inner⟩ := (accepts_one pattern tokens).mp accepted
      rcases mem_cons.mp member with same | later
      · cases same
      · exact mem_cons_of_mem _ (ih left inner later)
    | rest =>
      cases pattern with
      | nil =>
        rcases mem_cons.mp member with same | later
        · cases same
        · cases later
      | cons next pattern =>
        exact absurd accepted Bool.false_ne_true

theorem accepts_last (pattern : List (Wild α)) (token : α) (tokens : List α)
    (accepted : accepts (pattern ++ [.lit token]) tokens = true) : tokens.getLast? = some token := by
  induction pattern generalizing tokens with
  | nil =>
    rw [(accepts_lits [token] tokens).mp accepted]
    rfl
  | cons first pattern ih =>
    have more : pattern ++ [.lit token] ≠ [] := by simp
    have later (head : α) (left : List α) (inner : accepts (pattern ++ [.lit token]) left = true) :
        (head :: left).getLast? = some token := by
      have last := ih left inner
      cases left with
      | nil => cases last
      | cons next left => rw [getLast?_cons_cons, last]
    cases first with
    | lit other =>
      obtain ⟨left, rfl, inner⟩ := (accepts_lit other _ tokens).mp accepted
      exact later other left inner
    | one =>
      obtain ⟨head, left, rfl, inner⟩ := (accepts_one _ tokens).mp accepted
      exact later head left inner
    | rest =>
      rw [cons_append, accepts_rest_end more tokens] at accepted
      exact absurd accepted Bool.false_ne_true

-- Without `rest` a pattern accepts tokens of its own number only.
theorem accepts_length (pattern : List (Wild α)) (closed : .rest ∉ pattern) (tokens : List α)
    (accepted : accepts pattern tokens = true) : tokens.length = pattern.length := by
  induction pattern generalizing tokens with
  | nil =>
    rw [(accepts_end tokens).mp accepted]
    rfl
  | cons first pattern ih =>
    have later : .rest ∉ pattern := fun member => closed (mem_cons_of_mem _ member)
    cases first with
    | lit token =>
      obtain ⟨left, rfl, inner⟩ := (accepts_lit token pattern tokens).mp accepted
      rw [length_cons, length_cons, ih later left inner]
    | one =>
      obtain ⟨head, left, rfl, inner⟩ := (accepts_one pattern tokens).mp accepted
      rw [length_cons, length_cons, ih later left inner]
    | rest => exact absurd mem_cons_self closed

end Wild

end AppRafter.Lib
