import Mathlib.Data.List.Basic

set_option autoImplicit false

namespace AppRafter.Lib

open List Option

-- An object several managers apply to: what each field holds, and who owns it.
structure Applied (Field Value Manager : Type) where
  live : Field → Option Value := fun _ => none
  owners : Field → List Manager := fun _ => []

namespace Applied

variable {Field Value Manager : Type} [DecidableEq Manager] (object : Applied Field Value Manager)

def others (manager : Manager) (field : Field) : List Manager :=
  (object.owners field).filter fun owner => owner ≠ manager

def soleOwner (manager : Manager) (field : Field) : Bool :=
  decide (manager ∈ object.owners field) && (object.others manager field).isEmpty

-- A field sent is owned by the sender and its equals; one unsent goes with its last owner.
def apply [DecidableEq Value] (object : Applied Field Value Manager) (manager : Manager) (body : Field → Option Value) :
    Applied Field Value Manager :=
  { live := fun field =>
      match body field with
      | some value => some value
      | none => if object.soleOwner manager field then none else object.live field
    owners := fun field =>
      match body field with
      | some value => if object.live field = some value then manager :: object.others manager field else [manager]
      | none => object.others manager field }

def Backed : Prop := ∀ field owner, owner ∈ object.owners field → object.live field ≠ none

section Owners

variable (object : Applied Field Value Manager) (manager : Manager) (field : Field)

theorem mem_others (owner : Manager) : owner ∈ object.others manager field ↔ owner ∈ object.owners field ∧ owner ≠ manager := by
  rw [others, mem_filter, decide_eq_true_iff]

theorem sole_owner_iff : object.soleOwner manager field = true ↔
      manager ∈ object.owners field ∧ ∀ owner ∈ object.owners field, owner = manager := by
  rw [soleOwner, Bool.and_eq_true, decide_eq_true_iff, List.isEmpty_iff, eq_nil_iff_forall_not_mem]
  refine and_congr_right fun _ => forall_congr' fun owner => ?_
  rw [mem_others, not_and, not_not]

end Owners

section One

variable [DecidableEq Value]

variable (object : Applied Field Value Manager) (manager : Manager) (body : Field → Option Value) {field : Field}

variable {value : Value}

theorem apply_sent (sent : body field = some value) : (object.apply manager body).live field = some value := by
  simp only [apply, sent]

theorem owners_sent (sent : body field = some value) : manager ∈ (object.apply manager body).owners field := by
  simp only [apply, sent]
  split
  · exact mem_cons_self
  · exact mem_singleton_self manager

theorem owners_unsent (unsent : body field = none) : (object.apply manager body).owners field = object.others manager field := by
  simp only [apply, unsent]

-- Only the sender comes to own a field.
theorem owners_apply {owner : Manager} (owns : owner ∈ (object.apply manager body).owners field) :
    owner = manager ∨ owner ∈ object.owners field := by
  cases sent : body field with
  | none =>
    rw [owners_unsent object manager body sent] at owns
    exact .inr ((mem_others object manager field owner).mp owns).1
  | some value =>
    simp only [apply, sent] at owns
    split at owns
    · cases mem_cons.mp owns with
      | inl same => exact .inl same
      | inr other => exact .inr ((mem_others object manager field owner).mp other).1
    · exact .inl (mem_singleton.mp owns)

theorem unsent_alone (unsent : body field = none) (alone : object.soleOwner manager field = true) :
    (object.apply manager body).live field = none := by
  simp only [apply, unsent]
  exact if_pos alone

theorem unsent_kept (unsent : body field = none) (shared : object.soleOwner manager field = false) :
    (object.apply manager body).live field = object.live field := by
  simp only [apply, unsent]
  exact if_neg (Bool.not_eq_true _ ▸ shared)

theorem unsent_foreign (unsent : body field = none) (foreign : manager ∉ object.owners field) :
    (object.apply manager body).live field = object.live field := by
  refine unsent_kept object manager body unsent ?_
  rw [soleOwner, decide_eq_false foreign, Bool.false_and]

theorem apply_backed (backed : object.Backed) : (object.apply manager body).Backed := by
  intro field owner owns
  cases sent : body field with
  | some value =>
    rw [apply_sent object manager body sent]
    exact some_ne_none value
  | none =>
    rw [owners_unsent object manager body sent] at owns
    obtain ⟨owned, other⟩ := (mem_others object manager field owner).mp owns
    have shared : object.soleOwner manager field = false := by
      refine eq_false_of_ne_true fun alone => ?_
      exact other (((sole_owner_iff object manager field).mp alone).2 owner owned)
    rw [unsent_kept _ _ body sent shared]
    exact backed field owner owned

end One

section Replay

variable [DecidableEq Value] {Write : Type} (managerOf : Write → Manager) (bodyOf : Write → Field → Option Value)

def replay : List Write → Applied Field Value Manager
  | [] => {}
  | write :: log => (replay log).apply (managerOf write) (bodyOf write)

theorem replay_backed (log : List Write) : (replay managerOf bodyOf log).Backed := by
  induction log with
  | nil => exact nofun
  | cons write log ih => exact apply_backed _ (managerOf write) (bodyOf write) ih

theorem never_owner (manager : Manager) (field : Field)
    (silent : ∀ write, managerOf write = manager → bodyOf write field = none) (log : List Write) :
    manager ∉ (replay managerOf bodyOf log).owners field := by
  induction log with
  | nil => exact not_mem_nil
  | cons write log ih =>
    intro owns
    by_cases sender : managerOf write = manager
    · rw [replay, owners_unsent _ _ _ (silent write sender)] at owns
      exact ((mem_others _ _ field manager).mp owns).2 sender.symm
    · cases owners_apply _ _ _ owns with
      | inl same => exact sender same.symm
      | inr before => exact ih before

-- A field is as it was after an apply by a manager who never sends it.
theorem untouched (field : Field) (write : Write)
    (silent : ∀ other, managerOf other = managerOf write → bodyOf other field = none) (log : List Write) :
    (replay managerOf bodyOf (write :: log)).live field = (replay managerOf bodyOf log).live field :=
  unsent_foreign _ _ _ (silent write rfl) (never_owner _ _ _ field silent log)

-- It is that manager's exactly while its newest apply has it.
theorem only_sender {manager : Manager} {field : Field}
    (silent : ∀ write, managerOf write ≠ manager → bodyOf write field = none) (log : List Write) :
    (replay managerOf bodyOf log).soleOwner manager field = true ↔
      ∃ write, log.find? (fun other => managerOf other = manager) = some write ∧ bodyOf write field ≠ none := by
  have foreign : ∀ log owner, owner ∈ (replay managerOf bodyOf log).owners field → owner = manager := by
    intro log owner owns
    refine Decidable.byContradiction fun other => ?_
    exact never_owner managerOf bodyOf owner field (fun write same => silent write (same ▸ other)) log owns
  rw [sole_owner_iff, and_iff_left (foreign log)]
  induction log with
  | nil => exact ⟨nofun, fun ⟨_, found, _⟩ => nomatch found⟩
  | cons write log ih =>
    by_cases sender : managerOf write = manager
    · rw [find?_cons_of_pos (by simpa using sender)]
      cases sent : bodyOf write field with
      | some value =>
        have owns := owners_sent (replay managerOf bodyOf log) (managerOf write) _ sent
        refine ⟨fun _ => ⟨write, rfl, ?_⟩, fun _ => sender ▸ owns⟩
        rw [sent]
        exact some_ne_none value
      | none =>
        rw [replay, owners_unsent _ _ _ sent, mem_others]
        constructor
        · exact fun owns => absurd sender.symm owns.2
        · intro ⟨newest, same, sends⟩
          cases same
          exact absurd sent sends
    · rw [find?_cons_of_neg (by simpa using sender), replay, owners_unsent _ _ _ (silent write sender), mem_others]
      exact (and_iff_left fun same => sender same.symm).trans ih

end Replay

end Applied

end AppRafter.Lib
