import Mathlib.Data.List.Basic
import AppRafter.Lib.System

set_option autoImplicit false

namespace AppRafter.Lib

open List Option

-- A record whose writers read it whole and write it whole; `names` are the fields changed.
structure Resend (Map Change Field Value : Type) where
  read : Map → Field → Value
  merge : Map → Change → Map
  names : Change → List Field
  frame : ∀ old change field, field ∉ names change → read (merge old change) field = read old field

namespace Resend

structure Pending (Map Change : Type) where
  change : Change
  seen : Map
  begun : Nat
  since : List Change

-- How many changes had been written when its writer read, and when it wrote.
structure Written (Map Change : Type) where
  change : Change
  seen : Map
  begun : Nat
  ended : Nat

-- The writes are listed newest first.
structure State (Map Change : Type) where
  live : Map
  pending : Nat → Option (Pending Map Change)
  written : List (Written Map Change)

inductive Action (Change : Type) where
  | get (writer : Nat) (change : Change)
  | apply (writer : Nat)
  | drop (writer : Nat)

variable {Map Change Field Value : Type}

def State.set (state : State Map Change) (writer : Nat) (pending : Option (Pending Map Change)) : State Map Change :=
  { state with pending := fun other => if other = writer then pending else state.pending other }

def Pending.overtaken (change : Change) (pending : Pending Map Change) : Pending Map Change :=
  { pending with since := change :: pending.since }

def Pending.written (pending : Pending Map Change) (ended : Nat) : Written Map Change :=
  ⟨pending.change, pending.seen, pending.begun, ended⟩

variable (resend : Resend Map Change Field Value)

def write (state : State Map Change) (writer : Nat) (pending : Pending Map Change) : State Map Change :=
  { live := resend.merge pending.seen pending.change
    pending := fun other =>
      if other = writer then none else (state.pending other).map (Pending.overtaken pending.change)
    written := pending.written state.written.length :: state.written }

def step (state : State Map Change) : Action Change → Option (State Map Change)
  | .get writer change =>
    if (state.pending writer).isSome then none
    else some (state.set writer (some ⟨change, state.live, state.written.length, []⟩))
  | .apply writer => (state.pending writer).map (resend.write state writer)
  | .drop writer => if (state.pending writer).isSome then some (state.set writer none) else none

def system (initial : Map) : System (State Map Change) (Action Change) where
  initial state := state = ⟨initial, fun _ => none, []⟩
  step := resend.step

section Runs

variable [DecidableEq Field]

-- Nothing is written in between that decides a field this write only sends back.
def covers (pending : Pending Map Change) : Bool :=
  pending.since.all fun earlier => (resend.names earlier).all fun field => decide (field ∈ resend.names pending.change)

def unraced (state : State Map Change) : Action Change → Bool
  | .apply writer => (state.pending writer).all resend.covers
  | _ => true

def body (written : Written Map Change) (field : Field) : Value := resend.read (resend.merge written.seen written.change) field

def lastOf (written : List (Written Map Change)) (field : Field) : Option (Written Map Change) :=
  written.find? fun entry => decide (field ∈ resend.names entry.change)

theorem last_of_names (written : List (Written Map Change)) (field : Field) (entry : Written Map Change)
    (found : resend.lastOf written field = some entry) : field ∈ resend.names entry.change := by
  have decides := find?_some found
  exact of_decide_eq_true decides

-- Every field is as the last change that decides it left it.
def Holds (initial : Map) (state : State Map Change) (field : Field) : Prop :=
  resend.read state.live field =
    ((resend.lastOf state.written field).map fun entry => resend.body entry field).getD (resend.read initial field)

structure Inv (initial : Map) (state : State Map Change) : Prop where
  holds : ∀ field, resend.Holds initial state field
  seen : ∀ writer pending, state.pending writer = some pending →
    ∀ field, (∀ earlier ∈ pending.since, field ∉ resend.names earlier) →
      resend.read pending.seen field = resend.read state.live field

theorem covers_names (pending : Pending Map Change) (covered : resend.covers pending = true) (field : Field)
    (outside : field ∉ resend.names pending.change) : ∀ earlier ∈ pending.since, field ∉ resend.names earlier := by
  intro earlier member named
  have all := all_eq_true.mp (all_eq_true.mp covered earlier member) field named
  exact outside (of_decide_eq_true all)

variable (initial : Map) (state : State Map Change) (inv : resend.Inv initial state)

include inv in
-- A write leaves the fields it does not decide as they are.
theorem write_frame (writer : Nat) (pending : Pending Map Change) (found : state.pending writer = some pending)
    (covered : resend.covers pending = true) (field : Field) (outside : field ∉ resend.names pending.change) :
    resend.read (resend.merge pending.seen pending.change) field = resend.read state.live field := by
  rw [resend.frame _ _ _ outside]
  exact inv.seen writer pending found field (resend.covers_names pending covered field outside)

include inv in
theorem write_holds (writer : Nat) (pending : Pending Map Change) (found : state.pending writer = some pending)
    (covered : resend.covers pending = true) (field : Field) :
    resend.Holds initial (resend.write state writer pending) field := by
  by_cases named : field ∈ resend.names pending.change
  · simp [Holds, lastOf, write, Pending.written, body, named]
  · have kept := resend.write_frame initial state inv writer pending found covered field named
    have before := inv.holds field
    simp only [Holds, lastOf, write, Pending.written] at before ⊢
    rw [kept, before, find?_cons_of_neg (by simpa using named)]

include inv in
theorem write_seen (writer : Nat) (pending : Pending Map Change) (found : state.pending writer = some pending)
    (covered : resend.covers pending = true) (other : Nat) (waiting : Pending Map Change)
    (left : (resend.write state writer pending).pending other = some waiting) (field : Field)
    (untouched : ∀ earlier ∈ waiting.since, field ∉ resend.names earlier) :
    resend.read waiting.seen field = resend.read (resend.write state writer pending).live field := by
  by_cases same : other = writer
  · simp [write, same] at left
  · simp only [write, if_neg same] at left
    obtain ⟨before, held, rfl⟩ := map_eq_some_iff.mp left
    have outside := untouched pending.change mem_cons_self
    have kept := resend.write_frame initial state inv writer pending found covered field outside
    have agreed := inv.seen other before held field fun earlier member =>
      untouched earlier (mem_cons_of_mem _ member)
    exact agreed.trans kept.symm

include inv in
theorem inv_set (writer : Nat) (pending : Option (Pending Map Change)) (fresh : ∀ waiting ∈ pending, waiting.seen = state.live) :
    resend.Inv initial (state.set writer pending) := by
  refine ⟨inv.holds, ?_⟩
  intro other waiting found field untouched
  by_cases same : other = writer
  · simp only [State.set, if_pos same] at found
    rw [fresh waiting found]
    rfl
  · simp only [State.set, if_neg same] at found
    exact inv.seen other waiting found field untouched

theorem step_inv (action : Action Change) (next : State Map Change)
    (inv : resend.Inv initial state) (allowed : resend.unraced state action = true)
    (taken : resend.step state action = some next) : resend.Inv initial next := by
  cases action with
  | get writer change =>
    simp only [step] at taken
    split at taken
    · cases taken
    · cases taken
      refine resend.inv_set initial state inv writer _ ?_
      intro waiting found
      cases found
      rfl
  | apply writer =>
    obtain ⟨pending, found, rfl⟩ := map_eq_some_iff.mp taken
    have covered : resend.covers pending = true := by simpa [unraced, found] using allowed
    exact ⟨resend.write_holds initial state inv writer pending found covered,
      resend.write_seen initial state inv writer pending found covered⟩
  | drop writer =>
    simp only [step] at taken
    split at taken
    · cases taken
      exact resend.inv_set initial state inv writer none nofun
    · cases taken

theorem unraced_inv
    (reachable : ((resend.system initial).restrict resend.unraced).Reachable state) : resend.Inv initial state := by
  refine ((resend.system initial).restrict resend.unraced).invariant (resend.Inv initial) ?_ ?_ state reachable
  · intro start initially
    subst initially
    exact ⟨fun field => rfl, nofun⟩
  · intro before action after inv taken
    obtain ⟨allowed, stepped⟩ := System.restrict_step _ _ _ _ _ taken
    exact resend.step_inv initial before action after inv allowed stepped

end Runs

-- A change written later ended later, and none had been read before it ended.
structure Timed (state : State Map Change) : Prop where
  pending : ∀ writer pending, state.pending writer = some pending → pending.begun ≤ state.written.length
  written : ∀ entry ∈ state.written, entry.begun ≤ entry.ended ∧ entry.ended < state.written.length
  ordered : state.written.Pairwise fun later earlier => earlier.ended < later.ended

variable {state : State Map Change}

theorem timed_set (timed : Timed state) (writer : Nat) {pending : Option (Pending Map Change)}
    (fresh : ∀ waiting ∈ pending, waiting.begun ≤ state.written.length) : Timed (state.set writer pending) := by
  refine ⟨?_, timed.written, timed.ordered⟩
  intro other waiting found
  by_cases same : other = writer
  · simp only [State.set, if_pos same] at found
    exact fresh waiting found
  · simp only [State.set, if_neg same] at found
    exact timed.pending other waiting found

theorem timed_write (state : State Map Change) (timed : Timed state) (writer : Nat) (pending : Pending Map Change)
    (found : state.pending writer = some pending) : Timed (resend.write state writer pending) := by
  have begun := timed.pending writer pending found
  refine ⟨?_, ?_, ?_⟩
  · intro other waiting left
    by_cases same : other = writer
    · simp [write, same] at left
    · simp only [write, if_neg same] at left
      obtain ⟨before, held, rfl⟩ := map_eq_some_iff.mp left
      exact Nat.le_succ_of_le (timed.pending other before held)
  · intro entry member
    cases mem_cons.mp member with
    | inl same =>
      subst same
      exact ⟨begun, Nat.lt_succ_self _⟩
    | inr earlier =>
      obtain ⟨kept, below⟩ := timed.written entry earlier
      exact ⟨kept, Nat.lt_succ_of_lt below⟩
  · exact pairwise_cons.mpr ⟨fun entry member => (timed.written entry member).2, timed.ordered⟩

theorem timed_step (state : State Map Change) (action : Action Change) (next : State Map Change) (timed : Timed state)
    (taken : resend.step state action = some next) : Timed next := by
  cases action with
  | get writer change =>
    simp only [step] at taken
    split at taken
    · cases taken
    · cases taken
      refine timed_set timed writer ?_
      intro waiting found
      cases found
      exact Nat.le_refl _
  | apply writer =>
    obtain ⟨pending, found, rfl⟩ := map_eq_some_iff.mp taken
    exact resend.timed_write state timed writer pending found
  | drop writer =>
    simp only [step] at taken
    split at taken
    · cases taken
      exact timed_set timed writer nofun
    · cases taken

theorem timed (initial : Map) (permits : State Map Change → Action Change → Bool) (state : State Map Change)
    (reachable : ((resend.system initial).restrict permits).Reachable state) : Timed state := by
  refine ((resend.system initial).restrict permits).invariant Timed ?_ ?_ state reachable
  · intro start initially
    subst initially
    exact ⟨nofun, nofun, List.Pairwise.nil⟩
  · intro before action after inv taken
    exact resend.timed_step before action after inv (System.restrict_step _ _ _ _ _ taken).2

-- The newest write with a property is followed by no other that read after it.
theorem newest_unfollowed (timed : Timed state) {wanted : Written Map Change → Bool}
    {newest : Written Map Change} (found : state.written.find? wanted = some newest) :
    ∀ entry ∈ state.written, wanted entry = true → ¬ newest.ended < entry.begun := by
  intro entry member right after
  obtain ⟨_, front, back, split, before⟩ := find?_eq_some_iff_append.mp found
  rw [split] at member
  have begun := (timed.written entry (split ▸ member)).1
  have ordered := timed.ordered
  rw [split, pairwise_append] at ordered
  cases mem_append.mp member with
  | inl newer =>
    have unwanted := before entry newer
    rw [right] at unwanted
    cases unwanted
  | inr rest =>
    cases mem_cons.mp rest with
    | inl same =>
      subst same
      omega
    | inr older =>
      have below := (pairwise_cons.mp ordered.2.1).1 entry older
      omega

end Resend

end AppRafter.Lib
