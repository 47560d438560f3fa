import Mathlib.Data.List.Induction

set_option autoImplicit false

namespace AppRafter.Lib

open List

-- How long one key has been seen at every look, from the first look of the streak.
structure Streak (Key : Type) where
  running : Option (Key × Nat)
  deriving DecidableEq

namespace Streak

variable {Key : Type}

-- The streak has run for its key's grace.
def Ripe (grace : Key → Nat) (streak : Streak Key) (now : Nat) : Prop :=
  ∃ key since, streak.running = some (key, since) ∧ grace key ≤ now - since

theorem ripe_iff {grace : Key → Nat} {streak : Streak Key} {key : Key} {since : Nat} (now : Nat) (running : streak.running = some (key, since)) :
    Ripe grace streak now ↔ grace key ≤ now - since := by
  constructor
  · intro ripe
    obtain ⟨other, at_, held, long⟩ := ripe
    cases running.symm.trans held
    exact long
  · exact fun long => ⟨key, since, running, long⟩

theorem not_ripe {grace : Key → Nat} {streak : Streak Key} (now : Nat) (idle : streak.running = none) : ¬Ripe grace streak now := by
  intro ripe
  obtain ⟨key, since, held, _⟩ := ripe
  cases idle.symm.trans held

variable [DecidableEq Key]

def fresh : Streak Key := ⟨none⟩

def observe (streak : Streak Key) (seen : Option Key) (now : Nat) : Streak Key :=
  match seen, streak.running with
  | none, _ => ⟨none⟩
  | some key, some (held, _) => if held = key then streak else ⟨some (key, now)⟩
  | some key, none => ⟨some (key, now)⟩

def elapsed (streak : Streak Key) (now : Nat) : Option Nat := streak.running.map fun held => now - held.2

variable (looks : List (Option Key × Nat))

def watched : Streak Key := looks.foldl (fun streak look => streak.observe look.1 look.2) fresh

theorem watched_concat (look : Option Key × Nat) :
    watched (looks ++ [look]) = (watched looks).observe look.1 look.2 := by
  simp [watched]

-- All an observation can do.
theorem observe_cases (streak : Streak Key) (seen : Option Key) (now : Nat) :
    (seen = none ∧ (streak.observe seen now).running = none) ∨
    (∃ key since, seen = some key ∧ streak.running = some (key, since) ∧
      (streak.observe seen now).running = some (key, since)) ∨
    (∃ key, seen = some key ∧ (∀ since, streak.running ≠ some (key, since)) ∧
      (streak.observe seen now).running = some (key, now)) := by
  cases seen with
  | none => exact .inl ⟨rfl, rfl⟩
  | some key =>
    cases held : streak.running with
    | none => exact .inr (.inr ⟨key, rfl, by simp, by simp [observe, held]⟩)
    | some before =>
      obtain ⟨other, since⟩ := before
      by_cases same : other = key
      · subst same
        exact .inr (.inl ⟨other, since, rfl, rfl, by simp [observe, held]⟩)
      · refine .inr (.inr ⟨key, rfl, ?_, by simp [observe, held, same]⟩)
        intro later matched
        exact same (congrArg Prod.fst (Option.some.inj matched))

-- `looks` ends in a stretch of `key` alone, from the look at `since` on.
def Stretch (key : Key) (since : Nat) : Prop :=
  ∃ before rest, looks = before ++ (some key, since) :: rest ∧ ∀ look ∈ rest, look.1 = some key

variable {looks : List (Option Key × Nat)} {key : Key}

theorem stretch_of_running {since : Nat} (running : (watched looks).running = some (key, since)) : Stretch looks key since := by
  induction looks using List.reverseRecOn generalizing key since with
  | nil => cases running
  | append_singleton looks look ih =>
    obtain ⟨seen, now⟩ := look
    rw [watched_concat] at running
    rcases observe_cases (watched looks) seen now with ⟨_, ended⟩ | ⟨shown, begun, saw, held, kept⟩ | ⟨shown, saw, _, started⟩
    · rw [ended] at running
      cases running
    · rw [kept] at running
      cases running
      obtain ⟨before, rest, split, unbroken⟩ := ih held
      refine ⟨before, rest ++ [(seen, now)], by simp [split], ?_⟩
      intro look member
      rcases mem_append.mp member with old | new
      · exact unbroken look old
      · rw [mem_singleton.mp new, saw]
    · rw [started] at running
      cases running
      exact ⟨looks, [], by simp [saw], by simp⟩

theorem running_of_stretch {at_ : Nat} (clock : (looks.map Prod.snd).Pairwise (· ≤ ·)) (stretch : Stretch looks key at_) :
    ∃ since ≤ at_, (watched looks).running = some (key, since) := by
  obtain ⟨before, rest, split, unbroken⟩ := stretch
  induction rest using List.reverseRecOn generalizing looks with
  | nil =>
    rw [split, watched_concat]
    rcases observe_cases (watched before) (some key) at_ with ⟨none, _⟩ | ⟨shown, begun, saw, held, kept⟩ | ⟨shown, saw, _, started⟩
    · cases none
    · cases saw
      refine ⟨begun, ?_, kept⟩
      obtain ⟨front, back, whole, _⟩ := stretch_of_running held
      rw [split, map_append, pairwise_append] at clock
      exact clock.2.2 begun (by simp [whole]) at_ (by simp)
    · cases saw
      exact ⟨at_, Nat.le_refl _, started⟩
  | append_singleton rest look ih =>
    obtain ⟨seen, now⟩ := look
    have whole : looks = (before ++ (some key, at_) :: rest) ++ [(seen, now)] := by simp [split]
    have saw : seen = some key := unbroken (seen, now) (by simp)
    have earlier : ((before ++ (some key, at_) :: rest).map Prod.snd).Pairwise (· ≤ ·) := by
      rw [whole, map_append] at clock
      exact (pairwise_append.mp clock).1
    obtain ⟨since, early, held⟩ := ih earlier rfl fun look member => unbroken look (mem_append_left _ member)
    refine ⟨since, early, ?_⟩
    rw [whole, watched_concat, saw]
    simp [observe, held]

-- After a look that shows a key its streak runs, from that look or from an earlier one.
theorem observed_running (streak : Streak Key) (key : Key) (now : Nat) :
    ∃ since, (streak.observe (some key) now).running = some (key, since) := by
  rcases streak.observe_cases (some key) now with ⟨none_, _⟩ | ⟨shown, since, saw, _, kept⟩ | ⟨shown, saw, _, started⟩
  · cases none_
  · cases saw
    exact ⟨since, kept⟩
  · cases saw
    exact ⟨now, started⟩

-- A streak is ripe exactly when a stretch that long has.
theorem ripe_watched_iff (clock : (looks.map Prod.snd).Pairwise (· ≤ ·)) (grace : Key → Nat) (now : Nat) :
    Ripe grace (watched looks) now ↔ ∃ key since, Stretch looks key since ∧ grace key ≤ now - since := by
  apply exists_congr
  intro key
  constructor
  · intro ripe
    obtain ⟨since, running, long⟩ := ripe
    exact ⟨since, stretch_of_running running, long⟩
  · intro long
    obtain ⟨since, stretch, long⟩ := long
    obtain ⟨first, early, running⟩ := running_of_stretch clock stretch
    exact ⟨first, running, by omega⟩

end Streak

end AppRafter.Lib

namespace AppRafter.Lib

open List

-- A loop of looks that ends at one of them, or goes on with the streak that look leaves.
structure Poll (Look End Key : Type) [DecidableEq Key] where
  step : Look → Streak Key → Option End × Streak Key
  sight : Look → Option Key × Nat
  observes : ∀ look clock, (step look clock).1 = none → (step look clock).2 = clock.observe (sight look).1 (sight look).2

namespace Poll

variable {Look End Key : Type} [DecidableEq Key] (poll : Poll Look End Key)

-- The look that ends the loop, and how; `none` while it goes on.
def runFrom (clock : Streak Key) : List Look → Option (Look × End)
  | [] => none
  | look :: rest => match poll.step look clock with
    | (some ending, _) => some (look, ending)
    | (none, next) => runFrom next rest

def run (looks : List Look) : Option (Look × End) := poll.runFrom Streak.fresh looks

def clockAfter (clock : Streak Key) (looks : List Look) : Streak Key :=
  looks.foldl (fun streak look => streak.observe (poll.sight look).1 (poll.sight look).2) clock

variable {poll} {before rest looks : List Look} {look : Look} {clock : Streak Key}

theorem run_from_ends_iff (ending : End) : poll.runFrom clock looks = some (look, ending) ↔
    ∃ before rest, looks = before ++ look :: rest ∧ poll.runFrom clock before = none ∧
      (poll.step look (poll.clockAfter clock before)).1 = some ending := by
  induction looks generalizing clock with
  | nil =>
    constructor
    · intro ended
      cases ended
    · intro ended
      obtain ⟨before, rest, split, _⟩ := ended
      simp at split
  | cons first later ih =>
    have observed := poll.observes first clock
    cases stepped : poll.step first clock with
    | mk verdict next =>
      rw [stepped] at observed
      cases verdict with
      | some verdict =>
        rw [runFrom, stepped]
        constructor
        · intro ended
          cases ended
          exact ⟨[], later, rfl, rfl, by rw [clockAfter, foldl_nil, stepped]⟩
        · intro ended
          obtain ⟨before, rest, split, goes, here⟩ := ended
          cases before with
          | nil =>
            obtain ⟨rfl, rfl⟩ := cons.inj split
            rw [clockAfter, foldl_nil, stepped] at here
            cases here
            rfl
          | cons head tail =>
            obtain ⟨rfl, _⟩ := cons.inj split
            rw [runFrom, stepped] at goes
            cases goes
      | none =>
        have same : next = clock.observe (poll.sight first).1 (poll.sight first).2 := observed rfl
        rw [runFrom, stepped]
        change poll.runFrom next later = some (look, ending) ↔ _
        rw [ih]
        constructor
        · intro ended
          obtain ⟨before, rest, split, goes, here⟩ := ended
          refine ⟨first :: before, rest, by rw [split]; rfl, ?_, ?_⟩
          · rw [runFrom, stepped]
            exact goes
          · rw [clockAfter, foldl_cons, ← same]
            exact here
        · intro ended
          obtain ⟨before, rest, split, goes, here⟩ := ended
          cases before with
          | nil =>
            obtain ⟨rfl, rfl⟩ := cons.inj split
            rw [clockAfter, foldl_nil, stepped] at here
            cases here
          | cons head tail =>
            obtain ⟨rfl, others⟩ := cons.inj split
            rw [runFrom, stepped] at goes
            rw [clockAfter, foldl_cons, ← same] at here
            exact ⟨tail, rest, others, goes, here⟩

-- The loop ends at the first look that ends it after the streak of those before.
theorem run_ends_iff (ending : End) : poll.run looks = some (look, ending) ↔
    ∃ before rest, looks = before ++ look :: rest ∧ poll.run before = none ∧
      (poll.step look (Streak.watched (before.map poll.sight))).1 = some ending := by
  rw [run, run_from_ends_iff]
  simp only [clockAfter, Streak.watched, foldl_map, run]

-- Where a look ends the loop this way exactly when it leaves a ripe streak, the loop ends so at the first long stretch.
theorem run_quits_iff (quits : End → Bool) (grace : Key → Nat)
    (law : ∀ look clock, ((poll.step look clock).1.any quits) = true ↔
      Streak.Ripe grace (clock.observe (poll.sight look).1 (poll.sight look).2) (poll.sight look).2)
    (ordered : (looks.map fun look => (poll.sight look).2).Pairwise (· ≤ ·)) :
    (∃ ending, poll.run looks = some (look, ending) ∧ quits ending = true) ↔
      ∃ before rest, looks = before ++ look :: rest ∧ poll.run before = none ∧
        ∃ key since, Streak.Stretch ((before ++ [look]).map poll.sight) key since ∧ grace key ≤ (poll.sight look).2 - since := by
  have ripe (before rest : List Look) (split : looks = before ++ look :: rest) :
      Streak.Ripe grace ((Streak.watched (before.map poll.sight)).observe (poll.sight look).1 (poll.sight look).2) (poll.sight look).2 ↔
        ∃ key since, Streak.Stretch ((before ++ [look]).map poll.sight) key since ∧ grace key ≤ (poll.sight look).2 - since := by
    have clock : (((before ++ [look]).map poll.sight).map Prod.snd).Pairwise (· ≤ ·) := by
      rw [List.map_map]
      have earlier : (before ++ [look]).Sublist looks := by
        rw [split]
        exact (append_sublist_append_left before).mpr (singleton_sublist.mpr mem_cons_self)
      exact List.Pairwise.sublist (earlier.map _) ordered
    have last : Streak.watched ((before ++ [look]).map poll.sight) =
        (Streak.watched (before.map poll.sight)).observe (poll.sight look).1 (poll.sight look).2 := by
      rw [map_append, map_cons, map_nil, Streak.watched_concat]
    rw [← last]
    exact Streak.ripe_watched_iff clock grace _
  constructor
  · intro quit
    obtain ⟨ending, ended, quitting⟩ := quit
    obtain ⟨before, rest, split, goes, here⟩ := (run_ends_iff ending).mp ended
    refine ⟨before, rest, split, goes, (ripe before rest split).mp ((law look _).mp ?_)⟩
    exact (congrArg (Option.any quits) here).trans quitting
  · intro stretch
    obtain ⟨before, rest, split, goes, stretch⟩ := stretch
    have quitting := (law look _).mpr ((ripe before rest split).mpr stretch)
    obtain ⟨ending, here, quitting⟩ := (Option.any_eq_true _ _).mp quitting
    exact ⟨ending, (run_ends_iff ending).mpr ⟨before, rest, split, goes, here⟩, quitting⟩

end Poll

end AppRafter.Lib
