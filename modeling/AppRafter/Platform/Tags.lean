import AppRafter.Lib.Play
import Mathlib.Data.String.Basic
import Mathlib.Data.List.Sort

set_option autoImplicit false

namespace AppRafter.Platform

open Lib List

def maxPages : Nat := 200

-- A page of tags is asked for after a cursor, or from the start.
abbrev tagApi (Tag : Type) : Api where
  Request := Option Tag
  Response _ := Except String (List Tag)

section Walk

variable {Tag : Type} [DecidableEq Tag]

def walkTags (pageSize : Nat) : Nat → Option Tag → List Tag → Prog (tagApi Tag) String (List Tag)
  | 0, _, acc => .done acc
  | pages + 1, last, acc => .call last fun reply =>
    match reply with
    | .error why => .fail why
    | .ok page =>
      if page = [] then .done acc
      -- A page shorter than asked for is taken for the last one.
      else if page.length < pageSize then .done (acc ++ page)
      else if page.getLast? = last then .done (acc ++ page)
      else walkTags pageSize pages page.getLast? (acc ++ page)

def collectAllTags (pageSize : Nat) : Prog (tagApi Tag) String (List Tag) := walkTags pageSize maxPages none []

section Any

variable {State : Type} (serve : State → Option Tag → Except String (List Tag) × State)

theorem walk_bounded (pageSize pages : Nat) (last : Option Tag) (acc : List Tag) (state : State) :
    ((walkTags pageSize pages last acc).talk serve state).length ≤ pages := by
  induction pages generalizing last acc state with
  | zero => exact Nat.le_refl 0
  | succ pages ih =>
    refine Nat.succ_le_succ ?_
    cases (serve state last).1 with
    | error why => exact Nat.zero_le pages
    | ok page =>
      simp only
      split
      · exact Nat.zero_le pages
      · split
        · exact Nat.zero_le pages
        · split
          · exact Nat.zero_le pages
          · exact ih _ _ _

theorem walk_error (pageSize pages : Nat) (last : Option Tag) (acc : List Tag) (state : State) (why : String)
    (failed : ((walkTags pageSize pages last acc).play serve state).1 = .error why) :
    ∃ cursor, (⟨cursor, .error why⟩ : Exchange (tagApi Tag)) ∈ (walkTags pageSize pages last acc).talk serve state := by
  induction pages generalizing last acc state with
  | zero => cases failed
  | succ pages ih =>
    rw [walkTags, Prog.play] at failed
    rw [walkTags, Prog.talk]
    cases answered : (serve state last).1 with
    | error cause =>
      rw [answered] at failed
      cases failed
      exact ⟨last, mem_cons_self⟩
    | ok page =>
      rw [answered] at failed
      simp only at failed ⊢
      split at failed
      · cases failed
      · split at failed
        · cases failed
        · split at failed
          · cases failed
          · rename_i filled long moved
            rw [if_neg filled, if_neg long, if_neg moved]
            obtain ⟨cursor, member⟩ := ih _ _ _ failed
            exact ⟨cursor, mem_cons_of_mem _ member⟩

end Any

end Walk

section Registry

variable {Tag State : Type} [LinearOrder Tag]

def restOf (tags : List Tag) : Option Tag → List Tag
  | none => tags
  | some last => tags.filter fun tag => decide (last < tag)

-- Tags after the cursor in order: some while any remain, and no more than asked for.
structure Honest (serve : State → Option Tag → List Tag × State) (tags : List Tag) (pageSize : Nat) : Prop where
  page : ∀ state last, (serve state last).1 <+: restOf tags last
  bounded : ∀ state last, (serve state last).1.length ≤ pageSize
  served : ∀ state last, restOf tags last ≠ [] → (serve state last).1 ≠ []

variable (serve : State → Option Tag → List Tag × State)

def answering (state : State) (last : Option Tag) : Except String (List Tag) × State :=
  (.ok (serve state last).1, (serve state last).2)

def pagesServed : Nat → State → Option Tag → List (List Tag)
  | 0, _, _ => []
  | pages + 1, state, last =>
    if (serve state last).1 = [] then []
    else (serve state last).1 :: pagesServed pages (serve state last).2 (serve state last).1.getLast?

variable (tags : List Tag) (sorted : tags.Pairwise (· < ·))

include sorted

theorem rest_sorted (last : Option Tag) : (restOf tags last).Pairwise (· < ·) := by
  cases last with
  | none => exact sorted
  | some last => exact sorted.filter _

theorem rest_after {last : Option Tag} (page left : List Tag) (split : restOf tags last = page ++ left) (filled : page ≠ []) :
    restOf tags page.getLast? = left := by
  have ordered := rest_sorted tags sorted last
  rw [split, pairwise_append] at ordered
  have final : page.getLast? = some (page.getLast filled) := getLast?_eq_some_getLast filled
  have mem : page.getLast filled ∈ restOf tags last := by
    rw [split]
    exact mem_append_left _ (getLast_mem filled)
  have nested : restOf tags (some (page.getLast filled)) =
      (restOf tags last).filter fun tag => decide (page.getLast filled < tag) := by
    cases last with
    | none => rfl
    | some last =>
      have after : last < page.getLast filled := by simpa [restOf] using (mem_filter.mp mem).2
      rw [restOf, restOf, filter_filter]
      refine filter_congr fun tag _ => ?_
      by_cases later : page.getLast filled < tag
      · simp [later, after.trans later]
      · simp [later]
  rw [final, nested, split, filter_append]
  have none_ : (page.filter fun tag => decide (page.getLast filled < tag)) = [] := by
    rw [filter_eq_nil_iff]
    intro tag member
    have upto : tag ≤ page.getLast filled := by
      rw [← dropLast_append_getLast filled] at member ordered
      rcases mem_append.mp member with before | last
      · exact le_of_lt ((pairwise_append.mp ordered.1).2.2 tag before _ (by simp))
      · exact le_of_eq (mem_singleton.mp last)
    simpa using upto
  have all : (left.filter fun tag => decide (page.getLast filled < tag)) = left := by
    rw [filter_eq_self]
    intro tag member
    exact decide_eq_true (ordered.2.2 _ (getLast_mem filled) tag member)
  rw [none_, all, nil_append]

variable (pageSize : Nat) (honest : Honest serve tags pageSize)

include honest

theorem walk_complete (pages : Nat) (last : Option Tag) (acc : List Tag) (state : State)
    (fits : (pagesServed serve pages state last).flatten = restOf tags last) :
    ((walkTags pageSize pages last acc).play (answering serve) state).1 = .ok (acc ++ restOf tags last) ↔
      ∀ page ∈ (pagesServed serve pages state last).dropLast, page.length = pageSize := by
  induction pages generalizing last acc state with
  | zero =>
    rw [pagesServed, flatten_nil] at fits
    rw [← fits, append_nil]
    exact iff_of_true rfl nofun
  | succ pages ih =>
    obtain ⟨left, split⟩ := honest.page state last
    change ((if (serve state last).1 = [] then .done acc
      else if (serve state last).1.length < pageSize then .done (acc ++ (serve state last).1)
      else if (serve state last).1.getLast? = last then .done (acc ++ (serve state last).1)
      else walkTags pageSize pages (serve state last).1.getLast? (acc ++ (serve state last).1) :
        Prog (tagApi Tag) String (List Tag)).play (answering serve) (serve state last).2).1 = _ ↔ _
    rw [pagesServed] at fits ⊢
    by_cases bare : (serve state last).1 = []
    · rw [if_pos bare] at fits ⊢
      rw [if_pos bare, ← fits, flatten_nil, append_nil]
      exact iff_of_true rfl nofun
    · rw [if_neg bare] at fits
      rw [if_neg bare, if_neg bare]
      have onwards := rest_after tags sorted _ left split.symm bare
      have later : (pagesServed serve pages (serve state last).2 (serve state last).1.getLast?).flatten = left := by
        rw [← split] at fits
        exact append_cancel_left fits
      have ended : pagesServed serve pages (serve state last).2 (serve state last).1.getLast? = [] ↔ left = [] := by
        constructor
        · intro none_
          rw [← later, none_]
          rfl
        · intro done
          cases pages with
          | zero => rfl
          | succ pages =>
            have nothing := honest.page (serve state last).2 (serve state last).1.getLast?
            rw [onwards, done, prefix_nil] at nothing
            exact if_pos nothing
      by_cases short : (serve state last).1.length < pageSize
      · rw [if_pos short]
        constructor
        · intro complete
          have same := Except.ok.inj complete
          rw [← split, ← append_assoc, self_eq_append_right] at same
          rw [ended.mpr same]
          exact nofun
        · intro full
          have done : left = [] := by
            by_contra more
            refine absurd (full (serve state last).1 ?_) (Nat.ne_of_lt short)
            rw [dropLast_cons_of_ne_nil (fun none_ => more (ended.mp none_))]
            exact mem_cons_self
          rw [← split, done, append_nil]
          rfl
      · have moved : (serve state last).1.getLast? ≠ last := by
          intro same
          rw [same] at onwards
          rw [onwards] at split
          exact bare (append_left_eq_self.mp split)
        have whole : (serve state last).1.length = pageSize := Nat.le_antisymm (honest.bounded state last) (not_lt.mp short)
        rw [if_neg short, if_neg moved]
        have next := ih (serve state last).1.getLast? (acc ++ (serve state last).1) (serve state last).2
          (later.trans onwards.symm)
        rw [onwards, append_assoc, split] at next
        rw [next]
        by_cases done : left = []
        · rw [ended.mpr done]
          exact iff_of_true (nofun) nofun
        · rw [dropLast_cons_of_ne_nil (fun none_ => done (ended.mp none_))]
          simp [whole]

end Registry

-- Every tag comes once and in order, just where no page but the last is short.
theorem collect_all_tags_exact {Tag State : Type} [LinearOrder Tag] (pageSize : Nat) :
    (∀ (serve : State → Option Tag → List Tag × State) (tags : List Tag) (state : State), tags.Pairwise (· < ·) →
      Honest serve tags pageSize → (pagesServed serve maxPages state none).flatten = tags →
      (((collectAllTags pageSize).play (answering serve) state).1 = .ok tags ↔
        ∀ page ∈ (pagesServed serve maxPages state none).dropLast, page.length = pageSize)) ∧
    ∀ (serve : State → Option Tag → Except String (List Tag) × State) (state : State),
      ((collectAllTags pageSize).talk serve state).length ≤ maxPages ∧
      ∀ why, ((collectAllTags pageSize).play serve state).1 = .error why →
        ∃ cursor, (⟨cursor, .error why⟩ : Exchange (tagApi Tag)) ∈ (collectAllTags pageSize).talk serve state := by
  refine ⟨fun serve tags state sorted honest fits => ?_, fun serve state => ⟨?_, fun why failed => ?_⟩⟩
  · exact walk_complete serve tags sorted pageSize honest maxPages none [] state fits
  · exact walk_bounded serve pageSize maxPages none [] state
  · exact walk_error serve pageSize maxPages none [] state why failed

def cappedAt (cap : Nat) (tags : List String) (state : Unit) (last : Option String) : List String × Unit :=
  ((restOf tags last).take cap, state)

theorem capped_honest {cap : Nat} (tags : List String) {pageSize : Nat} (fits : cap ≤ pageSize) (positive : 0 < cap) :
    Honest (cappedAt cap tags) tags pageSize where
  page _ last := take_prefix cap (restOf tags last)
  bounded _ last := (length_take_le cap (restOf tags last)).trans fits
  served _ last more none_ := by
    rcases take_eq_nil_iff.mp none_ with zero | done
    · exact absurd zero positive.ne'
    · exact more done

def releases : List String := ["0.2.0", "0.2.1", "0.2.2"]

theorem releases_collected : ((collectAllTags 2).play (answering (cappedAt 2 releases)) ()).1 = .ok releases ∧
      ((collectAllTags 2).talk (answering (cappedAt 2 releases)) ()).length ≤ maxPages := by
  refine ⟨((collect_all_tags_exact 2).1 (cappedAt 2 releases) releases () (by decide +kernel)
    (capped_honest releases (by decide) (by decide)) (by decide +kernel)).mpr (by decide +kernel), ?_⟩
  exact ((collect_all_tags_exact 2).2 (answering (cappedAt 2 releases)) ()).1

-- The registry caps the page at one tag, so the first page is short and the walk ends there.
theorem capped_tags_lost :
    ¬ ∀ (serve : Unit → Option String → List String × Unit) (tags : List String) (pageSize : Nat), tags.Pairwise (· < ·) →
      1 ≤ pageSize → Honest serve tags pageSize → (pagesServed serve maxPages () none).flatten = tags →
      ((collectAllTags pageSize).play (answering serve) ()).1.toOption = some tags := by
  intro claimed
  have collected := claimed (cappedAt 1 releases) releases 2 (by decide +kernel) (by decide)
    (capped_honest releases (by decide) (by decide)) (by decide +kernel)
  exact absurd collected (by decide +kernel)

end AppRafter.Platform
