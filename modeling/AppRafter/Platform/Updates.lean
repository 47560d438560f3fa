import AppRafter.Platform.Status

set_option autoImplicit false

namespace AppRafter.Platform

open List Option

section Lists

variable (conditions : List PlatformStackCondition)

theorem find_condition_cons (held : PlatformStackCondition) (type : String) :
    findCondition (held :: conditions) type = if held.type = type then some held else findCondition conditions type := by
  by_cases mine : held.type = type
  · simp [findCondition, mine]
  · simp [findCondition, mine]

theorem find_upserted (c : PlatformStackCondition) : findCondition (upsertList c conditions) c.type = some c := by
  induction conditions with
  | nil => simp [upsertList, findCondition]
  | cons held rest ih =>
    by_cases same : held.type = c.type
    · rw [upsertList, if_pos same]
      simp [findCondition]
    · rw [upsertList, if_neg same, find_condition_cons, if_neg same, ih]

variable {c : PlatformStackCondition} {type : String}

theorem find_upsert_other (apart : c.type ≠ type) :
    findCondition (upsertList c conditions) type = findCondition conditions type := by
  induction conditions with
  | nil => simp [upsertList, findCondition, apart]
  | cons held rest ih =>
    by_cases same : held.type = c.type
    · rw [upsertList, if_pos same, find_condition_cons, find_condition_cons, if_neg apart, if_neg (same ▸ apart)]
    · rw [upsertList, if_neg same, find_condition_cons, find_condition_cons, ih]

theorem upsert_same (found : findCondition conditions c.type = some c) : upsertList c conditions = conditions := by
  induction conditions with
  | nil => cases found
  | cons held rest ih =>
    by_cases same : held.type = c.type
    · rw [find_condition_cons, if_pos same] at found
      rw [upsertList, if_pos same, some.inj found]
    · rw [find_condition_cons, if_neg same] at found
      rw [upsertList, if_neg same, ih found]

theorem find_filtered {keep : PlatformStackCondition → Bool}
    (kept : ∀ c : PlatformStackCondition, c.type = type → keep c = true) :
    findCondition (conditions.filter keep) type = findCondition conditions type := by
  induction conditions with
  | nil => rfl
  | cons held rest ih =>
    by_cases passed : keep held = true
    · rw [filter_cons_of_pos passed, find_condition_cons, find_condition_cons, ih]
    · rw [filter_cons_of_neg passed, find_condition_cons, if_neg fun mine => passed (kept held mine), ih]

theorem find_unstalled (apart : type ≠ condReconcileStalled) :
    findCondition (dropStalled conditions) type = findCondition conditions type := by
  refine find_filtered conditions ?_
  rintro c rfl
  simpa using apart

theorem find_retired (type : String) : findCondition (conditions.filter fun c => c.type != type) type = none := by
  rw [findCondition, find?_eq_none]
  intro c member
  have other := (mem_filter.mp member).2
  simpa using other

theorem filter_absent (type : String) (absent : findCondition conditions type = none) :
    (conditions.filter fun c => c.type != type) = conditions := by
  rw [filter_eq_self]
  intro c member
  have missed := find?_eq_none.mp absent c member
  simpa using missed

variable (seen : List String)

theorem find_first_of_each (type : String) (fresh : type ∉ seen) :
    findCondition (firstOfEach seen conditions) type = findCondition conditions type := by
  induction conditions generalizing seen with
  | nil => rfl
  | cons held rest ih =>
    by_cases known : held.type ∈ seen
    · have other : held.type ≠ type := fun same => fresh (same ▸ known)
      rw [firstOfEach, if_pos known, ih seen fresh, find_condition_cons, if_neg other]
    · rw [firstOfEach, if_neg known, find_condition_cons, find_condition_cons]
      by_cases mine : held.type = type
      · rw [if_pos mine, if_pos mine]
      · rw [if_neg mine, if_neg mine]
        exact ih (held.type :: seen) fun member => (mem_cons.mp member).elim (fun same => mine same.symm) fresh

theorem first_of_each_types (c : PlatformStackCondition) (member : c ∈ firstOfEach seen conditions) :
    c ∈ conditions ∧ c.type ∉ seen := by
  induction conditions generalizing seen with
  | nil => cases member
  | cons held rest ih =>
    by_cases known : held.type ∈ seen
    · rw [firstOfEach, if_pos known] at member
      obtain ⟨later, fresh⟩ := ih seen member
      exact ⟨mem_cons_of_mem _ later, fresh⟩
    · rw [firstOfEach, if_neg known] at member
      rcases mem_cons.mp member with rfl | later
      · exact ⟨mem_cons_self, known⟩
      · obtain ⟨held_, fresh⟩ := ih (held.type :: seen) later
        exact ⟨mem_cons_of_mem _ held_, fun old => fresh (mem_cons_of_mem _ old)⟩

theorem first_of_each_once : ((firstOfEach seen conditions).map (·.type)).Nodup := by
  induction conditions generalizing seen with
  | nil => exact nodup_nil
  | cons held rest ih =>
    by_cases known : held.type ∈ seen
    · rw [firstOfEach, if_pos known]
      exact ih seen
    · rw [firstOfEach, if_neg known, map_cons, nodup_cons]
      refine ⟨fun twice => ?_, ih _⟩
      obtain ⟨c, member, same⟩ := mem_map.mp twice
      exact (first_of_each_types rest _ c member).2 (same ▸ mem_cons_self)

theorem first_of_each_self (once : (conditions.map (·.type)).Nodup)
    (fresh : ∀ c ∈ conditions, c.type ∉ seen) : firstOfEach seen conditions = conditions := by
  induction conditions generalizing seen with
  | nil => rfl
  | cons held rest ih =>
    obtain ⟨apart, onceRest⟩ := nodup_cons.mp once
    rw [firstOfEach, if_neg (fresh held mem_cons_self)]
    refine congrArg _ (ih (held.type :: seen) onceRest ?_)
    intro c member old
    rcases mem_cons.mp old with same | old
    · exact apart (mem_map.mpr ⟨c, member, same⟩)
    · exact fresh c (mem_cons_of_mem _ member) old

end Lists

section Updates

variable (prior : List PlatformStackCondition) (now : String → String) (status : PlatformStackStatus)

theorem retired_conds (type : String) :
    ((Update.retire type).run prior now status).conds = status.conds.filter fun c => c.type != type := by
  change ((status.conditions.map fun held => held.filter fun c => c.type != type).getD []) = _
  rw [PlatformStackStatus.conds]
  cases status.conditions <;> rfl

theorem run_made (update : Update) : update.Holds (update.run prior now status) := by
  cases update with
  | upsert type wording =>
    refine ⟨(condition type wording prior (now type)).lastTransitionTime, ?_⟩
    exact find_upserted status.conds (condition type wording prior (now type))
  | retire type =>
    change findCondition _ type = none
    rw [retired_conds]
    exact find_retired status.conds type

variable {update : Update} {type : String} {updates : List Update}

theorem run_find_other (apart : update.type ≠ type) :
    findCondition (update.run prior now status).conds type = findCondition status.conds type := by
  cases update with
  | upsert other wording =>
    exact find_upsert_other status.conds apart
  | retire other =>
    rw [retired_conds]
    refine find_filtered status.conds ?_
    rintro c rfl
    simpa using fun same : c.type = other => apart same.symm

theorem holds_of_find {other : PlatformStackStatus}
    (same : findCondition other.conds update.type = findCondition status.conds update.type) (holds : update.Holds status) :
    update.Holds other := by
  cases update with
  | upsert type wording =>
    obtain ⟨time, found⟩ := holds
    exact ⟨time, same.trans found⟩
  | retire type => exact same.trans holds

theorem updates_find (apart : ∀ update ∈ updates, update.type ≠ type) :
    findCondition (runUpdates prior now status updates).conds type = findCondition status.conds type := by
  induction updates generalizing status with
  | nil => rfl
  | cons update rest ih =>
    exact (ih _ fun later member => apart later (mem_cons_of_mem _ member)).trans
      (run_find_other prior now status (apart update mem_cons_self))

theorem updates_hold (member : update ∈ updates) (unique : ∀ other ∈ updates, other.type = update.type → other = update) :
    update.Holds (runUpdates prior now status updates) := by
  induction updates generalizing status with
  | nil => cases member
  | cons first rest ih =>
    by_cases later : update ∈ rest
    · exact ih _ later fun other held => unique other (mem_cons_of_mem _ held)
    · have same : update = first := (mem_cons.mp member).resolve_right later
      subst same
      rw [runUpdates, foldl_cons]
      refine holds_of_find _ (updates_find prior now _ ?_) (run_made prior now status update)
      intro other held type
      exact later (unique other (mem_cons_of_mem _ held) type ▸ held)

theorem run_settled (holds : update.Holds status) : update.run status.conds now status = status := by
  cases update with
  | upsert type wording =>
    obtain ⟨time, found⟩ := holds
    have carried : condition type wording status.conds (now type) =
        { type := type, status := wording.status, reason := some wording.reason, message := some wording.message,
          lastTransitionTime := time } := by
      rw [condition, found]
      simp [Option.filter]
    have filled : status.conditions = some status.conds := by
      rw [PlatformStackStatus.conds] at found ⊢
      cases held : status.conditions with
      | none =>
        rw [held] at found
        cases found
      | some conditions => rfl
    change { status with conditions := some (upsertList (condition type wording status.conds (now type)) status.conds) } = status
    rw [carried, upsert_same _ found, ← filled]
  | retire type =>
    change { status with conditions := status.conditions.map fun held => held.filter fun c => c.type != type } = status
    change findCondition (status.conditions.getD []) type = none at holds
    cases held : status.conditions with
    | none =>
      cases status
      cases held
      rfl
    | some conditions =>
      rw [held] at holds
      rw [map_some, filter_absent conditions type holds, ← held]

theorem updates_settled (holds : ∀ update ∈ updates, update.Holds status) :
    runUpdates status.conds now status updates = status := by
  induction updates with
  | nil => rfl
  | cons update rest ih =>
    rw [runUpdates, foldl_cons, run_settled now _ (holds update mem_cons_self)]
    exact ih fun later member => holds later (mem_cons_of_mem _ member)

theorem updates_rest (updates : List Update) :
    runUpdates prior now status updates = { status with conditions := (runUpdates prior now status updates).conditions } := by
  induction updates generalizing status with
  | nil => rfl
  | cons update rest ih =>
    have one : update.run prior now status = { status with conditions := (update.run prior now status).conditions } := by
      cases update <;> rfl
    change runUpdates prior now (update.run prior now status) rest =
      { status with conditions := (runUpdates prior now (update.run prior now status) rest).conditions }
    rw [ih (update.run prior now status)]
    rw [one]

theorem updates_keep (kept : Update.retire type ∉ updates)
    (present : findCondition status.conds type ≠ none) : findCondition (runUpdates prior now status updates).conds type ≠ none := by
  induction updates generalizing status with
  | nil => exact present
  | cons update rest ih =>
    refine ih _ (fun later => kept (mem_cons_of_mem _ later)) ?_
    by_cases mine : update.type = type
    · cases update with
      | upsert other wording =>
        obtain ⟨_, found⟩ := run_made prior now status (.upsert other wording)
        rw [← mine]
        change findCondition _ other ≠ none
        rw [found]
        exact some_ne_none _
      | retire other => exact absurd (mine ▸ mem_cons_self) kept
    · rw [run_find_other prior now status mine]
      exact present

theorem updates_none (none : (runUpdates prior now status updates).conditions = none) : status.conditions = .none := by
  induction updates generalizing status with
  | nil => exact none
  | cons update rest ih =>
    have before := ih _ none
    cases update with
    | upsert type wording => cases before
    | retire type => exact map_eq_none_iff.mp before

end Updates

end AppRafter.Platform
