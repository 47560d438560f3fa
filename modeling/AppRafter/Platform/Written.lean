import AppRafter.Lib.Play
import AppRafter.Platform.Controller
import AppRafter.Platform.Updates

set_option autoImplicit false

namespace AppRafter.Platform

open Lib List Option

def PlatformStackStatus.types (status : PlatformStackStatus) : List String := status.conds.map (·.type)

section View

variable (status : PlatformStackStatus)

theorem view_conds : (platformControllerView status).conds = firstOfEach [] (dropStalled status.conds) := by
  rw [PlatformStackStatus.conds, PlatformStackStatus.conds, platformControllerView]
  cases status.conditions <;> rfl

theorem without_conds : (withoutReconcileStalled status).conds = dropStalled status.conds := by
  rw [PlatformStackStatus.conds, PlatformStackStatus.conds, withoutReconcileStalled]
  cases status.conditions <;> rfl

theorem view_types (type : String) :
    type ∈ (platformControllerView status).types ↔ type ∈ status.types ∧ type ≠ condReconcileStalled := by
  have found : ∀ (conditions : List PlatformStackCondition) (type : String),
      type ∈ conditions.map (·.type) ↔ findCondition conditions type ≠ none := by
    intro conditions type
    rw [Ne, findCondition]
    simp
  rw [PlatformStackStatus.types, view_conds]
  by_cases apart : type = condReconcileStalled
  · constructor
    · intro member
      obtain ⟨c, held, same⟩ := mem_map.mp member
      have kept := (mem_filter.mp (first_of_each_types _ [] c held).1).2
      exact absurd (same.trans apart) (by simpa using kept)
    · exact fun both => absurd apart both.2
  · rw [and_iff_left apart, PlatformStackStatus.types, found, found, find_first_of_each _ [] type not_mem_nil,
      find_unstalled _ apart]

theorem view_unstalled : dropStalled (platformControllerView status).conds = (platformControllerView status).conds := by
  rw [view_conds, dropStalled, filter_eq_self]
  intro c member
  exact (mem_filter.mp (first_of_each_types _ [] c member).1).2

theorem view_once : ((platformControllerView status).conds.map (·.type)).Nodup := by
  rw [view_conds]
  exact first_of_each_once _ []

end View

section Applied

variable {before after : PlatformStack} {sent : PlatformStackStatus} (applied : applyStatus before sent = some after)

include applied

theorem applied_conditions : after.conditions =
    (before.conditions.filter (before.conditionMap.stays (·.type) fieldManager sent.conds)) ++ sent.conds := by
  obtain ⟨made, ran, same⟩ := map_eq_some_iff.mp applied
  have live : made.live = before.conditions.filter (before.conditionMap.stays (·.type) fieldManager sent.conds) ++ sent.conds :=
    ListMap.apply_live _ ran
  rw [← same, ← live]
  split
  · rename_i empty
    exact (List.isEmpty_iff.mp (Bool.and_eq_true_iff.mp empty).2).symm
  · rfl

theorem applied_status : after.status = some { sent with
    conditions := if sent.conditions.isNone && after.conditions.isEmpty then none else some after.conditions } := by
  have listed := applied_conditions applied
  obtain ⟨made, ran, same⟩ := map_eq_some_iff.mp applied
  have live := ListMap.apply_live _ ran
  have all : after.conditions = made.live := listed.trans live.symm
  rw [all, ← same]

theorem applied_owners : after.statusOwners = before.conditionMap.ownersAfter fieldManager sent.types := by
  obtain ⟨made, ran, same⟩ := map_eq_some_iff.mp applied
  rw [← same]
  exact ListMap.apply_owners _ ran

theorem applied_rest : after.name = before.name ∧ after.spec = before.spec ∧
    after.recheckRequested = before.recheckRequested := by
  obtain ⟨made, _, same⟩ := map_eq_some_iff.mp applied
  rw [← same]
  exact ⟨rfl, rfl, rfl⟩

theorem applied_owned : ownedConditions after fieldManager = if sent.types.isEmpty then none else some sent.types := by
  rw [ownedConditions, PlatformStack.conditionMap, applied_owners applied]
  exact ListMap.owned_after_self ⟨after.conditions, before.statusOwners⟩ fieldManager sent.types

end Applied

section Left

variable {before after : PlatformStack} (new : PlatformStackStatus)
variable (applied : applyStatus before (platformControllerView new) = some after)

include applied

theorem applied_no_reapply : controllerMustReapply after = false := by
  rw [controllerMustReapply, applied_owned applied]
  split
  · rfl
  · rename_i filled
    have unstalled : condReconcileStalled ∉ (platformControllerView new).types := by
      rw [view_types]
      exact fun both => both.2 rfl
    simp [filled, unstalled]

theorem applied_types {type : String} (member : type ∈ after.prior.types) : type ∈ before.prior.types ∨ type ∈ new.types := by
  obtain ⟨c, held, same⟩ := mem_map.mp member
  have listed : c ∈ after.conditions := held
  rw [applied_conditions applied] at listed
  rcases mem_append.mp listed with old | made
  · exact .inl (mem_map.mpr ⟨c, (mem_filter.mp old).1, same⟩)
  · have sent : type ∈ (platformControllerView new).types := mem_map.mpr ⟨c, made, same⟩
    exact .inr ((view_types new type).mp sent).1

theorem applied_left (extra : ∀ type ∈ after.prior.types, type ≠ condReconcileStalled → type ∈ new.types)
    (empty : new.conditions = none → after.conditions = []) :
    withoutReconcileStalled after.prior = platformControllerView new := by
  have listed := applied_conditions applied
  have gone : dropStalled (before.conditions.filter
      (before.conditionMap.stays (·.type) fieldManager (platformControllerView new).conds)) = [] := by
    rw [dropStalled, filter_eq_nil_iff]
    intro c member stays
    have apart : c.type ≠ condReconcileStalled := by simpa using stays
    have present : c ∈ after.conditions := by
      rw [listed]
      exact mem_append_left _ member
    have sent := (view_types new c.type).mpr ⟨extra c.type (mem_map_of_mem present) apart, apart⟩
    have kept := (mem_filter.mp member).2
    rw [ListMap.stays, Bool.and_eq_true, Bool.not_eq_true', contains_eq_mem, decide_eq_false_iff_not] at kept
    exact kept.1 sent
  have shown : dropStalled after.conditions = (platformControllerView new).conds := by
    rw [listed, dropStalled, filter_append, ← dropStalled, ← dropStalled, gone, nil_append, view_unstalled]
  rw [PlatformStack.prior, applied_status applied, getD_some, withoutReconcileStalled]
  cases held : new.conditions with
  | none =>
    have none_sent : (platformControllerView new).conditions = none := by
      rw [platformControllerView, held]
      rfl
    rw [empty held, none_sent]
    change { platformControllerView new with conditions := none } = platformControllerView new
    rw [← none_sent]
  | some conditions =>
    have sent : (platformControllerView new).conditions = some (platformControllerView new).conds := by
      rw [platformControllerView, held]
      rfl
    have filled : (if (platformControllerView new).conditions.isNone && after.conditions.isEmpty then none
        else some after.conditions) = some after.conditions := by
      rw [sent]
      rfl
    rw [filled, map_some, shown, ← sent]

end Left

theorem view_view (status : PlatformStackStatus) :
    platformControllerView (platformControllerView status) = platformControllerView status := by
  have once := view_once status
  have unstalled := view_unstalled status
  cases held : status.conditions with
  | none =>
    have none_left : (platformControllerView status).conditions = none := by
      rw [platformControllerView, held]
      rfl
    rw [platformControllerView, none_left]
    change { platformControllerView status with conditions := none } = platformControllerView status
    rw [← none_left]
  | some conditions =>
    have filled : (platformControllerView status).conditions = some (platformControllerView status).conds := by
      rw [platformControllerView, held]
      rfl
    rw [platformControllerView, filled, map_some, map_some, unstalled,
      first_of_each_self _ [] once fun _ _ => not_mem_nil, ← filled]

variable {Value : Type} {fate : StackFate}

theorem read_ok {value shown : Value} (replied : fate.read value = .ok shown) : fate.answer = .ok () ∧ shown = value := by
  rw [StackFate.read] at replied
  cases answered : fate.answer with
  | error why =>
    rw [answered] at replied
    cases replied
  | ok done =>
    rw [answered] at replied
    exact ⟨rfl, (Except.ok.inj replied).symm⟩

theorem write_landed (world after : StackWorld) (answered : fate.answer = .ok ()) : fate.write world after = after := by
  rw [StackFate.write, StackFate.landed, answered]
  exact if_pos (Bool.or_true _)

theorem try_finishes {reply : Reply Value} {world final : StackWorld} {history : List (Exchange stackApi)}
    {value : Value} (finished : (try_ reply).Finishes serveStack world history value final) :
    history = [] ∧ reply = .ok value ∧ world = final := by
  cases reply with
  | error why => exact finished.elim
  | ok given => exact ⟨finished.1, congrArg Except.ok finished.2.1, finished.2.2⟩

section Write

variable {world final : StackWorld} {history : List (Exchange stackApi)}

variable {new : PlatformStackStatus} {stack after : PlatformStack} {recorded : Option (List VersionHistoryEntry)}

theorem write_status_finishes (finished : (writeStatus new).Finishes serveStack world history () final) :
    ∃ server live, applyStatus world.live
        (platformControllerView { new with versionHistory := some (mergeVersionHistory server (new.versionHistory.getD [])) }) =
          some live ∧ final = { world with live := live } := by
  obtain ⟨fate, later, _, rest⟩ := finished
  cases read : (serveStack world fate .getStatus).1 with
  | error why =>
    rw [read] at rest
    exact rest.elim
  | ok server =>
    rw [read] at rest
    obtain ⟨fate, later, _, rest⟩ := rest
    obtain ⟨_, replied, same⟩ := try_finishes rest
    refine ⟨server, ?_⟩
    change (serveStatus world fate _).1 = .ok () at replied
    change (serveStatus world fate _).2 = final at same
    cases applied : applyStatus world.live
        (platformControllerView { new with versionHistory := some (mergeVersionHistory server (new.versionHistory.getD [])) }) with
    | none =>
      rw [serveStatus, applied] at replied
      cases replied
    | some live =>
      rw [serveStatus, applied] at replied same
      exact ⟨live, rfl, by rw [← same]; exact write_landed world _ replied⟩

structure Reported (stack after : PlatformStack) (new : PlatformStackStatus) : Prop where
  rest : after.name = stack.name ∧ after.spec = stack.spec ∧ after.recheckRequested = stack.recheckRequested
  reapply : controllerMustReapply after = false
  status : ∃ recorded, withoutReconcileStalled after.prior = { platformControllerView new with versionHistory := recorded }

theorem applied_reported
    (applied : applyStatus stack (platformControllerView { new with versionHistory := recorded }) = some after)
    (extra : ∀ type ∈ after.prior.types, type ≠ condReconcileStalled → type ∈ new.types)
    (empty : new.conditions = none → after.conditions = []) : Reported stack after new where
  rest := applied_rest applied
  reapply := applied_no_reapply { new with versionHistory := recorded } applied
  status := ⟨recorded, applied_left { new with versionHistory := recorded } applied extra empty⟩

theorem applied_empty {before : PlatformStack} {sent : PlatformStackStatus} (applied : applyStatus before sent = some after)
    (bare : before.conditions = []) (nothing : sent.conditions = none) : after.conditions = [] := by
  have unsent : sent.conds = [] := by
    rw [PlatformStackStatus.conds, nothing]
    rfl
  rw [applied_conditions applied, bare, unsent]
  rfl

theorem without_types {status : PlatformStackStatus} {type : String} (member : type ∈ status.types)
    (apart : type ≠ condReconcileStalled) : type ∈ (withoutReconcileStalled status).types := by
  obtain ⟨c, held, same⟩ := mem_map.mp member
  rw [PlatformStackStatus.types, without_conds]
  refine mem_map.mpr ⟨c, mem_filter.mpr ⟨held, ?_⟩, same⟩
  simpa [same] using apart

theorem adopted_reported (unchanged : withoutReconcileStalled stack.prior = platformControllerView new)
    (applied : applyStatus stack (platformControllerView { withoutReconcileStalled stack.prior with versionHistory := recorded }) =
      some after) : Reported stack after new := by
  have left : Reported stack after (withoutReconcileStalled stack.prior) := by
    refine applied_reported applied ?_ ?_
    · intro type member apart
      rcases applied_types _ applied member with old | sent
      · exact without_types old apart
      · exact sent
    · intro none
      have bare : stack.conditions = [] := by
        change stack.prior.conditions.getD [] = []
        rw [map_eq_none_iff.mp none]
        rfl
      exact applied_empty applied bare (by
        rw [platformControllerView]
        rw [none]
        rfl)
  refine ⟨left.rest, left.reapply, ?_⟩
  obtain ⟨kept, same⟩ := left.status
  rw [unchanged, view_view] at same
  exact ⟨kept, same⟩

theorem write_finishes (here : world.live = stack)
    (finished : (writeStatusIfChanged stack new).Finishes serveStack world history () final)
    (extra : ∀ type ∈ final.live.prior.types, type ≠ condReconcileStalled → type ∈ new.types)
    (bare : new.conditions = none → stack.conditions = []) :
    Reported stack final.live new ∧ final = { world with live := final.live } := by
  rw [writeStatusIfChanged] at finished
  have unsent : ∀ recorded, new.conditions = none →
      (platformControllerView { new with versionHistory := recorded }).conditions = none := by
    intro recorded none
    rw [none]
    rfl
  split at finished
  · rename_i idle
    obtain ⟨_, _, rfl⟩ := finished
    simp only [Bool.and_eq_true, Bool.not_eq_true', statusUnchanged, decide_eq_true_eq] at idle
    rw [here]
    exact ⟨⟨⟨rfl, rfl, rfl⟩, idle.2, ⟨_, idle.1⟩⟩, by rw [← here]⟩
  · split at finished
    · obtain ⟨_, middle, first, second, _, adopted, continued⟩ := (Prog.finishes_bind serveStack _ _ _ _ _ _).mp finished
      obtain ⟨server, live, applied, same⟩ := write_status_finishes adopted
      rw [here] at applied
      by_cases unchanged : statusUnchanged stack new = true
      · rw [if_pos unchanged] at continued
        obtain ⟨_, _, last⟩ := continued
        rw [← last, same]
        exact ⟨adopted_reported (of_decide_eq_true unchanged) applied, rfl⟩
      · rw [if_neg unchanged] at continued
        obtain ⟨server, last, written, made⟩ := write_status_finishes continued
        have between : middle.live = live := by rw [same]
        rw [between] at written
        have shown : final.live = last := by rw [made]
        rw [shown] at extra ⊢
        refine ⟨?_, by rw [made, same]⟩
        have left := applied_reported written extra fun none => ?_
        · obtain ⟨name, spec, recheck⟩ := left.rest
          obtain ⟨firstName, firstSpec, firstRecheck⟩ := applied_rest applied
          exact ⟨⟨name.trans firstName, spec.trans firstSpec, recheck.trans firstRecheck⟩, left.reapply, left.status⟩
        · refine applied_empty written ?_ (unsent _ none)
          have nothing := bare none
          rw [applied_conditions applied, nothing, filter_nil, view_conds]
          change firstOfEach [] (dropStalled (withoutReconcileStalled stack.prior).conds) = []
          rw [without_conds]
          change firstOfEach [] (dropStalled (dropStalled stack.conditions)) = []
          rw [nothing]
          rfl
    · obtain ⟨server, live, applied, same⟩ := write_status_finishes finished
      rw [here] at applied
      have shown : final.live = live := by rw [same]
      rw [shown] at extra ⊢
      exact ⟨applied_reported applied extra fun none =>
        applied_empty applied (bare none) (unsent _ none), same⟩

end Write

end AppRafter.Platform
