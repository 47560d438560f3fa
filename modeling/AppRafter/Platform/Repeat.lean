import AppRafter.Platform.Stages

set_option autoImplicit false

namespace AppRafter.Platform

open Lib List Option

-- It is on record, has one entry there, and no other manager holds it.
structure Retires (stack : PlatformStack) (type : String) : Prop where
  once : (stack.statusOwners.map Prod.fst).Nodup
  recorded : ∃ owned, ownedConditions stack fieldManager = some owned
  alone : stack.conditionMap.heldByOther fieldManager type = false
  apart : type ≠ condReconcileStalled

variable {stack : PlatformStack} {manager type : String}

theorem owned_of_mem {owned : List String}
    (once : (stack.statusOwners.map Prod.fst).Nodup) (member : (manager, owned) ∈ stack.statusOwners) :
    ownedConditions stack manager = some owned := by
  have found : (stack.statusOwners.find? fun owner => owner.1 = manager).isSome = true :=
    find?_isSome.mpr ⟨(manager, owned), member, by simp⟩
  obtain ⟨owner, searched⟩ := isSome_iff_exists.mp found
  have mine : owner.1 = manager := by simpa using find?_some searched
  have same : owner = (manager, owned) := inj_on_of_nodup_map once (mem_of_find?_eq_some searched) member mine
  change (stack.statusOwners.find? fun owner => owner.1 = manager).map Prod.snd = _
  rw [searched, same]
  rfl

theorem alone_mem
    (alone : stack.conditionMap.heldByOther manager type = false) {owner : String × List String} (member : owner ∈ stack.statusOwners)
    (holds : owner.2 = [] ∨ type ∈ owner.2) : owner.1 = manager := by
  by_contra other
  rw [ListMap.heldByOther, List.any_eq_false] at alone
  refine alone owner member ?_
  rw [Bool.and_eq_true, Bool.or_eq_true, List.isEmpty_iff, contains_iff_mem]
  exact ⟨decide_eq_true other, holds⟩

section Apply

variable {before after : PlatformStack} {sent : PlatformStackStatus} {type : String}
variable (applied : applyStatus before sent = some after)

include applied

theorem applied_gone (unsent : type ∉ sent.types) (owned : before.conditionMap.ownsKey fieldManager type = true)
    (alone : before.conditionMap.heldByOther fieldManager type = false) : type ∉ after.prior.types := by
  intro member
  obtain ⟨c, listed, same⟩ := mem_map.mp member
  have shown : c ∈ after.conditions := listed
  rw [applied_conditions applied] at shown
  rcases mem_append.mp shown with stayed | made
  · have kept := (mem_filter.mp stayed).2
    rw [ListMap.stays, same, owned, alone] at kept
    simp at kept
  · exact unsent (List.mem_map.mpr ⟨c, made, same⟩)

theorem applied_alone (alone : before.conditionMap.heldByOther fieldManager type = false) :
    after.conditionMap.heldByOther fieldManager type = false := by
  rw [ListMap.heldByOther, List.any_eq_false]
  intro owner member
  have listed : owner ∈ before.conditionMap.ownersAfter fieldManager sent.types := by
    rw [← applied_owners applied]
    exact member
  rcases (ListMap.mem_owners_after before.conditionMap fieldManager sent.types owner).mp listed with ⟨other, _⟩ | ⟨_, rfl⟩
  · rw [ListMap.heldByOther, List.any_eq_false] at alone
    exact alone owner other
  · simp

theorem applied_owns (member : type ∈ sent.types) : after.conditionMap.ownsKey fieldManager type = true := by
  have filled : sent.types.isEmpty = false := by
    rw [Bool.eq_false_iff]
    intro empty
    rw [List.isEmpty_iff.mp empty] at member
    cases member
  change (ownedConditions after fieldManager).any (fun keys => keys.contains type) = true
  rw [applied_owned applied, filled, if_neg Bool.false_ne_true, any_some, contains_iff_mem]
  exact member

end Apply

section Write

variable {world final : StackWorld} {history : List (Exchange stackApi)} (stack : PlatformStack) (new : PlatformStackStatus)
variable (here : world.live = stack) (finished : (writeStatusIfChanged stack new).Finishes serveStack world history () final)

include here finished

theorem write_types {type : String} (member : type ∈ final.live.prior.types) : type ∈ stack.prior.types ∨ type ∈ new.types := by
  rw [writeStatusIfChanged] at finished
  split at finished
  · obtain ⟨_, _, rfl⟩ := finished
    exact .inl (here ▸ member)
  · split at finished
    · obtain ⟨_, middle, first, second, _, adopted, continued⟩ := (Prog.finishes_bind serveStack _ _ _ _ _ _).mp finished
      obtain ⟨server, live, applied, same⟩ := write_status_finishes adopted
      have between : middle.live = live := by rw [same]
      have old : ∀ type ∈ middle.live.prior.types, type ∈ stack.prior.types := by
        intro type member
        rw [between] at member
        rcases applied_types _ applied member with before | sent
        · exact here ▸ before
        · obtain ⟨c, held, typed⟩ := mem_map.mp sent
          have kept : c ∈ dropStalled stack.conditions := by
            change c ∈ (withoutReconcileStalled stack.prior).conds at held
            rwa [without_conds] at held
          exact mem_map.mpr ⟨c, (mem_filter.mp kept).1, typed⟩
      by_cases unchanged : statusUnchanged stack new = true
      · rw [if_pos unchanged] at continued
        exact .inl (old type (continued.2.2 ▸ member))
      · rw [if_neg unchanged] at continued
        obtain ⟨server, last, written, made⟩ := write_status_finishes continued
        rw [made] at member
        exact (applied_types _ written member).imp_left (old type)
    · obtain ⟨server, live, applied, same⟩ := write_status_finishes finished
      rw [same] at member
      exact here ▸ applied_types _ applied member

end Write

section Direct

variable (stack : PlatformStack) (new : PlatformStackStatus) {type : String} (retires : Retires stack type)

include retires

theorem direct_owns (direct : controllerMustAdoptFirst stack new = false) (present : type ∈ stack.prior.types)
    (left : type ∉ new.types) : stack.conditionMap.ownsKey fieldManager type = true := by
  obtain ⟨owned, recorded⟩ := retires.recorded
  have mine : ∀ owner ∈ stack.statusOwners, (owner.2 = [] ∨ type ∈ owner.2) → owner.2 = owned := by
    intro owner member holds
    have named := alone_mem retires.alone member holds
    have entry : (fieldManager, owner.2) ∈ stack.statusOwners := named ▸ member
    exact some.inj ((owned_of_mem retires.once entry).symm.trans recorded)
  rw [controllerMustAdoptFirst] at direct
  by_cases whole : controllerOwnsListWhole stack = true
  · rw [if_pos whole] at direct
    cases direct
  have keyed : owned ≠ [] := by
    intro empty
    rw [controllerOwnsListWhole, ownsListWhole, recorded, empty] at whole
    exact whole rfl
  have unwhole : anyOwnsWhole stack = false := by
    rw [anyOwnsWhole, List.any_eq_false]
    intro owner member empty
    have bare := List.isEmpty_iff.mp empty
    exact keyed ((mine owner member (.inl bare)).symm.trans bare)
  rw [if_neg whole, recorded, unwhole] at direct
  have onList : type ∈ (stack.conditions.map (·.type)).filter fun type =>
      type != condReconcileStalled && !(new.conds.map (·.type)).contains type := by
    refine mem_filter.mpr ⟨present, ?_⟩
    have absent : (new.conds.map (·.type)).contains type = false := by
      rw [contains_eq_mem]
      exact decide_eq_false left
    rw [absent]
    simpa using retires.apart
  have someone : held stack type = true := by
    by_contra nobody
    exact (any_eq_false.mp direct type onList) (by simpa using nobody)
  obtain ⟨owner, member, holds⟩ := any_eq_true.mp someone
  have named : type ∈ owner.2 := by simpa using holds
  have owns : type ∈ owned := mine owner member (.inr named) ▸ named
  change (ownedConditions stack fieldManager).any (fun keys => keys.contains type) = true
  rw [recorded, any_some, contains_iff_mem]
  exact owns

end Direct

theorem write_retired {world final : StackWorld} {history : List (Exchange stackApi)}
    {new : PlatformStackStatus} (here : world.live = stack)
    (finished : (writeStatusIfChanged stack new).Finishes serveStack world history () final)
    (retires : Retires stack type) (left : type ∉ new.types) : type ∉ final.live.prior.types := by
  intro member
  have present : type ∈ stack.prior.types := (write_types stack new here finished member).resolve_right left
  have unsent : ∀ recorded, type ∉ (platformControllerView { new with versionHistory := recorded }).types :=
    fun recorded sent => left ((view_types _ type).mp sent).1
  have changed : statusUnchanged stack new = false := by
    rw [Bool.eq_false_iff]
    intro unchanged
    have kept := without_types present retires.apart
    rw [of_decide_eq_true unchanged, view_types] at kept
    exact left kept.1
  rw [writeStatusIfChanged, changed, Bool.false_and, if_neg Bool.false_ne_true] at finished
  split at finished
  · obtain ⟨_, middle, first, second, _, adopted, continued⟩ := (Prog.finishes_bind serveStack _ _ _ _ _ _).mp finished
    obtain ⟨read, live, applied, same⟩ := write_status_finishes adopted
    rw [here] at applied
    obtain ⟨server, last, written, made⟩ := write_status_finishes continued
    rw [made] at member
    have between : middle.live = live := by rw [same]
    rw [between] at written
    -- The re-apply has made every condition on the list the controller's.
    refine applied_gone written (unsent _) ?_ (applied_alone applied retires.alone) member
    have taken : type ∈ (platformControllerView { withoutReconcileStalled stack.prior with
        versionHistory := some (mergeVersionHistory read ((withoutReconcileStalled stack.prior).versionHistory.getD [])) }).types :=
      (view_types _ type).mpr ⟨without_types present retires.apart, retires.apart⟩
    exact applied_owns applied taken
  · rename_i direct
    obtain ⟨server, live, applied, same⟩ := write_status_finishes finished
    rw [here] at applied
    rw [same] at member
    have owns := direct_owns stack new retires (by simpa using direct) present left
    exact applied_gone applied (unsent _) owns retires.alone member

section Computed

variable (time : Rfc3339) (stack : PlatformStack) (clock : PassClock) (latest : Latest) (verdicts : Verdict × Verdict)
variable (parent : Parent) (decision : Decision) (sample : Option Wording) (bumps : List VersionHistoryEntry)

def checkedAt : Int := if pollsOci time stack clock then clock.now else (lastCheck time stack).getD clock.now

def finalUpdates : List Update :=
  earlyUpdates latest verdicts ++ lateUpdates stack latest parent (policyTarget stack latest) decision sample

theorem skeleton_conditions : (skeleton time stack clock latest).conditions = stack.prior.conditions := by
  rw [skeleton]
  split <;> rfl

theorem final_conds : (finalStatus time stack clock latest verdicts parent decision sample bumps).conditions =
    (runUpdates stack.conditions clock.built (skeleton time stack clock latest)
      (finalUpdates stack latest verdicts parent decision sample)).conditions := by
  rw [finalUpdates, runUpdates, foldl_append]
  rfl

variable {type : String} {new : PlatformStackStatus} {updates : List Update}

theorem retire_early (retired : Update.retire type ∈ earlyUpdates latest verdicts) :
    Update.retire type ∈ backupUpdates verdicts := by
  rcases mem_append.mp retired with upstream | own
  · rw [upstreamUpdate] at upstream
    split at upstream
    · cases mem_singleton.mp upstream
    · cases upstream
  · exact own

theorem retire_late (wanted type : String) : Update.retire type ∉ lateUpdates stack latest parent wanted decision sample := by
  rw [lateUpdates, upstreamUpdate]
  cases sample <;> cases latest.doc <;> split <;> simp

theorem retire_final (retired : Update.retire type ∈ finalUpdates stack latest verdicts parent decision sample) :
    Update.retire type ∈ backupUpdates verdicts :=
  (mem_append.mp retired).elim (retire_early latest verdicts)
    fun late => absurd late (retire_late stack latest parent decision sample _ type)

variable (made : new.conditions = (runUpdates stack.conditions clock.built (skeleton time stack clock latest) updates).conditions)

include made in
theorem computed_types (present : type ∈ stack.prior.types) (kept : Update.retire type ∉ updates) : type ∈ new.types := by
  have found : ∀ (status : PlatformStackStatus), type ∈ status.types ↔ findCondition status.conds type ≠ none := by
    intro status
    rw [Ne, findCondition, List.find?_eq_none, PlatformStackStatus.types, List.mem_map]
    simp
  have same : new.conds = (runUpdates stack.conditions clock.built (skeleton time stack clock latest) updates).conds :=
    congrArg (fun conditions : Option (List PlatformStackCondition) => conditions.getD []) made
  have before : (skeleton time stack clock latest).conds = stack.prior.conds :=
    congrArg (fun conditions : Option (List PlatformStackCondition) => conditions.getD [])
      (skeleton_conditions time stack clock latest)
  rw [found, same]
  refine updates_keep _ _ _ kept ?_
  rw [before]
  exact (found stack.prior).mp present

include made in
theorem computed_none (none : new.conditions = .none) : stack.conditions = [] := by
  have bare := updates_none _ _ _ (made.symm.trans none)
  rw [skeleton_conditions] at bare
  change stack.prior.conditions.getD [] = []
  rw [bare]
  rfl

end Computed

section First

variable {time : Rfc3339} {world : StackWorld} (final : StackWorld) (clock : PassClock) (latest : Latest) (verdicts : Verdict × Verdict)

theorem computed_reported (new : PlatformStackStatus) (updates : List Update) (here : StackWorld) (same : here.live = world.live)
    (made : new.conditions =
      (runUpdates world.live.conditions clock.built (skeleton time world.live clock latest) updates).conditions)
    (retires : ∀ type ∈ world.live.prior.types, Update.retire type ∈ updates → Retires world.live type)
    (written : List (Exchange stackApi))
    (wrote : (writeStatusIfChanged world.live new).Finishes serveStack here written () final) :
    Reported world.live final.live new ∧ final = { here with live := final.live } := by
  refine write_finishes same wrote ?_ (computed_none time _ clock _ made)
  intro type member apart
  by_contra left
  have present := (write_types _ new same wrote member).resolve_right left
  have retired : Update.retire type ∈ updates := by
    by_contra kept
    exact left (computed_types time _ clock _ made present kept)
  exact write_retired same wrote (retires type present retired) left member

end First

structure Answered (history : List (Exchange stackApi)) : Prop where
  latest : ∀ upstream channel why, (⟨.channelLatest upstream channel, .error why⟩ : Exchange stackApi) ∉ history
  classed : ¬ ClassFailed history

def knownLatest (version : String) : Latest := { version := version, asked := false, polled := false, doc := none, error := none }

section Poll

variable {time : Rfc3339} {stack : PlatformStack} {clock : PassClock} {found : List (Exchange stackApi)} {latest : Latest}
variable (came : Found time stack clock found latest)

include came

theorem skeleton_stamped (readable : time.read (time.write clock.now) = some clock.now)
    (answered : ∀ upstream channel why, (⟨.channelLatest upstream channel, .error why⟩ : Exchange stackApi) ∉ found) :
    (skeleton time stack clock latest).availableVersion = some latest.version ∧
      (skeleton time stack clock latest).lastUpstreamCheck.bind time.read = some (checkedAt time stack clock) := by
  cases came with
  | polled resolved polls =>
    rw [checkedAt, if_pos polls]
    exact ⟨rfl, readable⟩
  | failed why => exact absurd (mem_singleton_self _) (answered _ _ why)
  | cached version throttled known =>
    rw [checkedAt, throttled]
    refine ⟨known, ?_⟩
    change lastCheck time stack = some ((lastCheck time stack).getD clock.now)
    cases checked : lastCheck time stack with
    | none =>
      rw [pollsOci, checked] at throttled
      exact absurd ((Bool.or_eq_false_iff.mp throttled).2) (by simp)
    | some last => rfl

theorem found_again {version : String} {last : Int} (known : stack.prior.availableVersion = some version)
    (checked : lastCheck time stack = some last) (soon : numSeconds (clock.now - last) < minOciPollIntervalSecs)
    (serviced : ∀ requested, stack.recheckRequested.bind time.read = some requested → requested ≤ last) :
    found = [] ∧ latest = knownLatest version := by
  have throttled : pollsOci time stack clock = false := by
    have unforced : forceRecheck (some last) (stack.recheckRequested.bind time.read) = false := by
      cases asked : stack.recheckRequested.bind time.read with
      | none => rfl
      | some requested => exact decide_eq_false (not_lt.mpr (serviced requested asked))
    rw [pollsOci, checked, known]
    change (forceRecheck (some last) _ || (Option.isNone (some version) || decide (_ ≤ _))) = false
    rw [unforced]
    exact decide_eq_false (not_le.mpr soon)
  cases came with
  | polled resolved polls | failed why _ polls => rw [polls] at throttled; cases throttled
  | cached same _ shown =>
    obtain rfl := some.inj (known.symm.trans shown)
    exact ⟨rfl, rfl⟩

end Poll

inductive Standing (stack : PlatformStack) (current wanted : String) (plans : List PlatformPlan) : Decision → Prop where
  | idle (stays : ¬ (current ≠ wanted ∧ allowsBump stack = true)) : Standing stack current wanted plans { target := current }
  | gated (plan : PlatformPlan) (moves : current ≠ wanted ∧ allowsBump stack = true)
      (found : findPlan plans (synthesizePlatformPlanName current wanted) = some plan) (waits : plan.phaseText ≠ "completed") :
      Standing stack current wanted plans (decideByPlan plan current wanted)

section Decision

variable {stack : PlatformStack} {current wanted : String} {world decided : StackWorld} {asked : List (Exchange stackApi)}
variable {decision : Decision} (decides : Decides stack current wanted world asked decision decided)

include decides

theorem decision_stands (stays : decision.target = current) (classed : ¬ ClassFailed asked) :
    Standing stack current wanted decided.plans decision ∧ decided.live = world.live ∧ decided.parent = world.parent ∧
      decided.unrecorded = world.unrecorded := by
  cases decides with
  | idle keeps => exact ⟨.idle keeps, rfl, rfl, rfl⟩
  | planned plan moves found =>
    refine ⟨.gated plan moves found fun completed => ?_, rfl, rfl, rfl⟩
    rw [decideByPlan, if_pos completed] at stays
    exact moves.1 stays.symm
  | failed history decision moves free failed => exact absurd failed classed
  | safe history moves free => exact absurd stays.symm moves.1
  | raised history change moves free =>
    refine ⟨?_, rfl, rfl, rfl⟩
    have plan : findPlan (world.plans ++ [buildPlatformMigrationPlan (synthesizePlatformPlanName current wanted) change])
        (synthesizePlatformPlanName current wanted) =
          some (buildPlatformMigrationPlan (synthesizePlatformPlanName current wanted) change) := by
      rw [findPlan] at free ⊢
      rw [find?_append, free]
      simp [buildPlatformMigrationPlan]
    exact .gated _ moves plan (by simp [buildPlatformMigrationPlan, MigrationPlan.phaseText])

theorem decides_again {plans : List PlatformPlan} {known : Decision} (stands : Standing stack current wanted plans known)
    (held : findPlan world.plans (synthesizePlatformPlanName current wanted) =
      findPlan plans (synthesizePlatformPlanName current wanted)) :
    decision = known ∧ decided = world ∧ Silent asked := by
  cases stands with
  | idle stays =>
    cases decides with
    | idle keeps => exact ⟨rfl, rfl, List.forall_mem_nil _⟩
    | planned plan moves found => exact absurd moves stays
    | failed history decision moves free failed | safe history moves free | raised history change moves free => exact absurd moves stays
  | gated plan moves found waits =>
    rw [found] at held
    cases decides with
    | idle keeps => exact absurd moves keeps
    | planned other _ shown =>
      obtain rfl := some.inj (held.symm.trans shown)
      exact ⟨rfl, rfl, fun _ member => mem_singleton.mp member ▸ rfl⟩
    | failed history decision _ free failed | safe history _ free | raised history change _ free => cases held.symm.trans free

end Decision

variable {stack : PlatformStack} {current wanted : String} {plans : List PlatformPlan} {decision : Decision}

theorem standing_target
    (stands : Standing stack current wanted plans decision) : decision.target = current ∧ decision.error = none := by
  cases stands with
  | idle stays => exact ⟨rfl, rfl⟩
  | gated plan moves found waits =>
    rw [decideByPlan, if_neg waits]
    exact ⟨rfl, rfl⟩

theorem standing_spec {later : PlatformStack}
    (stands : Standing stack current wanted plans decision) (spec : later.spec = stack.spec) :
    Standing later current wanted plans decision := by
  have allows : allowsBump later = allowsBump stack := by rw [allowsBump, allowsBump, spec]
  cases stands with
  | idle stays => exact .idle (allows ▸ stays)
  | gated plan moves found waits => exact .gated plan (allows ▸ moves) found waits

theorem standing_keep {before after : List PlatformPlan}
    (stands : Standing stack current wanted before decision) (kept : findPlan after decision.keep = findPlan before decision.keep) :
    Standing stack current wanted after decision := by
  cases stands with
  | idle stays => exact .idle stays
  | gated plan moves found waits =>
    have named : (decideByPlan plan current wanted).keep = synthesizePlatformPlanName current wanted := by
      rw [decideByPlan, if_neg waits]
      rfl
    rw [named, found] at kept
    exact .gated plan moves kept waits

structure Untouched (before after : StackWorld) : Prop where
  spec : after.live.name = before.live.name ∧ after.live.spec = before.live.spec ∧
    after.live.recheckRequested = before.live.recheckRequested
  status : withoutReconcileStalled after.live.prior = withoutReconcileStalled before.live.prior
  owned : ownedConditions after.live fieldManager = ownedConditions before.live fieldManager
  outside : after.parent = before.parent ∧ after.plans = before.plans ∧ after.unrecorded = before.unrecorded

section Computes

variable (time : Rfc3339) (clock again : PassClock) (stack : PlatformStack) {later : PlatformStack} (latest : Latest) (verdicts : Verdict × Verdict)
variable (parent : Parent) (decision : Decision) (sample : Option Wording) (bumps : List VersionHistoryEntry)

theorem final_stamped : (finalStatus time stack clock latest verdicts parent decision sample bumps).availableVersion =
        (skeleton time stack clock latest).availableVersion ∧
      (finalStatus time stack clock latest verdicts parent decision sample bumps).lastUpstreamCheck =
        (skeleton time stack clock latest).lastUpstreamCheck := by
  have all : runUpdates stack.conditions clock.built (earlyStatus time stack clock latest verdicts)
      (lateUpdates stack latest parent (policyTarget stack latest) decision sample) =
        runUpdates stack.conditions clock.built (skeleton time stack clock latest)
          (finalUpdates stack latest verdicts parent decision sample) := by
    rw [finalUpdates, runUpdates, runUpdates, foldl_append]
    rfl
  have rest := updates_rest stack.conditions clock.built (skeleton time stack clock latest)
    (finalUpdates stack latest verdicts parent decision sample)
  rw [← all] at rest
  have available := congrArg PlatformStackStatus.availableVersion rest
  have checked := congrArg PlatformStackStatus.lastUpstreamCheck rest
  exact ⟨available, checked⟩

theorem flight_stamped :
    (inFlightStatus time stack clock latest verdicts parent).availableVersion = (skeleton time stack clock latest).availableVersion ∧
      (inFlightStatus time stack clock latest verdicts parent).lastUpstreamCheck =
        (skeleton time stack clock latest).lastUpstreamCheck := by
  have rest := updates_rest stack.conditions clock.built (skeleton time stack clock latest) (earlyUpdates latest verdicts)
  have available := congrArg PlatformStackStatus.availableVersion rest
  have checked := congrArg PlatformStackStatus.lastUpstreamCheck rest
  exact ⟨available, checked⟩

variable {update : Update}

theorem holds_conditions {one other : PlatformStackStatus} (same : other.conditions = one.conditions)
    (holds : update.Holds one) : update.Holds other := by
  refine holds_of_find one ?_ holds
  rw [PlatformStackStatus.conds, PlatformStackStatus.conds, same]

theorem backups_once : ((backupUpdates verdicts).map Update.type).Nodup ∧
    ∀ type ∈ (backupUpdates verdicts).map Update.type, type ≠ condUpstreamReachable ∧ type ≠ condReconcileStalled := by
  have types : (backupUpdates verdicts).map Update.type = [condBackupHealthy, condBackupRetention] := by
    rw [backupUpdates, map_cons, map_cons, map_nil, verdict_type, verdict_type]
  rw [types]
  decide

theorem early_hold (status : PlatformStackStatus) (prior : List PlatformStackCondition) (now : String → String)
    (member : update ∈ backupUpdates verdicts) :
    update.Holds (runUpdates prior now status (earlyUpdates latest verdicts)) ∧ update.type ≠ condReconcileStalled := by
  obtain ⟨once, apart⟩ := backups_once verdicts
  have typed := apart update.type (mem_map_of_mem member)
  refine ⟨updates_hold prior now status (mem_append_right _ member) ?_, typed.2⟩
  intro other listed same
  rcases mem_append.mp listed with upstream | own
  · exact absurd (same.symm.trans (upstream_type upstream)) typed.1
  · exact inj_on_of_nodup_map once own member same

variable (spec : later.spec = stack.spec)

include spec

variable {stack}

theorem target_again : policyTarget later (knownLatest latest.version) = policyTarget stack latest := by
  rw [policyTarget, spec]
  rfl

theorem flies_again : flies later (knownLatest latest.version) parent = flies stack latest parent := by
  rw [flies, flies, target_again latest spec, valuesChanged, valuesChanged, spec]

theorem updates_again (clean : decision.error = none)
    (member : update ∈ finalUpdates later (knownLatest latest.version) verdicts parent decision sample) :
    update ∈ placed stack latest verdicts parent (policyTarget stack latest) decision sample := by
  have upgrade : upgradeWording later (knownLatest latest.version) decision = upgradeWording stack latest decision := by
    rw [upgradeWording, spec]
    rfl
  have synced : syncedWording later parent (policyTarget stack latest) decision =
      syncedWording stack parent (policyTarget stack latest) decision := by
    rw [syncedWording, syncedWording, patchesThisCycle, patchesThisCycle, valuesChanged, valuesChanged, spec]
  have unasked : upstreamUpdate (knownLatest latest.version).asked ((knownLatest latest.version).error.or decision.error) = [] := by
    rw [clean]
    rfl
  rw [finalUpdates, lateUpdates, target_again latest spec, upgrade, synced, unasked] at member
  rw [placed, ownUpdates]
  rcases mem_append.mp member with early | late
  · exact mem_append_left _ (mem_append_left _ early)
  · refine mem_append_left _ (mem_append_right _ ?_)
    simpa [knownLatest] using late

end Computes

theorem versions_kept {status : PlatformStackStatus} {version : String} (current : status.currentVersion = some version)
    (target : status.targetVersion = some version) :
    { status with currentVersion := some version, targetVersion := some version } = status := by
  cases status
  cases current
  cases target
  rfl

section Again

variable {time : Rfc3339} {clock : PassClock} (again : PassClock) {stack later : PlatformStack} {latest : Latest} {verdicts : Verdict × Verdict}
variable {parent : Parent} {decision : Decision} {sample : Option Wording} {bumps : List VersionHistoryEntry}

theorem final_again (carries : Carries later (finalStatus time stack clock latest verdicts parent decision sample bumps))
    (spec : later.spec = stack.spec) (clean : decision.error = none) :
    finalStatus time later again (knownLatest latest.version) verdicts parent decision sample [] = later.prior := by
  have settled : runUpdates later.conditions again.built later.prior
      (finalUpdates later (knownLatest latest.version) verdicts parent decision sample) = later.prior := by
    refine carries_updates carries again.built fun update member => ?_
    have mine := updates_again _ _ _ _ _ spec clean member
    obtain ⟨holds, apart⟩ := placed_hold stack latest verdicts parent (policyTarget stack latest) decision sample
      stack.conditions clock.built (skeleton time stack clock latest) mine
    refine ⟨holds_conditions ?_ holds, apart⟩
    exact final_conds time stack clock latest verdicts parent decision sample bumps
  obtain ⟨current, target, _, _⟩ := carries_fields carries
  change { runUpdates later.conditions again.built (earlyStatus time later again (knownLatest latest.version) verdicts)
    (lateUpdates later (knownLatest latest.version) parent (policyTarget later (knownLatest latest.version)) decision sample) with
      currentVersion := some decision.target
      targetVersion := some decision.target } = later.prior
  have early : runUpdates later.conditions again.built (earlyStatus time later again (knownLatest latest.version) verdicts)
      (lateUpdates later (knownLatest latest.version) parent (policyTarget later (knownLatest latest.version)) decision sample) =
        later.prior := settled
  rw [early]
  exact versions_kept current target

theorem flight_again (carries : Carries later (inFlightStatus time stack clock latest verdicts parent)) :
    inFlightStatus time later again (knownLatest latest.version) verdicts parent = later.prior := by
  have settled : runUpdates later.conditions again.built later.prior (earlyUpdates (knownLatest latest.version) verdicts) =
      later.prior := by
    refine carries_updates carries again.built fun update member => ?_
    obtain ⟨holds, apart⟩ := early_hold latest _ (skeleton time stack clock latest) stack.conditions clock.built member
    exact ⟨holds_conditions rfl holds, apart⟩
  obtain ⟨current, target, _, _⟩ := carries_fields carries
  have early : earlyStatus time later again (knownLatest latest.version) verdicts = later.prior := settled
  rw [inFlightStatus, early]
  exact versions_kept current target

end Again

theorem given_unwritten {new : PlatformStackStatus} (carries : Carries stack new)
    (owns : controllerMustReapply stack = false) : writeStatusIfChanged stack stack.prior = .done () := by
  have same : statusUnchanged stack stack.prior = true := decide_eq_true (carries_view carries)
  rw [writeStatusIfChanged, same, owns]
  rfl

end AppRafter.Platform
