import AppRafter.Provisioner.PoolInvariant

set_option autoImplicit false

namespace AppRafter.Provisioner

open Lib Application List

variable (world : PoolWorld)

theorem write_pool_cases (fate : PoolFate) (request : PoolRequest) : writePool world fate request = (false, world) ∨
      (world.applies request = true ∧ writePool world fate request = (fate.answered, (world.effect request).settled)) := by
  unfold writePool
  split
  · rename_i both
    exact .inr ⟨((Bool.and_eq_true _ _).mp both).2, rfl⟩
  · exact .inl rfl

theorem serve_world (fate : PoolFate) (request : PoolRequest) :
    (servePool world fate request).2 = world ∨ (servePool world fate request).2 = (world.effect request).settled := by
  have written : (writePool world fate request).2 = world ∨
      (writePool world fate request).2 = (world.effect request).settled := by
    rcases write_pool_cases world fate request with refused | ⟨_, made⟩
    · exact .inl (congrArg Prod.snd refused)
    · exact .inr (congrArg Prod.snd made)
  cases request with
  | claimFinalizers key keep => exact written
  | sharedFinalizers key keep => exact written
  | checkpoint key slot => exact written
  | claimStatus key cond secret allocation => exact written
  | sharedStatus key status => exact written
  | createRetained snapshot => exact written
  | deleteRetained name => exact written
  | _ => exact .inl rfl

theorem with_finalizer_kept (finalizers : List String) (finalizer : String) :
    finalizer ∈ withFinalizer finalizers finalizer true := by
  by_cases already : finalizers.contains finalizer = true
  · rw [withFinalizer, if_pos already]
    exact contains_iff_mem.mp already
  · rw [withFinalizer, if_neg already]
    exact mem_append_right _ (mem_singleton_self _)

variable {slot : Slot} {me : DbnumOwner} {sd : SharedDatabase} {board : PoolBoard} {after : PoolWorld}
  {status : SharedDatabaseStatus}

theorem claim_holders_clean {live : List ResourceClaim}
    (clean : (claimHolders live slot me).isEmpty = true) {claim : ResourceClaim} (member : claim ∈ live)
    (held : claim.slot = some slot) : DbnumOwner.claim claim.key = me := by
  by_contra other
  have listed : claim ∈ live.filter fun claim => claim.slot == some slot && DbnumOwner.claim claim.key != me := by
    simp [member, held, other]
  rw [claimHolders, List.isEmpty_iff, map_eq_nil_iff] at clean
  rw [clean] at listed
  cases listed

theorem retained_holders_clean {retained : List RetainedClaim}
    (clean : (retainedHolders retained slot me).isEmpty = true) {snapshot : RetainedClaim} (member : snapshot ∈ retained)
    (held : snapshot.slot = some slot) : DbnumOwner.claim snapshot.claimRef = me := by
  by_contra other
  have listed : snapshot ∈ retained.filter fun snapshot =>
      snapshot.slot == some slot && DbnumOwner.claim snapshot.claimRef != me := by
    simp [member, held, other]
  rw [retainedHolders, List.isEmpty_iff, map_eq_nil_iff] at clean
  rw [clean] at listed
  cases listed

theorem shared_holders_clean {shared : List SharedDatabase}
    (clean : (sharedHolders shared slot me).isEmpty = true) (member : sd ∈ shared)
    (held : sd.slot = some slot) : DbnumOwner.shared sd.key = me := by
  by_contra other
  have listed : sd ∈ shared.filter fun sd => sd.slot == some slot && DbnumOwner.shared sd.key != me := by
    simp [member, held, other]
  rw [sharedHolders, List.isEmpty_iff, map_eq_nil_iff] at clean
  rw [clean] at listed
  cases listed

theorem judged_stage (snapshot : RetainedClaim) (found : Option ResourceClaim) : (judgedMark snapshot found).stage = 0 := by
  unfold judgedMark
  split
  · rfl
  · split
    · rfl
    · split
      · rfl
      · split
        · rfl
        · rfl

section Serves

variable (board : PoolBoard) (inv : PoolInv board) (job : PoolJob) (mark : PoolMark)
  (running : board.mark job.key = some (job, mark)) (fate : PoolFate)

def PoolBoard.served (request : PoolRequest) : PoolBoard :=
  { board with
    world := (servePool board.world fate request).2
    mark := Function.update board.mark job.key (some (job, nextMark job mark ⟨request, (servePool board.world fate request).1⟩)) }

variable {board job mark}

-- A write that is refused moves the pass alone, one that is made the world as well.
theorem served_write (holds : PoolBoard → Prop) (request : PoolRequest) (moved : Bool → PoolMark)
    (refused : holds { board with mark := Function.update board.mark job.key (some (job, moved false)) })
    (made : board.world.applies request = true → holds { board with
        world := (board.world.effect request).settled
        mark := Function.update board.mark job.key (some (job, moved fate.answered)) }) :
    holds { board with
        world := (writePool board.world fate request).2
        mark := Function.update board.mark job.key (some (job, moved (writePool board.world fate request).1)) } := by
  rcases write_pool_cases board.world fate request with same | ⟨applies, written⟩
  · rw [same]
    exact refused
  · rw [written]
    exact made applies

theorem served_read {Value : Type} (holds : PoolBoard → Prop) (value : Value) (moved : Option Value → PoolMark)
    (missed : holds { board with mark := Function.update board.mark job.key (some (job, moved none)) })
    (read : holds { board with mark := Function.update board.mark job.key (some (job, moved (some value))) }) :
    holds { board with mark := Function.update board.mark job.key (some (job, moved (answered fate value))) } := by
  unfold answered
  split
  · exact read
  · exact missed

include inv running

theorem still_inv : PoolInv { board with mark := Function.update board.mark job.key (some (job, mark)) } :=
  alike_inv _ inv running (alike_refl mark) rfl

theorem list_claims_inv : PoolInv (board.served job mark fate .listClaims) := by
  refine served_read fate PoolInv board.world.claims (fun found => nextMark job mark ⟨.listClaims, found⟩) (still_inv inv running) ?_
  apply read_inv _ inv running 0
  intro slot clean holder first recorded
  cases holder with
  | claim key =>
    obtain ⟨claim, member, rfl, held⟩ := (board.world.claim_records key slot).mp recorded
    exact claim_holders_clean clean member held
  | retained uid key => cases first
  | shared key => cases first

theorem list_retained_inv : PoolInv (board.served job mark fate .listRetained) := by
  refine served_read fate PoolInv (board.world.retained.map Prod.snd) (fun found => nextMark job mark ⟨.listRetained, found⟩)
    (still_inv inv running) ?_
  have read := read_inv _ inv running 1
    (fun slot => (retainedHolders (board.world.retained.map Prod.snd) slot job.holder.owner).isEmpty) ?_
  · have sighted := sighted_inv _ read (Function.update_self ..) (listSighting job (board.world.retained.map Prod.snd))
    simpa only [Function.update_idem, nextMark] using sighted
  · intro slot clean holder first recorded
    cases holder with
    | claim key => cases first
    | retained uid key =>
      obtain ⟨snapshot, member, rfl, held⟩ := (board.world.retained_records uid key slot).mp recorded
      exact retained_holders_clean clean (mem_map_of_mem member) held
    | shared key => cases first

theorem list_shared_inv : PoolInv (board.served job mark fate .listShared) := by
  refine served_read fate PoolInv board.world.shared (fun found => nextMark job mark ⟨.listShared, found⟩) (still_inv inv running) ?_
  apply read_inv _ inv running 2
  intro slot clean holder first recorded
  cases holder with
  | claim key => cases first
  | retained uid key => cases first
  | shared key =>
    obtain ⟨sd, member, rfl, held⟩ := (board.world.shared_records key slot).mp recorded
    exact shared_holders_clean clean member held

end Serves

-- It is taken off the board, its write is made, and it is put back further on.
theorem back_inv (board : PoolBoard) (job : PoolJob) (after : PoolWorld) (reached : PoolMark)
    (cleared : PoolInv { board with world := after, mark := Function.update board.mark job.key none })
    (standing : Standing after job reached) (start : reached.stage = 0) :
    PoolInv { board with world := after, mark := Function.update board.mark job.key (some (job, reached)) } := by
  have back := mark_inv _ cleared job.key (some (job, reached)) ?_
  · simpa only [Function.update_idem] using back
  · intro next mark same
    cases same
    exact ⟨⟨rfl, standing⟩, start⟩

-- What a claim's pass writes on its own claim.
section OwnClaim

variable {board : PoolBoard} (inv : PoolInv board) {version : ResourceClaim} (free : board.mark (.claim version.key) = none)

include inv free

theorem own_claim_inv (after : PoolWorld) (update : ResourceClaim → ResourceClaim)
    (rewritten : ClaimRewrite board.world after version.key update)
    (ready : ∀ old ∈ board.world.claims, old.key = version.key → ∀ slot, (update old).slot = some slot →
      (update old).isReady = true → board.world.proven (.claim version.key) slot = true) :
    PoolInv { board with world := after.settled } := by
  apply claim_rewrite_inv _ inv rewritten
  · intro other mark running
    rw [free] at running
    cases running
  · exact ready

theorem claim_finalizers_inv (keep : Bool) :
    PoolInv { board with world := (board.world.effect (.claimFinalizers version.key keep)).settled } := by
  apply own_claim_inv inv free
  · apply remove_claim_rewrite
    apply set_claim_rewrite
    intro claim
    rfl
  · intro old member named slot held ready
    exact named ▸ inv.sound.claimReady old member slot held ready

theorem checkpoint_inv (slot : Slot) :
    PoolInv { board with world := (board.world.effect (.checkpoint version.key slot)).settled } := by
  apply own_claim_inv inv free
  · apply set_claim_rewrite
    intro claim
    rfl
  · intro old _ _ _ _ ready
    cases ready

theorem claim_status_inv (cond : Condition) (secret : Option String) (allocation : Option Slot)
    (proven : cond.status = "True" → ∀ slot, allocation = some slot →
      board.world.proven (.claim version.key) slot = true) (after : PoolWorld)
    (written : ClaimRewrite board.world after version.key fun claim =>
      { claim with status := some (statusApplied claim.status cond secret allocation) }) :
    PoolInv { board with world := after.settled } := by
  apply own_claim_inv inv free _ _ written
  intro old _ _ slot held ready
  have allocated : allocation = some slot := by
    cases allocation with
    | none => cases held
    | some chosen => exact held
  apply proven _ slot allocated
  simpa [ResourceClaim.isReady, statusApplied] using ready

end OwnClaim

theorem claim_back_inv {version : ResourceClaim} {reached : PoolMark}
    (cleared : PoolInv { board with world := after, mark := Function.update board.mark (.claim version.key) none })
    (unsecured : reached.secured = false) (start : reached.stage = 0) :
    PoolInv { board with
        world := after
        mark := Function.update board.mark (.claim version.key) (some (.claim version, reached)) } := by
  apply back_inv board (.claim version) after reached cleared _ start
  intro secured
  rw [unsecured] at secured
  cases secured

theorem refusal_effect (key : ClaimKey) {cond : Condition} (secret : Option String)
    (allocation : Option Slot) (refusal : cond.status = "False") :
    world.effect (.claimStatus key cond secret allocation) = world.setClaim key fun claim =>
        { claim with status := some (statusApplied claim.status cond secret allocation) } := by
  cases allocation with
  | none => rfl
  | some slot => simp [PoolWorld.effect, refusal]

section ClaimServes

variable {board : PoolBoard} (inv : PoolInv board) {version : ResourceClaim} {mark : PoolMark}
  (running : board.mark (.claim version.key) = some (.claim version, mark)) (fate : PoolFate)

include inv running

variable {key : ClaimKey}

theorem claim_finalizers_served {keep : Bool} (allowed : poolAllowed (.claim version) mark (.claimFinalizers key keep)) :
    PoolInv (board.served (.claim version) mark fate (.claimFinalizers key keep)) := by
  obtain ⟨_, same, rfl, step⟩ := allowed
  cases same
  have off := drop_inv _ inv (.claim version.key)
  have cleared := claim_finalizers_inv off (Function.update_self ..) keep
  cases keep with
  | false =>
    cases step
    exact served_write fate PoolInv (.claimFinalizers version.key false) (fun _ => .idle) (claim_back_inv off rfl rfl)
      fun _ => claim_back_inv cleared rfl rfl
  | true =>
    cases step
    refine served_write fate PoolInv (.claimFinalizers version.key true)
      (fun ok => nextMark (.claim version) .begun ⟨.claimFinalizers version.key true, ok⟩) (claim_back_inv off rfl rfl) ?_
    intro applies
    cases fate.answered with
    | false => exact claim_back_inv cleared rfl rfl
    | true =>
      apply back_inv board (.claim version) _ (.pinned {}) cleared _ rfl
      intro _
      obtain ⟨claim, member, found⟩ := any_eq_true.mp applies
      have named : claim.key = version.key := eq_of_beq ((Bool.and_eq_true _ _).mp found).1
      have rewritten := remove_claim_rewrite _ _ _ _ (set_claim_rewrite board.world version.key
        (fun claim => { claim with finalizers := withFinalizer claim.finalizers provisionerFinalizer true })
        fun _ => rfl)
      have finalized := with_finalizer_kept claim.finalizers provisionerFinalizer
      exact ⟨_, rewritten.present claim member named finalized, named, finalized, nofun⟩

theorem checkpoint_served {slot : Slot} (allowed : poolAllowed (.claim version) mark (.checkpoint key slot)) :
    PoolInv (board.served (.claim version) mark fate (.checkpoint key slot)) := by
  obtain ⟨_, sight, same, rfl, rfl, _⟩ := allowed
  cases same
  have off := drop_inv _ inv (.claim version.key)
  refine served_write fate PoolInv (.checkpoint version.key slot)
    (fun ok => nextMark (.claim version) (.pinned sight) ⟨.checkpoint version.key slot, ok⟩) (claim_back_inv off rfl rfl) fun _ => ?_
  have cleared := checkpoint_inv off (Function.update_self ..) slot
  cases fate.answered with
  | false => exact claim_back_inv cleared rfl rfl
  | true =>
    apply back_inv board (.claim version) _ _ cleared _ rfl
    intro _
    obtain ⟨claim, member, named, finalized, _⟩ := inv.standing _ _ _ running rfl
    have rewritten := set_claim_rewrite board.world version.key
      (fun claim => { claim with status := some (checkpointed claim.status slot) }) fun _ => rfl
    exact ⟨_, rewritten.present claim member named finalized, named, finalized, fun _ held => held⟩

theorem claim_status_served {cond : Condition} {secret : Option String} {allocation : Option Slot}
    (allowed : poolAllowed (.claim version) mark (.claimStatus key cond secret allocation)) :
    PoolInv (board.served (.claim version) mark fate (.claimStatus key cond secret allocation)) := by
  obtain ⟨_, slot, sure, same, rfl, either⟩ := allowed
  cases same
  have off := drop_inv _ inv (.claim version.key)
  rcases either with ⟨true_, rfl, rfl⟩ | ⟨false_, kept, rfl⟩
  · refine served_write fate PoolInv (.claimStatus version.key cond secret (some slot))
      (fun ok => nextMark (.claim version) (.holding slot 3 sure) ⟨.claimStatus version.key cond secret (some slot), ok⟩)
      (claim_back_inv off rfl rfl) fun _ => ?_
    obtain ⟨claim, member, named, _, held⟩ := inv.standing _ _ _ running rfl
    have recorded := (board.world.claim_records version.key slot).mpr ⟨claim, member, named, held slot rfl⟩
    have proven := prove_inv _ inv running rfl recorded (.inl rfl)
    have dropped := drop_inv _ proven (.claim version.key)
    have cleared := claim_status_inv dropped (Function.update_self ..) cond secret (some slot) ?_
      (board.world.effect (.claimStatus version.key cond secret (some slot))) ?_
    · cases fate.answered with
      | false | true => exact claim_back_inv cleared rfl rfl
    · intro _ chosen same
      cases same
      simp [PoolWorld.prove, PoolJob.holder]
    · simp only [PoolWorld.effect, if_pos true_]
      have written := set_claim_rewrite (board.world.prove (.claim version.key) slot) version.key
        (fun claim => { claim with status := some (statusApplied claim.status cond secret (some slot)) }) fun _ => rfl
      exact { written with }
  · refine served_write fate PoolInv (.claimStatus version.key cond secret allocation)
      (fun ok => nextMark (.claim version) (.clashing slot sure) ⟨.claimStatus version.key cond secret allocation, ok⟩)
      (claim_back_inv off rfl rfl) fun _ => ?_
    have cleared := claim_status_inv off (Function.update_self ..) cond secret allocation ?_
      (board.world.effect (.claimStatus version.key cond secret allocation)) ?_
    · cases fate.answered with
      | false | true => exact claim_back_inv cleared rfl rfl
    · intro ready
      rw [false_] at ready
      exact absurd ready (by decide)
    · rw [refusal_effect board.world version.key secret allocation false_]
      exact set_claim_rewrite board.world version.key _ fun _ => rfl

end ClaimServes

-- What a database's pass writes on its own database.
section OwnShared

variable {board : PoolBoard} (inv : PoolInv board) {version : SharedDatabase} (free : board.mark (.shared version.key) = none)

include inv free

theorem own_shared_inv (after : PoolWorld) (update : SharedDatabase → SharedDatabase)
    (rewritten : SharedRewrite board.world after version.key update)
    (used : ∀ old ∈ board.world.shared, old.key = version.key → ∀ slot, (update old).slot = some slot →
      (update old).used = true → board.world.proven (.shared version.key) slot = true)
    (kept : ∀ old ∈ board.world.shared, old.key = version.key → (update old).slot ≠ none →
      sdFinalizer ∈ (update old).finalizers ∨ (update old).deletionTimestamp ≠ none) :
    PoolInv { board with world := after.settled } := by
  apply shared_rewrite_inv _ inv rewritten
  · intro other mark running
    rw [free] at running
    cases running
  · exact used
  · exact kept

theorem shared_finalizers_inv (keep : Bool)
    (deleted : keep = false → ∀ old ∈ board.world.shared, old.key = version.key → old.deletionTimestamp ≠ none) :
    PoolInv { board with world := (board.world.effect (.sharedFinalizers version.key keep)).settled } := by
  apply own_shared_inv inv free
  · apply remove_shared_rewrite
    apply set_shared_rewrite
    intro sd
    rfl
  · intro old member named slot held used
    exact named ▸ inv.sound.sharedUsed old member slot held used
  · intro old member named _
    cases keep with
    | false => exact .inr (deleted rfl old member named)
    | true => exact .inl (with_finalizer_kept old.finalizers sdFinalizer)

theorem shared_status_inv (status : SharedDatabaseStatus) {after : PoolWorld}
    (written : SharedRewrite board.world after version.key fun sd => { sd with status := some status })
    (used : ∀ slot, slotOf status.inst status.dbnum = some slot →
      (!allocationUnfinished status.conditions || status.ready == some true) = true →
        board.world.proven (.shared version.key) slot = true)
    (finalized : slotOf status.inst status.dbnum ≠ none →
      ∀ old ∈ board.world.shared, old.key = version.key → sdFinalizer ∈ old.finalizers) :
    PoolInv { board with world := after.settled } := by
  apply own_shared_inv inv free _ _ written
  · intro old _ _ slot held isUsed
    exact used slot held isUsed
  · intro old member named holds
    exact .inl (finalized holds old member named)

end OwnShared

theorem shared_back_inv {version : SharedDatabase}
    (cleared : PoolInv { board with world := after, mark := Function.update board.mark (.shared version.key) none }) :
    PoolInv { board with
        world := after
        mark := Function.update board.mark (.shared version.key) (some (.shared version, .idle)) } := by
  apply back_inv board (.shared version) after .idle cleared _ rfl
  exact ⟨nofun, nofun, nofun⟩

theorem carried_slot
    (carried : slotOf (backingOf sd).inst (backingOf sd).dbnum = some slot) : sd.slot = some slot ∧ sd.unfinished = false := by
  unfold backingOf at carried
  unfold SharedDatabase.slot SharedDatabase.unfinished
  cases known : sd.status with
  | none =>
    rw [known] at carried
    cases carried
  | some status =>
    rw [known] at carried
    cases finished : allocationUnfinished status.conditions with
    | true =>
      simp only [finished, if_true] at carried
      cases carried
    | false =>
      simp only [finished, Bool.false_eq_true, if_false] at carried
      exact ⟨carried, finished⟩

theorem at_start_slot {mark : PoolMark} (start : AtStart sd mark)
    (held : sd.slot = some slot) : mark.slot = some slot ∧ mark.sure = !sd.unfinished := by
  unfold AtStart at start
  rw [held] at start
  rcases start with ⟨stage, rfl⟩ | rfl
  · exact ⟨rfl, rfl⟩
  · exact ⟨rfl, rfl⟩

theorem told_finished {reason : String} (told : reason ≠ reasonAwaitingKeyspace) :
    allocationUnfinished [readyCondition "False" reason] = false := by
  simp [allocationUnfinished, readyCondition, told]

theorem unready_effect (key : ClaimKey) (unready : status.ready ≠ some true) :
    world.effect (.sharedStatus key status) = world.setShared key fun sd => { sd with status := some status } := by
  simp only [PoolWorld.effect]
  split
  · exact if_neg unready
  · rfl

theorem written_refused (status : SharedDatabaseStatus) : writtenMark status false = .idle := by
  unfold writtenMark
  cases slotOf status.inst status.dbnum with
  | none => rfl
  | some slot => rfl

theorem written_finished (finished : allocationUnfinished status.conditions = false)
    (ok : Bool) : writtenMark status ok = .idle := by
  cases ok with
  | false => exact written_refused status
  | true =>
    unfold writtenMark
    cases slotOf status.inst status.dbnum with
    | none => rfl
    | some slot => simp only [finished, Bool.false_eq_true, if_false]

def checkpointStatus (slot : Slot) : SharedDatabaseStatus :=
  sdStatus false (.redis slot) (readyCondition "False" reasonAwaitingKeyspace)

theorem checkpoint_unfinished (slot : Slot) : allocationUnfinished (checkpointStatus slot).conditions = true := by
  change allocationUnfinished [readyCondition "False" reasonAwaitingKeyspace] = true
  decide

section SharedServes

variable (board : PoolBoard) (inv : PoolInv board) {version : SharedDatabase} (mark : PoolMark)
  (running : board.mark (.shared version.key) = some (.shared version, mark)) (fate : PoolFate)

include inv running

theorem shared_found (secured : mark.secured = true) (old : SharedDatabase) (member : old ∈ board.world.shared)
    (named : old.key = version.key) :
    sdFinalizer ∈ old.finalizers ∧ (version.deletionTimestamp ≠ none → old.deletionTimestamp ≠ none) ∧
      ∀ slot, mark.slot = some slot → old.slot = some slot := by
  have standing : SharedStanding board.world version mark := inv.standing _ _ _ running
  obtain ⟨sd, found, called, rest⟩ := standing.secured secured
  rw [inv.sound.sharedKeys old member sd found (named.trans called.symm)]
  exact rest

variable {key : ClaimKey}

theorem shared_finalizers_served {keep : Bool} (allowed : poolAllowed (.shared version) mark (.sharedFinalizers key keep)) :
    PoolInv (board.served (.shared version) mark fate (.sharedFinalizers key keep)) := by
  obtain ⟨_, same, rfl, step⟩ := allowed
  cases same
  have off := drop_inv _ inv (.shared version.key)
  cases keep with
  | false =>
    obtain ⟨secured, deleting⟩ := step
    have idle (ok : Bool) : nextMark (.shared version) mark ⟨.sharedFinalizers version.key false, ok⟩ = .idle := by
      cases mark with
      | begun => cases secured
      | _ => rfl
    have cleared := shared_finalizers_inv off (Function.update_self ..) false fun _ old member named =>
      (shared_found _ inv _ running secured _ member named).2.1 deleting
    refine served_write fate PoolInv (.sharedFinalizers version.key false)
      (fun ok => nextMark (.shared version) mark ⟨.sharedFinalizers version.key false, ok⟩) ?_ fun _ => ?_
    · rw [idle]
      exact shared_back_inv off
    · rw [idle]
      exact shared_back_inv cleared
  | true =>
    cases step
    have cleared := shared_finalizers_inv off (Function.update_self ..) true (by simp)
    have standing : SharedStanding board.world version .begun := inv.standing _ _ _ running
    obtain ⟨slotless, staying⟩ := standing.begun rfl
    have started : nextMark (.shared version) .begun ⟨.sharedFinalizers version.key true, true⟩ = .pinned {} := by
      change startShared version = .pinned {}
      rw [startShared, slotless]
    refine served_write fate PoolInv (.sharedFinalizers version.key true)
      (fun ok => nextMark (.shared version) .begun ⟨.sharedFinalizers version.key true, ok⟩) (shared_back_inv off) fun applies => ?_
    cases fate.answered with
    | false => exact shared_back_inv cleared
    | true =>
      rw [started]
      apply back_inv board (.shared version) _ _ cleared _ rfl
      refine ⟨by simp, fun _ => ?_, fun sure => (by cases sure)⟩
      obtain ⟨sd, member, found⟩ := any_eq_true.mp applies
      have named : sd.key = version.key := eq_of_beq ((Bool.and_eq_true _ _).mp found).1
      have rewritten := remove_shared_rewrite _ _ _ _ (set_shared_rewrite board.world version.key
        (fun sd => { sd with finalizers := withFinalizer sd.finalizers sdFinalizer true }) fun _ => rfl)
      have finalized := with_finalizer_kept sd.finalizers sdFinalizer
      exact ⟨_, rewritten.present sd member named finalized, named, finalized,
        fun deleted => absurd staying deleted, fun slot held => by cases held⟩

theorem shared_status_served {status : SharedDatabaseStatus}
    (allowed : poolAllowed (.shared version) mark (.sharedStatus key status)) :
    PoolInv (board.served (.shared version) mark fate (.sharedStatus key status)) := by
  obtain ⟨_, same, rfl, write⟩ := allowed
  cases same
  have off := drop_inv _ inv (.shared version.key)
  have standing : SharedStanding board.world version mark := inv.standing _ _ _ running
  have rewritten := fun world : PoolWorld => set_shared_rewrite world version.key
    (fun sd => { sd with status := some status }) fun _ => rfl
  have found := fun secured old member named =>
    (shared_found board inv mark running secured old member named).1
  refine served_write fate PoolInv (.sharedStatus version.key status) (writtenMark status) ?_ fun _ => ?_
  · rw [written_refused]
    exact shared_back_inv off
  cases write with
  | checkpoint slot start kept other =>
    have secured := at_start_secured _ start
    have cleared := shared_status_inv off (Function.update_self ..) (checkpointStatus slot)
      (rewritten board.world) (fun _ _ used => by rw [checkpoint_unfinished] at used; cases used)
      (fun _ => found secured)
    cases fate.answered with
    | false =>
      exact shared_back_inv cleared
    | true =>
      apply back_inv board (.shared version) _ (.holding slot 0 false) cleared _ rfl
      obtain ⟨sd, member, named, finalized, _⟩ := standing.secured secured
      refine ⟨by simp, fun _ => ?_, fun sure => (by cases sure)⟩
      exact ⟨_, (rewritten board.world).present sd member named finalized, named, finalized,
        fun deleted => absurd kept deleted, fun _ held => held⟩
  | ready slot stage sure held clear =>
    subst held
    rw [written_finished rfl]
    obtain ⟨sd, member, named, _, _, recorded⟩ := standing.secured rfl
    have records := (board.world.shared_records version.key slot).mpr ⟨sd, member, named, recorded slot rfl⟩
    have proven := prove_inv _ inv running rfl records (clear.imp_right fun known => standing.sure known slot rfl)
    have dropped := drop_inv _ proven (.shared version.key)
    have cleared := shared_status_inv dropped (Function.update_self ..) _
      (rewritten (board.world.prove (.shared version.key) slot)) ?_ (fun _ => found rfl)
    · exact shared_back_inv cleared
    · intro chosen same _
      cases same
      simp [PoolWorld.prove, PoolJob.holder]
  | release =>
    have cleared := shared_status_inv off (Function.update_self ..) _ (rewritten board.world)
      (fun _ held => by cases held) (fun holds => absurd rfl holds)
    exact shared_back_inv cleared
  | carry reason start told =>
    rw [written_finished (told_finished told), unready_effect board.world version.key fun same => by cases same]
    have cleared := shared_status_inv off (Function.update_self ..) _ (rewritten board.world) ?_
      (fun _ => found (at_start_secured _ start))
    · exact shared_back_inv cleared
    · intro slot carried _
      obtain ⟨held, finished⟩ := carried_slot carried
      obtain ⟨same, sure⟩ := at_start_slot start held
      exact standing.sure (by rw [sure, finished]; rfl) slot same

end SharedServes

section Serves

variable {board : PoolBoard} (inv : PoolInv board) {job : PoolJob} {mark : PoolMark}
  (running : board.mark job.key = some (job, mark)) (fate : PoolFate)

include inv running

theorem loose_inv (reached : PoolMark) (unsecured : reached.secured = false) (started : reached ≠ .begun)
    (start : reached.stage = 0) :
    PoolInv { board with mark := Function.update board.mark job.key (some (job, reached)) } := by
  apply mark_inv _ inv
  intro next mark same
  cases same
  exact ⟨⟨rfl, standing_loose (inv.standing _ _ _ running) unsecured started⟩, start⟩

theorem get_claim_served (key : ClaimKey) : PoolInv (board.served job mark fate (.getClaim key)) := by
  change PoolInv { board with
      mark := Function.update board.mark job.key (some (job, nextMark job mark
        ⟨.getClaim key, answered fate (board.world.claims.find? fun claim => claim.key == key)⟩)) }
  cases job with
  | claim | shared => exact loose_inv inv running .idle rfl nofun rfl
  | retained uid snapshot now =>
    -- A snapshot's pass relies on nothing but its uid.
    have standing : uid < board.world.nextUid := inv.standing _ _ mark running
    apply mark_inv _ inv
    intro next reached same
    cases same
    refine ⟨⟨rfl, standing⟩, ?_⟩
    unfold answered
    split
    · exact judged_stage snapshot _
    · rfl

theorem get_retained_served (name : String) : PoolInv (board.served job mark fate (.getRetained name)) :=
  served_read fate PoolInv ((board.world.retained.find? fun entry : Nat × RetainedClaim => entry.2.name == name).map Prod.snd)
    (fun found => nextMark job mark ⟨.getRetained name, found⟩) (still_inv inv running) (sighted_inv _ inv running _)

omit inv running in
theorem served_outside {holds : PoolBoard → Prop} (call : Outside)
    (kept : holds { board with mark := Function.update board.mark job.key (some (job, mark)) })
    (reclaimed : holds { board with mark := Function.update board.mark job.key (some (job, .reclaimed)) }) :
    holds (board.served job mark fate (.outside call)) := by
  change holds { board with
      mark := Function.update board.mark job.key (some (job, nextMark job mark ⟨.outside call, fate.answered⟩)) }
  cases job with
  | claim version => exact kept
  | shared version => exact kept
  | retained uid snapshot now =>
    cases call with
    | readAdminPassword inst =>
      cases fate.answered with
      | false => exact reclaimed
      | true => exact kept
    | aclDeluser user inst => exact reclaimed
    | _ => exact kept

theorem outside_served (call : Outside) : PoolInv (board.served job mark fate (.outside call)) :=
  served_outside fate call (still_inv inv running) (loose_inv inv running .reclaimed rfl nofun rfl)

theorem create_retained_served (snapshot : RetainedClaim) : PoolInv (board.served job mark fate (.createRetained snapshot)) :=
  served_write fate PoolInv (.createRetained snapshot) (fun _ => mark) (still_inv inv running)
    fun _ => still_inv (snapshot_inv _ inv snapshot) running

theorem delete_retained_served (name : String) : PoolInv (board.served job mark fate (.deleteRetained name)) := by
  have next : ∀ world, PoolInv { board with world := world } → PoolInv { board with
          world := world
          mark := Function.update board.mark job.key (some (job, nextMark job mark
            ⟨.deleteRetained name, (writePool board.world fate (.deleteRetained name)).1⟩)) } := by
    intro world moved
    cases mark with
    | clashing slot sure => exact still_inv moved running
    | _ => exact loose_inv moved running .idle rfl nofun rfl
  apply next (writePool board.world fate (.deleteRetained name)).2
  change PoolInv { board with world := (servePool board.world fate (.deleteRetained name)).2 }
  rcases serve_world board.world fate (.deleteRetained name) with refused | made
  · rw [refused]
    exact inv
  · rw [made]
    apply quiet_inv board inv
    · rfl
    · rfl
    · rfl
    · rfl
    · intro entry member
      exact mem_of_mem_filter member
    · rfl

theorem serves_inv {request : PoolRequest} (allowed : poolAllowed job mark request) :
    PoolInv (board.served job mark fate request) := by
  cases request with
  | listClaims => exact list_claims_inv inv running fate
  | listRetained => exact list_retained_inv inv running fate
  | listShared => exact list_shared_inv inv running fate
  | getClaim key => exact get_claim_served inv running fate key
  | getRetained name => exact get_retained_served inv running fate name
  | findProvider | selectProvider | listBinders => exact still_inv inv running
  | outside call => exact outside_served inv running fate call
  | claimFinalizers key keep =>
    obtain ⟨version, rfl, rest⟩ := allowed
    exact claim_finalizers_served inv running fate ⟨version, rfl, rest⟩
  | sharedFinalizers key keep =>
    obtain ⟨version, rfl, rest⟩ := allowed
    exact shared_finalizers_served _ inv _ running fate ⟨version, rfl, rest⟩
  | checkpoint key slot =>
    obtain ⟨version, sight, rfl, rest⟩ := allowed
    exact checkpoint_served inv running fate ⟨version, sight, rfl, rest⟩
  | claimStatus key cond secret allocation =>
    obtain ⟨version, slot, sure, rfl, rest⟩ := allowed
    exact claim_status_served inv running fate ⟨version, slot, sure, rfl, rest⟩
  | sharedStatus key status =>
    obtain ⟨version, rfl, rest⟩ := allowed
    exact shared_status_served _ inv _ running fate ⟨version, rfl, rest⟩
  | createRetained snapshot => exact create_retained_served inv running fate snapshot
  | deleteRetained name => exact delete_retained_served inv running fate name
  | flushdb slot => exact still_inv inv running

end Serves

end AppRafter.Provisioner
