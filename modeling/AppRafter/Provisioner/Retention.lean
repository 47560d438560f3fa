import AppRafter.Provisioner.SnapshotInvariant

set_option autoImplicit false

namespace AppRafter.Provisioner

open Lib Application List Option

variable {snapshot : RetainedClaim} {found : Option ResourceClaim} {claim : ResourceClaim} {slot : Slot}
  {after world : PoolWorld} {board : PoolBoard} {state : PoolState} {mark : PoolMark} {uid now : Nat}
  {entry : Nat × RetainedClaim}

theorem judged_stale (stale : judgedMark snapshot found = .stale) :
    ∃ claim, found = some claim ∧ claimIsLive claim = true ∧ reattachInProgress snapshot claim = false := by
  unfold judgedMark at stale
  split at stale
  · cases stale
  · rename_i settled
    split at stale
    · rename_i live
      cases found with
      | none => cases live
      | some claim =>
        refine ⟨claim, rfl, live, ?_⟩
        cases coming : reattachInProgress snapshot claim with
        | false => rfl
        | true =>
          have again : (claimIsLive claim && reattachInProgress snapshot claim) = true := by
            rw [coming, Bool.and_true]
            exact live
          exact absurd again settled
    · split at stale
      · cases stale
      · split at stale
        · cases stale
        · cases stale

theorem persistent_class : classOfInstance persistentInstance = some .persistent := by decide +kernel

theorem reattach_over
    (backend : snapshot.backend = "dragonfly") (held : snapshot.slot = some slot) (placed : slot.1 = persistentInstance)
    (settled : reattachInProgress snapshot claim = false) :
    claim.isReady = true ∨ ∃ other, claim.slot = some other ∧ other ≠ slot := by
  have dragonfly : (Backend.fromSpecBackend snapshot.backend != some .dragonfly) = false := by rw [backend]; rfl
  unfold reattachInProgress at settled
  simp only [dragonfly, held, placed, persistent_class, bne_self_eq_false, Bool.false_eq_true, if_false] at settled
  split at settled
  · rename_i ready
    exact .inl (beq_iff_eq.mpr ready)
  · split at settled
    · cases settled
    · rename_i other found
      exact .inr ⟨other, found, fun same => by simp [same] at settled⟩

section Serves

variable {board : PoolBoard} (inv : Retains board) {job : PoolJob} {mark : PoolMark}
  (running : board.mark job.key = some (job, mark)) (fate : PoolFate)

include inv running

theorem list_claims_retains : Retains (board.served job mark fate .listClaims) :=
  served_read fate Retains board.world.claims (fun found => nextMark job mark ⟨.listClaims, found⟩)
    (still_retains board inv job mark running) (read_retains board inv job mark running fun same => by cases same)

theorem list_retained_retains : Retains (board.served job mark fate .listRetained) := by
  refine served_read fate Retains (board.world.retained.map Prod.snd) (fun found => nextMark job mark ⟨.listRetained, found⟩)
    (still_retains board inv job mark running) ?_
  let clean : Slot → Bool := fun slot =>
    (retainedHolders (board.world.retained.map Prod.snd) slot job.holder.owner).isEmpty
  have honest : ∀ slot, clean slot = true → ∀ entry ∈ board.world.retained, entry.2.slot = some slot →
      job.holder.owner = .claim entry.2.claimRef := by
    intro slot found entry member held
    exact (retained_holders_clean found (mem_map_of_mem member) held).symm
  have read : Unread board.world job (mark.read 1 clean) := unread_read (fun _ => honest) (inv.unread _ _ _ running)
  have hold : Hold board.world job (mark.read 1 clean) := hold_read 1 clean (inv.holds _ _ _ running)
  apply mark_retains board inv job
  · exact unread_sighted _ read
  · apply hold_sighted hold
    rintro version rfl uid snapshot pending
    exact list_sees inv.sound pending

theorem list_shared_retains : Retains (board.served job mark fate .listShared) :=
  served_read fate Retains board.world.shared (fun found => nextMark job mark ⟨.listShared, found⟩)
    (still_retains board inv job mark running) (read_retains board inv job mark running fun same => by cases same)

theorem get_retained_retains {name : String} (allowed : poolAllowed job mark (.getRetained name)) :
    Retains (board.served job mark fate (.getRetained name)) := by
  obtain ⟨version, rfl, rfl⟩ := allowed
  refine served_read fate Retains
    ((board.world.retained.find? fun entry : Nat × RetainedClaim => entry.2.name == k8sName version.key).map Prod.snd)
    (fun found => nextMark (.claim version) mark ⟨.getRetained (k8sName version.key), found⟩)
    (still_retains board inv _ mark running) ?_
  apply mark_retains board inv (.claim version)
  · exact unread_sighted _ (inv.unread _ _ _ running)
  · apply hold_sighted (inv.holds _ _ _ running)
    rintro other same uid snapshot pending
    cases same
    refine ⟨?_, nofun⟩
    intro slot bare
    exact get_sees inv.sound pending bare

theorem outside_retains (call : Outside) : Retains (board.served job mark fate (.outside call)) :=
  served_outside fate call (still_retains board inv job mark running)
    (mark_retains board inv job .reclaimed (unread_start board.world job rfl)
      (hold_idle _ mark .reclaimed (inv.holds _ _ _ running) (.inr rfl)))

theorem get_claim_retains {key : ClaimKey} (allowed : poolAllowed job mark (.getClaim key)) :
    Retains (board.served job mark fate (.getClaim key)) := by
  obtain ⟨uid, snapshot, now, rfl, rfl⟩ := allowed
  have hold : CollectorHold board.world uid snapshot now mark := inv.holds _ _ _ running
  refine served_read fate Retains (board.world.claims.find? fun claim => claim.key == snapshot.claimRef)
    (fun found => nextMark (.retained uid snapshot now) mark ⟨.getClaim snapshot.claimRef, found⟩)
    (mark_retains board inv (.retained uid snapshot now) .idle (unread_start board.world _ rfl)
      (hold_idle board.world mark .idle hold (.inl rfl))) ?_
  apply mark_retains board inv (.retained uid snapshot now)
  · exact unread_start board.world _ (judged_stage snapshot _)
  · refine ⟨hold.clock, ?_⟩
    intro stale there placed
    obtain ⟨claim, found, live, settled⟩ := judged_stale stale
    have member := mem_of_find?_eq_some found
    have chosen := find?_some found
    have named : claim.key = snapshot.claimRef := eq_of_beq chosen
    have pending : Pending board.world claim.key uid snapshot := ⟨there, named.symm, placed⟩
    obtain ⟨n, held⟩ := placed_slot placed
    rcases reattach_over (inv.sound.shaped _ there placed).1 held rfl settled with
      ready | ⟨other, recorded, different⟩
    · exact inv.sound.regained claim member ready (isNone_iff_eq_none.mp live) uid snapshot pending
    · have same := inv.sound.matched claim member uid snapshot pending other recorded
      rw [held] at same
      exact absurd (some.inj same).symm different

end Serves

theorem claim_idle (world : PoolWorld) (version : ResourceClaim) : ClaimHold world version .idle where
  classed choosing := by cases choosing
  sighted _ same := by cases same
  sure sure := by cases sure
  readied _ same := by cases same
  leaving same := by cases same

theorem back_retains (board : PoolBoard) (job : PoolJob) (after : PoolWorld) (reached : PoolMark)
    (cleared : Retains { board with world := after, mark := Function.update board.mark job.key none })
    (start : reached.stage = 0) (hold : Hold after job reached) :
    Retains { board with world := after, mark := Function.update board.mark job.key (some (job, reached)) } := by
  have back := mark_retains _ cleared job _ (unread_start after job start) hold
  simpa only [Function.update_idem] using back

theorem idle_back (board : PoolBoard) {version : ResourceClaim}
    (cleared : Retains { board with world := after, mark := Function.update board.mark (.claim version.key) none }) :
    Retains { board with
        world := after
        mark := Function.update board.mark (.claim version.key) (some (.claim version, .idle)) } :=
  back_retains board (.claim version) after .idle cleared rfl (claim_idle after version)

theorem own_claim_retains (base : PoolInv board) (inv : Retains board) (key : ClaimKey)
    (free : board.mark (.claim key) = none) (after : PoolWorld) (step : ClaimStep board.world after key)
    (grows : ∀ uid, board.world.redeemed uid = true → after.redeemed uid = true) (now : after.now = board.world.now)
    (matched : ∀ claim ∈ after.claims, claim.key = key → ∀ uid snapshot, Pending board.world key uid snapshot →
      ∀ slot, claim.slot = some slot → snapshot.slot = some slot)
    (regained : ∀ claim ∈ after.claims, claim.key = key → claim.isReady = true → claim.deletionTimestamp = none →
      ∀ uid snapshot, Pending board.world key uid snapshot → after.redeemed uid = true) :
    Retains { board with world := after.settled } := by
  apply claims_retains base inv step grows now matched regained
  rintro version rfl running
  rw [free] at running
  cases running

theorem ready_effect (world : PoolWorld) (key : ClaimKey) {cond : Condition} (secret : Option String) (slot : Slot)
    (ready : cond.status = "True") :
    world.effect (.claimStatus key cond secret (some slot)) = { (world.prove (.claim key) slot).setClaim key fun claim =>
          { claim with status := some (statusApplied claim.status cond secret (some slot)) } with
        redeemed := fun uid => world.redeemed uid || world.records (.retained uid key) slot } := by
  simp only [PoolWorld.effect, if_pos ready]
  rfl

section ClaimServes

variable (board : PoolBoard) (base : PoolInv board) (inv : Retains board) {version : ResourceClaim} {mark : PoolMark}
  (running : board.mark (.claim version.key) = some (.claim version, mark)) (fate : PoolFate)

include inv running

variable {slot : Slot} {key : ClaimKey} {sure : Bool} {cond : Condition} {allocation : Option Slot}

theorem chosen_matches {sight : Sighting} (pinned : mark = .pinned sight)
    (routed : slot.1 = poolInstanceName (version.spec.persistent.getD false) poolInstanceIndex)
    (fitting : version.slot = some slot ∨ sight.fits slot = true) (uid : Nat) (snapshot : RetainedClaim)
    (pending : Pending board.world version.key uid snapshot) :
    version.spec.persistent.getD false = true ∧ snapshot.slot = some slot := by
  subst pinned
  have hold : ClaimHold board.world version (.pinned sight) := inv.holds _ _ _ running
  obtain ⟨persistent, kept⟩ := hold.classed rfl uid snapshot pending
  rw [persistent] at routed
  rcases fitting with held | fits
  · exact ⟨persistent, kept slot held⟩
  · exact ⟨persistent, (hold.sighted sight rfl uid snapshot pending).2 slot fits routed⟩

include base

theorem claim_finalizers_retains {keep : Bool} (allowed : poolAllowed (.claim version) mark (.claimFinalizers key keep)) :
    Retains (board.served (.claim version) mark fate (.claimFinalizers key keep)) := by
  obtain ⟨_, same, rfl, step⟩ := allowed
  cases same
  have hold : ClaimHold board.world version mark := inv.holds _ _ _ running
  have off := drop_retains board inv (.claim version.key)
  have rewritten := remove_claim_rewrite _ _ _ _ (set_claim_rewrite board.world version.key
    (fun claim => { claim with finalizers := withFinalizer claim.finalizers provisionerFinalizer keep }) fun _ => rfl)
  have cleared := own_claim_retains (drop_inv board base (.claim version.key)) off _ (Function.update_self ..) _
    rewritten.toClaimStep (fun _ => id) rfl ?_ ?_
  · refine served_write fate Retains (.claimFinalizers version.key keep)
      (fun ok => nextMark (.claim version) mark ⟨.claimFinalizers version.key keep, ok⟩) ?_ fun _ => ?_
    · cases mark with
      | begun | _ => exact idle_back board off
    · cases keep with
      | false =>
        cases step
        exact idle_back board cleared
      | true =>
        cases step
        cases fate.answered with
        | false => exact idle_back board cleared
        | true =>
          apply back_retains board (.claim version) _ (.pinned {}) cleared rfl
          refine ⟨fun _ uid snapshot pending => ?_, ?_, nofun, nofun,
            nofun⟩
          · exact hold.classed rfl uid snapshot ⟨pending.there, pending.its, pending.placed⟩
          · intro sight same uid snapshot _
            cases same
            exact ⟨nofun, nofun⟩
  · intro claim member here uid snapshot pending slot held
    obtain ⟨old, before, named, rfl⟩ := rewritten.members claim member here
    exact inv.sound.matched old before uid snapshot (named ▸ pending) slot held
  · intro claim member here ready kept uid snapshot pending
    obtain ⟨old, before, named, rfl⟩ := rewritten.members claim member here
    exact inv.sound.regained old before ready kept uid snapshot (named ▸ pending)

theorem checkpoint_retains (allowed : poolAllowed (.claim version) mark (.checkpoint key slot)) :
    Retains (board.served (.claim version) mark fate (.checkpoint key slot)) := by
  obtain ⟨_, sight, same, rfl, rfl, _, _, routed, fitting⟩ := allowed
  cases same
  have hold : ClaimHold board.world version (.pinned sight) := inv.holds _ _ _ running
  have matching := chosen_matches board inv running rfl routed fitting
  have off := drop_retains board inv (.claim version.key)
  refine served_write fate Retains (.checkpoint version.key slot)
    (fun ok => nextMark (.claim version) (.pinned sight) ⟨.checkpoint version.key slot, ok⟩) (idle_back board off) fun _ => ?_
  have rewritten := set_claim_rewrite board.world version.key
    (fun claim => { claim with status := some (checkpointed claim.status slot) }) fun _ => rfl
  have cleared := own_claim_retains (drop_inv board base (.claim version.key)) off version.key
    (Function.update_self ..) _ rewritten.toClaimStep (fun _ => id) rfl ?_ ?_
  · cases fate.answered with
    | false => exact idle_back board cleared
    | true =>
      apply back_retains board (.claim version) _ _ cleared rfl
      refine ⟨nofun, nofun, ?_, nofun,
        nofun⟩
      intro sure uid snapshot pending
      have before : Pending board.world version.key uid snapshot := ⟨pending.there, pending.its, pending.placed⟩
      obtain ⟨persistent, held⟩ := matching uid snapshot before
      change (sight.bare slot || !version.spec.persistent.getD false) = true at sure
      rw [persistent, Bool.not_true, Bool.or_false] at sure
      exact (hold.sighted sight rfl uid snapshot before).1 slot sure held
  · intro claim member here uid snapshot pending held found
    obtain ⟨old, _, _, rfl⟩ := rewritten.members claim member here
    have same : slot = held := some.inj found
    rw [← same]
    exact (matching uid snapshot pending).2
  · intro claim member here ready
    obtain ⟨old, _, _, rfl⟩ := rewritten.members claim member here
    cases ready

theorem standing_matches (slot : Slot) (held : mark.slot = some slot) (uid : Nat) (snapshot : RetainedClaim)
    (pending : Pending board.world version.key uid snapshot) : snapshot.slot = some slot := by
  obtain ⟨claim, member, named, _, recorded⟩ := base.standing _ _ _ running (secured_of_slot held)
  exact inv.sound.matched claim member uid snapshot (named ▸ pending) slot (recorded slot held)

theorem claim_ready_retains (held : mark = .holding slot 3 sure) (secret : Option String) (ready : cond.status = "True") :
    Retains (board.served (.claim version) mark fate (.claimStatus version.key cond secret (some slot))) := by
  subst held
  have matching := standing_matches board base inv running slot rfl
  refine served_write fate Retains (.claimStatus version.key cond secret (some slot))
    (fun ok => nextMark (.claim version) (.holding slot 3 sure) ⟨.claimStatus version.key cond secret (some slot), ok⟩)
    (idle_back board (drop_retains board inv (.claim version.key))) fun _ => ?_
  rw [ready_effect board.world version.key secret slot ready]
  have redeems : ∀ uid snapshot, Pending board.world version.key uid snapshot →
      (board.world.redeemed uid || board.world.records (.retained uid version.key) slot) = true := by
    intro uid snapshot pending
    apply (Bool.or_eq_true _ _).mpr
    right
    exact (board.world.retained_records uid version.key slot).mpr
      ⟨snapshot, pending.there, pending.its, matching uid snapshot pending⟩
  obtain ⟨claim, member, named, _, kept⟩ := base.standing _ _ _ running rfl
  have recorded := (board.world.claim_records version.key slot).mpr ⟨claim, member, named, kept slot rfl⟩
  have proven := prove_inv board base running rfl recorded (.inl rfl)
  have moved := same_retains board base inv (board.world.prove (.claim version.key) slot) rfl (fun _ => id) rfl (Nat.le_refl _)
  have rewritten := set_claim_rewrite (board.world.prove (.claim version.key) slot) version.key
    (fun claim => { claim with status := some (statusApplied claim.status cond secret (some slot)) }) fun _ => rfl
  have cleared := own_claim_retains (drop_inv _ proven (.claim version.key)) (drop_retains _ moved (.claim version.key))
    version.key (Function.update_self ..)
    { (board.world.prove (.claim version.key) slot).setClaim version.key fun claim =>
        { claim with status := some (statusApplied claim.status cond secret (some slot)) } with
      redeemed := fun uid => board.world.redeemed uid || board.world.records (.retained uid version.key) slot }
    { rewritten.toClaimStep with } ?_ rfl ?_ ?_
  · cases fate.answered with
    | false => exact idle_back board cleared
    | true =>
      apply back_retains board (.claim version) _ (.readied slot) cleared rfl
      refine ⟨nofun, nofun, nofun, ?_,
        nofun⟩
      intro _ _ uid snapshot pending
      exact redeems uid snapshot ⟨pending.there, pending.its, pending.placed⟩
  · intro uid known
    exact (Bool.or_eq_true _ _).mpr (.inl known)
  · intro claim member here uid snapshot pending chosen found
    obtain ⟨old, _, _, rfl⟩ := rewritten.members claim member here
    have same : slot = chosen := some.inj found
    rw [← same]
    exact matching uid snapshot ⟨pending.there, pending.its, pending.placed⟩
  · intro claim _ _ _ _ uid snapshot pending
    exact redeems uid snapshot ⟨pending.there, pending.its, pending.placed⟩

theorem claim_refusal_retains (held : mark = .clashing slot sure)
    (secret : Option String) (kept : allocation = none ∨ allocation = some slot)
    (refusal : cond.status = "False") :
    Retains (board.served (.claim version) mark fate (.claimStatus version.key cond secret allocation)) := by
  subst held
  have matching := standing_matches board base inv running slot rfl
  have off := drop_retains board inv (.claim version.key)
  refine served_write fate Retains (.claimStatus version.key cond secret allocation)
    (fun ok => nextMark (.claim version) (.clashing slot sure) ⟨.claimStatus version.key cond secret allocation, ok⟩)
    (idle_back board off) fun _ => ?_
  rw [refusal_effect board.world version.key secret allocation refusal]
  have rewritten := set_claim_rewrite board.world version.key
    (fun claim => { claim with status := some (statusApplied claim.status cond secret allocation) }) fun _ => rfl
  have cleared := own_claim_retains (drop_inv board base (.claim version.key)) off version.key
    (Function.update_self ..) _ rewritten.toClaimStep (fun _ => id) rfl ?_ ?_
  · cases fate.answered with
    | false | true => exact idle_back board cleared
  · intro claim member here uid snapshot pending chosen found
    obtain ⟨old, _, _, rfl⟩ := rewritten.members claim member here
    rcases kept with rfl | rfl
    · cases found
    · have same : slot = chosen := some.inj found
      rw [← same]
      exact matching uid snapshot pending
  · intro claim member here ready
    obtain ⟨old, _, _, rfl⟩ := rewritten.members claim member here
    simp [ResourceClaim.isReady, statusApplied, refusal] at ready

theorem claim_status_retains {secret : Option String}
    (allowed : poolAllowed (.claim version) mark (.claimStatus key cond secret allocation)) :
    Retains (board.served (.claim version) mark fate (.claimStatus key cond secret allocation)) := by
  obtain ⟨_, slot, sure, same, rfl, either⟩ := allowed
  cases same
  rcases either with ⟨ready, rfl, held⟩ | ⟨refusal, kept, held⟩
  · exact claim_ready_retains board base inv running fate held secret ready
  · exact claim_refusal_retains board base inv running fate held secret kept refusal

end ClaimServes

-- What leaves the claims and adds no snapshot.
structure Spares (before after : PoolWorld) : Prop where
  claims : after.claims = before.claims
  entries : ∀ entry ∈ after.retained, entry ∈ before.retained
  redeemed : after.redeemed = before.redeemed
  now : after.now = before.now

theorem shared_status_spares (world : PoolWorld) (key : ClaimKey) (status : SharedDatabaseStatus) :
    Spares world (world.effect (.sharedStatus key status)) := by
  simp only [PoolWorld.effect]
  split
  · split
    · exact ⟨rfl, fun _ => id, rfl, rfl⟩
    · exact ⟨rfl, fun _ => id, rfl, rfl⟩
  · exact ⟨rfl, fun _ => id, rfl, rfl⟩

theorem written_stage (status : SharedDatabaseStatus) (ok : Bool) : (writtenMark status ok).stage = 0 := by
  unfold writtenMark
  split
  · split
    · rfl
    · rfl
  · rfl

theorem start_stage (sd : SharedDatabase) : (startShared sd).stage = 0 := by
  unfold startShared
  cases sd.slot with
  | none => rfl
  | some slot => rfl

theorem spared_retains (base : PoolInv board) (inv : Retains board) (fate : PoolFate)
    {request : PoolRequest} (spares : Spares board.world (board.world.effect request)) :
    Retains { board with world := (servePool board.world fate request).2 } := by
  rcases serve_world board.world fate request with same | made
  · rw [same]
    exact inv
  · rw [made]
    exact same_retains board base inv _ spares.claims spares.entries spares.redeemed (Nat.le_of_eq spares.now.symm)

section SharedServes

variable {board : PoolBoard} (base : PoolInv board) (inv : Retains board) (version : SharedDatabase) (mark : PoolMark)
  (fate : PoolFate)

include base inv

theorem shared_served_retains (request : PoolRequest) (spares : Spares board.world (board.world.effect request))
    (start : ∀ response, (nextMark (.shared version) mark ⟨request, response⟩).stage = 0) :
    Retains (board.served (.shared version) mark fate request) :=
  mark_retains _ (spared_retains base inv fate spares) (.shared version) _
    (unread_start _ _ (start _)) trivial

theorem shared_finalizers_retains (key : ClaimKey) (keep : Bool) :
    Retains (board.served (.shared version) mark fate (.sharedFinalizers key keep)) := by
  apply shared_served_retains base inv version mark fate
  · exact ⟨rfl, fun _ => id, rfl, rfl⟩
  · intro ok
    cases mark with
    | begun =>
      cases ok with
      | false => rfl
      | true => exact start_stage version
    | _ => rfl

theorem shared_status_retains (key : ClaimKey) (status : SharedDatabaseStatus) :
    Retains (board.served (.shared version) mark fate (.sharedStatus key status)) := by
  apply shared_served_retains base inv version mark fate
  · exact shared_status_spares board.world key status
  · exact written_stage status

end SharedServes

theorem persistent_named : persistentInstance ≠ "" := by decide +kernel

theorem acl_user_named (key : ClaimKey) : aclUser key ≠ "" := by
  simp [aclUser]

theorem snapshot_of_placed {deletion : Nat} {provider : Option ServiceProvider} (taken : snapshotOf claim deletion provider = some snapshot)
    (placed : snapshot.onPersistent = true) :
    (snapshot.backend = "dragonfly" ∧ dragonflyReclaimTarget snapshot ≠ none) ∧ snapshot.slot = claim.slot := by
  unfold snapshotOf at taken
  split at taken
  · cases taken
  · obtain rfl := some.inj taken
    obtain ⟨n, held⟩ := placed_slot placed
    have slot : claim.slot.getD ("", 0) = (persistentInstance, n) := some.inj held
    refine ⟨⟨rfl, ?_⟩, ?_⟩
    · simp [dragonflyReclaimTarget, slot, persistent_named, acl_user_named claim.key]
    · change some (claim.slot.getD ("", 0)) = claim.slot
      cases recorded : claim.slot with
      | none =>
        rw [recorded] at slot
        exact absurd (congrArg Prod.fst slot).symm persistent_named
      | some chosen => rfl
  · obtain rfl := some.inj taken
    cases placed
  · obtain rfl := some.inj taken
    cases placed
  · obtain rfl := some.inj taken
    cases placed

theorem holders_alone {me : DbnumOwner}
    (alone : (otherDbnumHolders world.claims (world.retained.map Prod.snd) world.shared slot me).isEmpty = true)
    {holder : Holder} (recorded : world.records holder slot = true) : holder.owner = me := by
  rw [otherDbnumHolders, List.isEmpty_iff, append_eq_nil_iff, append_eq_nil_iff] at alone
  obtain ⟨⟨claims, snapshots⟩, databases⟩ := alone
  cases holder with
  | claim key =>
    obtain ⟨claim, member, rfl, held⟩ := (world.claim_records key slot).mp recorded
    exact claim_holders_clean (List.isEmpty_iff.mpr claims) member held
  | retained uid key =>
    obtain ⟨snapshot, member, rfl, held⟩ := (world.retained_records uid key slot).mp recorded
    exact retained_holders_clean (List.isEmpty_iff.mpr snapshots) (mem_map_of_mem member) held
  | shared key =>
    obtain ⟨sd, member, rfl, held⟩ := (world.shared_records key slot).mp recorded
    exact shared_holders_clean (List.isEmpty_iff.mpr databases) member held

section Create

variable {board : PoolBoard} (base : PoolInv board) (inv : Retains board) {version : ResourceClaim}
  (running : board.mark (.claim version.key) = some (.claim version, .leaving)) {deletion : Nat}
  {provider : Option ServiceProvider} (snapshot : RetainedClaim) (taken : snapshotOf version deletion provider = some snapshot)

def PoolWorld.kept (world : PoolWorld) (snapshot : RetainedClaim) : PoolWorld :=
  PoolWorld.settled
    { world with
      nextUid := world.nextUid + 1
      retained := world.retained ++ [(world.nextUid, snapshot)]
      proven := fun holder slot => world.proven holder slot ||
        (holder == .retained world.nextUid snapshot.claimRef && world.proven (.claim snapshot.claimRef) slot) }

variable {snapshot}

theorem kept_entry {world : PoolWorld} {entry : Nat × RetainedClaim} (member : entry ∈ (world.kept snapshot).retained) :
    entry ∈ world.retained ∨ entry = (world.nextUid, snapshot) := by
  rcases mem_append.mp member with old | new
  · exact .inl old
  · exact .inr (mem_singleton.mp new)

include base inv running taken

theorem create_sound (fresh : ∀ entry ∈ board.world.retained, entry.2.name ≠ snapshot.name) :
    RetainedSound (board.world.kept snapshot) := by
  obtain ⟨named, its⟩ := snapshot_of_named _ taken
  have hold : ClaimHold board.world version .leaving := inv.holds _ _ _ running
  obtain ⟨gone, member, called, _, deleted, slots⟩ := hold.leaving rfl
  refine ⟨?_, ?_, ?_, ?_, ?_⟩
  · intro entry member
    rcases kept_entry member with old | rfl
    · exact inv.sound.named entry old
    · rw [named, its]
  · intro entry member other also same
    rcases kept_entry member with old | rfl
    · rcases kept_entry also with older | rfl
      · exact inv.sound.unique entry old other older same
      · exact absurd same (fresh entry old)
    · rcases kept_entry also with older | rfl
      · exact absurd same.symm (fresh other older)
      · rfl
  · intro entry member placed
    rcases kept_entry member with old | rfl
    · exact inv.sound.shaped entry old placed
    · exact (snapshot_of_placed taken placed).1
  · intro claim present uid found pending slot held
    rcases kept_entry pending.there with old | new
    · exact inv.sound.matched claim present uid found ⟨old, pending.its, pending.placed⟩ slot held
    · cases new
      obtain ⟨_, same⟩ := snapshot_of_placed taken pending.placed
      obtain ⟨n, chosen⟩ := placed_slot pending.placed
      have only : claim = gone := base.sound.claimKeys claim present gone member (by rw [called, ← its, pending.its])
      have recorded := slots _ (same ▸ chosen)
      rw [← only, held] at recorded
      rw [chosen, recorded]
  · intro claim present ready kept uid found pending
    rcases kept_entry pending.there with old | new
    · exact inv.sound.regained claim present ready kept uid found ⟨old, pending.its, pending.placed⟩
    · cases new
      have only : claim = gone := base.sound.claimKeys claim present gone member (by rw [called, ← its, pending.its])
      rw [only] at kept
      exact absurd kept deleted

theorem create_holds (key : PoolKey) (job : PoolJob) (mark : PoolMark) (found : board.mark key = some (job, mark)) :
    Hold (board.world.kept snapshot) job mark := by
  obtain ⟨_, its⟩ := snapshot_of_named _ taken
  cases job with
  | claim other =>
    have hold : ClaimHold board.world other mark := inv.holds key _ mark found
    have here := claim_key_running board base found
    by_cases same : other.key = version.key
    · rw [same, running] at here
      cases here
      exact
        { classed := nofun
          sighted := nofun
          sure := nofun
          readied := nofun
          leaving := hold.leaving }
    · have before : ∀ uid entry, Pending (board.world.kept snapshot) other.key uid entry →
          Pending board.world other.key uid entry := by
        intro uid entry pending
        rcases kept_entry pending.there with old | new
        · exact ⟨old, pending.its, pending.placed⟩
        · cases new
          exact absurd (pending.its.symm.trans its) same
      exact
        { classed := fun choosing uid entry pending => hold.classed choosing uid entry (before uid entry pending)
          sighted := fun sight seen uid entry pending => hold.sighted sight seen uid entry (before uid entry pending)
          sure := fun sure uid entry pending => hold.sure sure uid entry (before uid entry pending)
          readied := fun slot at_ uid entry pending => hold.readied slot at_ uid entry (before uid entry pending)
          leaving := hold.leaving }
  | shared other => trivial
  | retained uid other now =>
    have hold : CollectorHold board.world uid other now mark := inv.holds key _ mark found
    have early : uid < board.world.nextUid := base.standing key _ mark found
    refine ⟨hold.clock, ?_⟩
    intro stale there placed
    rcases kept_entry there with old | new
    · exact hold.stale stale old placed
    · cases new
      omega

omit running taken in
theorem create_unread (alone : ∀ slot, snapshot.slot = some slot →
      (otherDbnumHolders board.world.claims (board.world.retained.map Prod.snd) board.world.shared slot
        (.claim snapshot.claimRef)).isEmpty = true)
    (key : PoolKey) (job : PoolJob) (mark : PoolMark) (found : board.mark key = some (job, mark)) :
    Unread (board.world.kept snapshot) job mark := by
  intro uid entry slot there named placed held recorded different
  have before : board.world.records job.holder slot = true := by
    rcases standing_records (base.standing key job mark found) held with
      ⟨id, other, time, rfl, early⟩ | before
    · obtain ⟨old, member, rest⟩ := (PoolWorld.retained_records _ id other.claimRef slot).mp recorded
      rcases kept_entry member with here | new
      · exact (board.world.retained_records id other.claimRef slot).mpr ⟨old, here, rest⟩
      · cases new
        omega
    · exact before
  rcases kept_entry there with old | new
  · exact inv.unread key job mark found uid entry slot old named placed held before different
  · cases new
    exact absurd (holders_alone (alone slot named) before) different

theorem create_retains (fate : PoolFate)
    (spared : keepsSnapshots board.world (.serve (.claim version) (.createRetained snapshot)) = true) :
    Retains (board.served (.claim version) .leaving fate (.createRetained snapshot)) := by
  have alone : ∀ slot, snapshot.slot = some slot →
      (otherDbnumHolders board.world.claims (board.world.retained.map Prod.snd) board.world.shared slot
        (.claim snapshot.claimRef)).isEmpty = true := by
    intro slot held
    have all : (snapshot.slot.all fun slot => (otherDbnumHolders board.world.claims (board.world.retained.map Prod.snd)
      board.world.shared slot (.claim snapshot.claimRef)).isEmpty) = true := spared
    rw [held] at all
    exact all
  refine served_write fate Retains (.createRetained snapshot) (fun _ => .leaving)
    (still_retains board inv (.claim version) .leaving running) fun _ => ?_
  by_cases used : (board.world.retained.any fun entry => entry.2.name == snapshot.name) = true
  · simp only [PoolWorld.effect, if_pos used]
    have settled := same_retains board base inv board.world.settled rfl (fun _ => id) rfl (Nat.le_refl _)
    exact still_retains _ settled (.claim version) .leaving running
  · simp only [PoolWorld.effect, if_neg used]
    have fresh : ∀ entry ∈ board.world.retained, entry.2.name ≠ snapshot.name := by
      intro entry member same
      exact used (any_eq_true.mpr ⟨entry, member, beq_iff_eq.mpr same⟩)
    have grown : Retains { board with world := board.world.kept snapshot } :=
      { sound := create_sound base inv running taken fresh
        unread := create_unread base inv alone
        holds := create_holds base inv running taken }
    exact still_retains _ grown (.claim version) .leaving running

end Create

section Assembly

variable {board : PoolBoard} (base : PoolInv board) (inv : Retains board) {job : PoolJob} {mark : PoolMark}
  (running : board.mark job.key = some (job, mark)) (fate : PoolFate)

include base inv running

theorem delete_retains (name : String) : Retains (board.served job mark fate (.deleteRetained name)) := by
  have moved : Retains { board with world := (servePool board.world fate (.deleteRetained name)).2 } :=
    spared_retains base inv fate ⟨rfl, fun _ member => mem_of_mem_filter member, rfl, rfl⟩
  cases mark with
  | clashing slot sure => exact still_retains _ moved job _ running
  | _ =>
    exact mark_retains _ moved job .idle (unread_start _ job rfl) (hold_idle _ _ .idle (moved.holds _ _ _ running) (.inl rfl))

theorem serves_retains {request : PoolRequest} (allowed : poolAllowed job mark request)
    (spared : keepsSnapshots board.world (.serve job request) = true) :
    Retains (board.served job mark fate request) := by
  have still := still_retains board inv job mark running
  cases request with
  | listClaims => exact list_claims_retains inv running fate
  | listRetained => exact list_retained_retains inv running fate
  | listShared => exact list_shared_retains inv running fate
  | getClaim key => exact get_claim_retains inv running fate allowed
  | getRetained name => exact get_retained_retains inv running fate allowed
  | findProvider name => exact still
  | selectProvider => exact still
  | listBinders key => exact still
  | outside call => exact outside_retains inv running fate call
  | claimFinalizers key keep =>
    obtain ⟨version, rfl, rest⟩ := allowed
    exact claim_finalizers_retains board base inv running fate ⟨version, rfl, rest⟩
  | sharedFinalizers key keep =>
    obtain ⟨version, rfl, rest⟩ := allowed
    exact shared_finalizers_retains base inv version mark fate key keep
  | checkpoint key slot =>
    obtain ⟨version, sight, rfl, rest⟩ := allowed
    exact checkpoint_retains board base inv running fate ⟨version, sight, rfl, rest⟩
  | claimStatus key cond secret allocation =>
    obtain ⟨version, slot, sure, rfl, rest⟩ := allowed
    exact claim_status_retains board base inv running fate ⟨version, slot, sure, rfl, rest⟩
  | sharedStatus key status =>
    obtain ⟨version, rfl, rest⟩ := allowed
    exact shared_status_retains base inv version mark fate key status
  | createRetained snapshot =>
    obtain ⟨version, deletion, provider, rfl, rfl, _, taken⟩ := allowed
    exact create_retains base inv running taken fate spared
  | deleteRetained name => exact delete_retains base inv running fate name
  | flushdb slot => exact still

end Assembly

theorem first_stage (job : PoolJob) : (firstMark job).stage = 0 := by
  cases job with
  | claim version =>
    simp only [firstMark]
    split
    · split
      · rfl
      · rfl
    · split
      · rfl
      · rfl
  | shared version =>
    simp only [firstMark]
    split
    · exact start_stage version
    · split
      · rfl
      · rfl
  | retained uid version now => rfl

section Begins

variable {board : PoolBoard} (inv : Retains board)

include inv

theorem claim_begins_hold {version : ResourceClaim} (current : version ∈ board.world.claims)
    (classed : keepsClass board.world (.begin (.claim version)) = true) :
    ClaimHold board.world version (firstMark (.claim version)) := by
  have persists : version.deletionTimestamp = none → ∀ uid snapshot, Pending board.world version.key uid snapshot →
      version.spec.persistent.getD false = true ∧ ∀ slot, version.slot = some slot → snapshot.slot = some slot := by
    intro staying uid snapshot pending
    refine ⟨?_, inv.sound.matched version current uid snapshot pending⟩
    simp only [keepsClass, staying, isSome_none, Bool.false_or, Bool.or_eq_true] at classed
    rcases classed with persistent | all
    · exact persistent
    · have spared := all_eq_true.mp all _ pending.there
      simp [pending.its, pending.placed] at spared
  simp only [firstMark]
  split
  · rename_i finalized
    split
    · rename_i deleted
      refine ⟨fun choosing => (by cases choosing), by simp, fun sure => (by cases sure), by simp, fun _ => ?_⟩
      exact ⟨version, current, rfl, contains_iff_mem.mp finalized, isSome_iff_ne_none.mp deleted, fun _ held => held⟩
    · rename_i staying
      refine ⟨fun _ => persists (by simpa using staying), ?_, fun sure => (by cases sure), by simp, by simp⟩
      intro sight same uid snapshot _
      cases same
      exact ⟨by simp, by simp⟩
  · split
    · exact claim_idle board.world version
    · rename_i staying
      refine ⟨fun _ => persists (by simpa using staying), by simp, fun sure => (by cases sure), by simp, by simp⟩

theorem seen_retains (base : PoolInv board) (seenClaims : List ResourceClaim) (seenShared : List SharedDatabase) :
    Retains { board with world := { board.world with seenClaims := seenClaims, seenShared := seenShared } } :=
  same_retains board base inv _ rfl (fun _ => id) rfl (Nat.le_refl _)

theorem begins_retains (base : PoolInv board) {job : PoolJob} {world : PoolWorld} {prog : PoolProg}
    (current : readsCurrent board.world (.begin job) = true) (classed : keepsClass board.world (.begin job) = true)
    (begun : beginPass board.world job = some (world, prog)) :
    Retains { board with world := world, mark := Function.update board.mark job.key (some (job, firstMark job)) } := by
  have start := unread_start world job (first_stage job)
  cases pass_begun begun with
  | claim version seen =>
    have seen := seen_retains inv base seen board.world.seenShared
    have hold := claim_begins_hold seen (contains_iff_mem.mp current) classed
    exact mark_retains _ seen _ _ start hold
  | shared version seen =>
    exact mark_retains _ (seen_retains inv base board.world.seenClaims seen) _ _ start trivial
  | retained uid version seen =>
    exact mark_retains board inv _ _ start ⟨Nat.le_refl _, nofun⟩

end Begins

theorem retention_kept : poolFleet.Keeps poolMonitor promiseKept fun board => PoolInv board ∧ Retains board where
  changes board change world inv permitted changed := by
    have slots := ((Bool.and_eq_true _ _).mp permitted).1
    refine ⟨pool_kept.changes board change world inv.1 slots changed, ?_⟩
    cases some.inj changed
    exact changes_retains inv.1 inv.2 change
  begins board job world prog inv free permitted begun := by
    obtain ⟨slots, rest⟩ := (Bool.and_eq_true _ _).mp permitted
    refine ⟨pool_kept.begins board job world prog inv.1 free slots begun, ?_⟩
    exact begins_retains inv.2 inv.1 ((Bool.and_eq_true _ _).mp slots).1 ((Bool.and_eq_true _ _).mp rest).1 begun
  serves board job mark request fate inv running allowed permitted := by
    obtain ⟨slots, rest⟩ := (Bool.and_eq_true _ _).mp permitted
    refine ⟨pool_kept.serves board job mark request fate inv.1 running allowed slots, ?_⟩
    exact serves_retains inv.1 inv.2 running fate allowed ((Bool.and_eq_true _ _).mp rest).2
  drops board key inv := ⟨pool_kept.drops board key inv.1, drop_retains board inv.2 key⟩
  leaves board job mark request inv running allowed lingers := by
    refine ⟨pool_kept.leaves board job mark request inv.1 running allowed lingers, ?_⟩
    have dropped := drop_retains board inv.2 job.key
    exact ⟨dropped.sound, dropped.unread, dropped.holds⟩
  commits board index job request fate inv found permitted := by
    obtain ⟨slots, rest⟩ := (Bool.and_eq_true _ _).mp permitted
    have undisturbed := ((Bool.and_eq_true _ _).mp slots).2
    have spared := ((Bool.and_eq_true _ _).mp rest).2
    refine ⟨pool_kept.commits board index job request fate inv.1 found slots, ?_⟩
    have checkpoint := inv.1.late (job, request) (mem_of_getElem? found)
    have moved : Retains { board with world := (servePool board.world fate request).2 } := by
      cases request with
      | checkpoint key slot => exact late_checkpoint_retains inv.1 inv.2 fate undisturbed spared
      | sharedStatus key status =>
        obtain ⟨slot, rfl⟩ := checkpoint
        exact late_status_retains inv.1 inv.2 fate key slot
      | _ => cases checkpoint
    exact ⟨moved.sound, moved.unread, moved.holds⟩

theorem retention_start : Retains ⟨{}, fun _ => none, []⟩ where
  sound :=
    { named := fun _ member => by cases member
      unique := fun _ member => by cases member
      shaped := fun _ member => by cases member
      matched := fun _ member => by cases member
      regained := fun _ member => by cases member }
  unread _ _ _ running := by cases running
  holds _ _ _ running := by cases running

theorem retention_reachable (reachable : (poolFleet.obeying promiseKept).Reachable state) :
    (PoolInv (Fleet.board poolMonitor state) ∧ Retains (Fleet.board poolMonitor state)) ∧
      poolFleet.Followed poolMonitor state := by
  apply Fleet.keeps_reachable _ _ _ _ retention_kept
  · intro world job after prog _ begun
    exact passes_follow begun
  · rintro world rfl
    exact ⟨pool_start, retention_start⟩
  · exact reachable

def reclaims : Exchange poolApi → Bool
  | ⟨.outside (.aclDeluser _ _), _⟩ => true
  | ⟨.outside (.readAdminPassword _), readable⟩ => !readable
  | _ => false

theorem read_reclaimed {stage : Nat} {clean : Slot → Bool} (reached : mark.read stage clean = .reclaimed) :
    mark = .reclaimed := by
  cases mark with
  | holding slot stage sure =>
    simp only [PoolMark.read] at reached
    split at reached
    · split at reached
      · cases reached
      · cases reached
    · cases reached
  | _ => exact reached

theorem sighted_reclaimed {sight : Sighting} (reached : mark.sighted sight = .reclaimed) : mark = .reclaimed := by
  cases mark with
  | pinned before => cases reached
  | _ => exact reached

theorem judged_reclaimed (reached : judgedMark snapshot found = .reclaimed) : dragonflyReclaimTarget snapshot = none := by
  unfold judgedMark at reached
  split at reached
  · cases reached
  · split at reached
    · cases reached
    · split at reached
      · rename_i untargeted
        exact isNone_iff_eq_none.mp untargeted
      · split at reached
        · cases reached
        · cases reached

theorem next_reclaimed {exchange : Exchange poolApi} (targeted : dragonflyReclaimTarget snapshot ≠ none)
    (reached : nextMark (.retained uid snapshot now) mark exchange = .reclaimed) :
    mark = .reclaimed ∨ reclaims exchange = true := by
  obtain ⟨request, response⟩ := exchange
  cases request with
  | listClaims =>
    left
    cases response with
    | none => exact reached
    | some live => exact read_reclaimed reached
  | listRetained =>
    left
    cases response with
    | none => exact reached
    | some retained => exact read_reclaimed (sighted_reclaimed reached)
  | listShared =>
    left
    cases response with
    | none => exact reached
    | some shared => exact read_reclaimed reached
  | getClaim key =>
    cases response with
    | none => cases reached
    | some found => exact absurd (judged_reclaimed reached) targeted
  | getRetained name =>
    left
    cases response with
    | none => exact reached
    | some found => exact sighted_reclaimed reached
  | findProvider | selectProvider | listBinders => exact .inl reached
  | outside call =>
    cases call with
    | aclDeluser user inst => exact .inr rfl
    | readAdminPassword inst =>
      cases response with
      | false => exact .inr rfl
      | true => exact .inl reached
    | _ => exact .inl reached
  | claimFinalizers key keep =>
    cases mark with
    | begun =>
      cases response with
      | false => cases reached
      | true => cases reached
    | _ => cases reached
  | sharedFinalizers key keep => cases reached
  | checkpoint key slot => cases reached
  | claimStatus key cond secret allocation =>
    cases mark with
    | holding slot stage sure =>
      cases response with
      | false => cases reached
      | true => cases reached
    | _ => cases reached
  | sharedStatus key status =>
    change writtenMark status response = .reclaimed at reached
    unfold writtenMark at reached
    split at reached
    · split at reached
      · cases reached
      · cases reached
    · cases reached
  | createRetained other => exact .inl reached
  | deleteRetained name =>
    cases mark with
    | clashing slot sure => cases reached
    | _ => cases reached
  | flushdb slot => exact .inl reached

theorem reclaimed_ran {history : List (Exchange poolApi)} (targeted : dragonflyReclaimTarget snapshot ≠ none)
    (reached : poolMonitor.reached (.retained uid snapshot now) history = .reclaimed) : history.any reclaims = true := by
  induction history using List.reverseRecOn with
  | nil => cases reached
  | append_singleton before exchange ih =>
    rw [poolMonitor.reached_snoc] at reached
    rw [any_append, Bool.or_eq_true]
    rcases next_reclaimed targeted reached with earlier | here
    · exact .inl (ih earlier)
    · right
      rw [any_cons, here]
      rfl

def Collects (world : PoolWorld) (job : PoolJob) (uid : Nat) (snapshot : RetainedClaim) : Prop :=
  ∃ now, job = .retained uid snapshot now ∧ snapshot.retainUntil ≤ now ∧ now ≤ world.now

-- It goes once the claim is back on its slot or past the reclaim; no other flush hits it.
structure Retention (runs : System PoolState PoolAction) (state : PoolState) : Prop where
  deleted : ∀ action after uid snapshot, runs.step state action = some after → snapshot.onPersistent = true →
    (uid, snapshot) ∈ state.world.retained → (uid, snapshot) ∉ after.world.retained →
      state.world.redeemed uid = true ∨
      ∃ key pass, state.pass key = some pass ∧ Collects state.world pass.job uid snapshot ∧
        pass.history.any reclaims = true ∧ Fleet.event state action = some (.serve pass.job (.deleteRetained snapshot.name))
  flushed : ∀ action after job slot uid snapshot, runs.step state action = some after →
    Fleet.event state action = some (.serve job (.flushdb slot)) → snapshot.onPersistent = true →
    (uid, snapshot) ∈ state.world.retained → snapshot.slot = some slot →
      state.world.redeemed uid = true ∨ Collects state.world job uid snapshot

theorem effect_entries (request : PoolRequest) (there : entry ∈ world.retained) :
    entry ∈ (world.effect request).retained ∨ request = .deleteRetained entry.2.name := by
  cases request with
  | claimStatus key cond secret allocation =>
    left
    cases allocation with
    | none => exact there
    | some slot =>
      simp only [PoolWorld.effect]
      split
      · exact there
      · exact there
  | sharedStatus key status =>
    left
    simp only [PoolWorld.effect]
    split
    · split
      · exact there
      · exact there
    · exact there
  | createRetained snapshot =>
    left
    simp only [PoolWorld.effect]
    split
    · exact there
    · exact mem_append_left _ there
  | deleteRetained name =>
    by_cases named : entry.2.name = name
    · exact .inr (named ▸ rfl)
    · exact .inl (mem_filter.mpr ⟨there, bne_iff_ne.mpr named⟩)
  | _ => exact .inl there

theorem served_entries (fate : PoolFate) (request : PoolRequest) (there : entry ∈ world.retained) :
    entry ∈ (servePool world fate request).2.retained ∨ request = .deleteRetained entry.2.name := by
  rcases serve_world world fate request with same | made
  · rw [same]
    exact .inl there
  · rw [made]
    exact effect_entries request there

theorem changed_entries (world : PoolWorld) (change : PoolChange) : (changedPool world change).retained = world.retained := by
  cases change with
  | createClaim | createShared =>
    simp only [changedPool]
    split
    · rfl
    · rfl
  | _ => rfl

theorem begun_entries {job : PoolJob} {prog : PoolProg}
    (begun : beginPass world job = some (after, prog)) : after.retained = world.retained := by
  cases pass_begun begun with
  | claim => rfl
  | shared => rfl
  | retained => rfl

theorem classes_apart : persistentInstance ≠ ephemeralInstance := by decide +kernel

section Judged

variable {board : PoolBoard} (inv : Retains board) {job : PoolJob} {mark : PoolMark}
  (running : board.mark job.key = some (job, mark)) {uid : Nat} {snapshot : RetainedClaim}
  (placed : snapshot.onPersistent = true) (there : (uid, snapshot) ∈ board.world.retained)

include inv running placed there

theorem collector_deletes {now : Nat} (working : job = .retained uid snapshot now) (stale : mark = .stale) :
    board.world.redeemed uid = true := by
  subst working
  have hold : CollectorHold board.world uid snapshot now mark := inv.holds _ _ _ running
  exact hold.stale stale there placed

variable (base : PoolInv board)

include base

theorem claim_cancels {version : ResourceClaim} (working : job = .claim version) (its : snapshot.claimRef = version.key)
    (marked : (∃ slot, mark = .readied slot) ∨ ∃ slot sure, mark = .clashing slot sure ∧ slot.1 = ephemeralInstance) :
    board.world.redeemed uid = true := by
  subst working
  have pending : Pending board.world version.key uid snapshot := ⟨there, its, placed⟩
  have hold : ClaimHold board.world version mark := inv.holds _ _ _ running
  rcases marked with ⟨slot, readied⟩ | ⟨slot, sure, rfl, ephemeral⟩
  · exact hold.readied slot readied uid _ pending
  · have held := standing_matches board base inv running slot rfl uid _ pending
    obtain ⟨n, chosen⟩ := placed_slot placed
    rw [chosen] at held
    rw [← some.inj held] at ephemeral
    exact absurd ephemeral classes_apart

theorem flush_collects {slot : Slot} (held : snapshot.slot = some slot) (allowed : poolAllowed job mark (.flushdb slot))
    (undisturbed : undisturbedSlots board.world (.serve job (.flushdb slot)) = true) :
    Collects board.world job uid snapshot := by
  have recorded := flush_recorded base running allowed undisturbed
  obtain ⟨sure, rfl, purpose⟩ := allowed
  have here : slot.1 = persistentInstance := by
    obtain ⟨n, chosen⟩ := placed_slot placed
    rw [chosen] at held
    rw [← some.inj held]
  have mine : job.holder.owner = .claim snapshot.claimRef := by
    by_contra other
    have early : 3 < 2 := inv.unread _ _ _ running uid snapshot slot there held here rfl recorded other
    omega
  have held := inv.holds _ _ _ running
  cases job with
  | claim version =>
    have same : version.key = snapshot.claimRef := DbnumOwner.claim.inj mine
    have hold : ClaimHold board.world version (.holding slot 3 sure) := held
    exact absurd ⟨there, same.symm, placed⟩ (hold.sure purpose uid snapshot)
  | shared version => cases mine
  | retained id version now =>
    have same : version.claimRef = snapshot.claimRef := DbnumOwner.claim.inj mine
    have hold : CollectorHold board.world id version now (.holding slot 3 sure) := held
    have present : (id, version) ∈ board.world.retained := contains_iff_mem.mp undisturbed
    have only := inv.sound.unique _ present _ there (by rw [inv.sound.named _ present, inv.sound.named _ there, same])
    cases only
    exact ⟨now, rfl, purpose.2, hold.clock⟩

end Judged

theorem deletion_earned (base : PoolInv (Fleet.board poolMonitor state))
    (inv : Retains (Fleet.board poolMonitor state)) {pass : Fleet.Pass poolApi PoolError (Option Nat) PoolJob}
    (running : state.pass pass.job.key = some pass)
    (placed : snapshot.onPersistent = true) (there : (uid, snapshot) ∈ state.world.retained)
    (allowed : poolAllowed pass.job (poolMonitor.reached pass.job pass.history) (.deleteRetained snapshot.name))
    (spared : keepsSnapshots state.world (.serve pass.job (.deleteRetained snapshot.name)) = true) :
    state.world.redeemed uid = true ∨ (Collects state.world pass.job uid snapshot ∧ pass.history.any reclaims = true) := by
  have found : (Fleet.board poolMonitor state).mark pass.job.key =
      some (pass.job, poolMonitor.reached pass.job pass.history) := map_eq_some_iff.mpr ⟨pass, running, rfl⟩
  rcases allowed with ⟨version, working, named, marked⟩ | ⟨id, other, now, working, named, due, marked⟩
  · left
    rw [working] at spared
    have mine := all_eq_true.mp spared _ there
    simp only [bne_self_eq_false, Bool.false_or, beq_iff_eq] at mine
    exact claim_cancels inv found placed there base working mine marked
  · rw [working] at spared
    have present : (id, other) ∈ state.world.retained := contains_iff_mem.mp spared
    cases inv.sound.unique _ present _ there named.symm
    rcases marked with stale | reclaimed
    · left
      exact collector_deletes inv found placed there working stale
    · right
      rw [working] at found reclaimed ⊢
      have hold : CollectorHold state.world uid snapshot now _ := inv.holds _ _ _ found
      refine ⟨⟨now, rfl, due, hold.clock⟩, ?_⟩
      exact reclaimed_ran (inv.sound.shaped _ there placed).2 reclaimed

theorem retention_promise (state : PoolState) (reachable : (poolFleet.obeying promiseKept).Reachable state) :
    Retention (poolFleet.obeying promiseKept) state := by
  obtain ⟨⟨base, inv⟩, followed⟩ := retention_reachable reachable
  constructor
  · intro action after uid snapshot taken placed there gone
    obtain ⟨moved, permitted⟩ := poolFleet.obeying_step promiseKept state after action taken
    rcases poolFleet.step_world state after action moved with
      ⟨change, _, changed⟩ | ⟨job, prog, _, begun⟩ | ⟨key, fate, pass, request, next, happens, running, asks, served⟩ |
      ⟨index, fate, job, request, _, late, served⟩ | ⟨_, same⟩
    · have same : (changedPool state.world change).settled = after.world := some.inj changed
      rw [← same] at gone
      have kept : (uid, snapshot) ∈ (changedPool state.world change).retained := by
        rw [changed_entries]
        exact there
      exact absurd kept gone
    · rw [begun_entries begun] at gone
      exact absurd there gone
    · obtain ⟨named, follows⟩ := followed key pass running
      subst named
      rw [asks] at follows
      have asked : request = .deleteRetained snapshot.name := by
        rcases served_entries fate request there with kept | asked
        · exact absurd (served ▸ kept) gone
        · exact asked
      subst asked
      have rest := ((Bool.and_eq_true _ _).mp (permitted _ happens)).2
      rcases deletion_earned base inv running placed there follows.1
        ((Bool.and_eq_true _ _).mp rest).2 with redeemed | ⟨collects, ran⟩
      · exact .inl redeemed
      · exact .inr ⟨_, pass, running, collects, ran, happens⟩
    · have checkpoint := base.late (job, request) (mem_of_getElem? late)
      rcases served_entries fate request there with kept | rfl
      · exact absurd (served ▸ kept) gone
      · cases checkpoint
    · exact absurd (same ▸ there) gone
  · intro action after job slot uid snapshot taken happens placed there held
    obtain ⟨_, permitted⟩ := poolFleet.obeying_step promiseKept state after action taken
    have slots := ((Bool.and_eq_true _ _).mp (permitted _ happens)).1
    obtain ⟨key, pass, running, rfl, next, asks⟩ := Fleet.event_serve happens
    obtain ⟨named, follows⟩ := followed key pass running
    subst named
    rw [asks] at follows
    right
    exact flush_collects inv (map_eq_some_iff.mpr ⟨pass, running, rfl⟩) placed there base held follows.1 ((Bool.and_eq_true _ _).mp slots).2

def returnRun (persistent : Bool) (count : Nat) : List PoolAction :=
  provisionCache true 16 ++ [.drop (.claim cacheKey), .change (.deleteClaim cacheKey), .begin (.claim cacheDeleted)] ++
    replies (.claim cacheKey) 4 ++ [.drop (.claim cacheKey)] ++ provisionCache persistent count

theorem retention_promise_return :
    ∃ state, (poolFleet.obeying promiseKept).Reachable state ∧ Retention (poolFleet.obeying promiseKept) state ∧
      (0, cacheSnapshot) ∈ state.world.retained ∧ cacheSnapshot.onPersistent = true ∧
      state.world.readyOn (.claim cacheKey) (persistentInstance, 0) = true ∧ state.world.redeemed 0 = true := by
  have finished : ((poolFleet.obeying promiseKept).run (Fleet.start {}) (returnRun true 14)).map
      (fun state => (state.world.retained.contains (0, cacheSnapshot),
        state.world.readyOn (.claim cacheKey) (persistentInstance, 0), state.world.redeemed 0)) =
      some (true, true, true) := by
    decide +kernel
  obtain ⟨state, reachable, facts⟩ := System.run_shows _ finished ⟨_, rfl, rfl⟩
  obtain ⟨there, facts⟩ := Prod.mk.inj facts
  obtain ⟨ready, redeemed⟩ := Prod.mk.inj facts
  exact ⟨state, reachable, retention_promise state reachable, contains_iff_mem.mp there, by decide +kernel, ready, redeemed⟩

def cancelling (state : PoolState) : Bool :=
  (Fleet.event state (.reply (.claim cacheKey) smoothly : PoolAction)).any fun
    | .serve (.claim _) (.deleteRetained _) => true
    | _ => false

theorem retention_broken : ∃ state, (poolFleet.obeying readsCurrent).Reachable state ∧ (0, cacheSnapshot) ∈ state.world.retained ∧
      state.world.now < cacheSnapshot.retainUntil ∧
      state.world.readyOn (.claim cacheKey) (ephemeralInstance, 0) = true ∧
      ¬Retention (poolFleet.obeying readsCurrent) state := by
  have finished : ((poolFleet.obeying readsCurrent).run (Fleet.start {}) (returnRun false 15)).bind (fun state =>
      ((poolFleet.obeying readsCurrent).step state (.reply (.claim cacheKey) smoothly)).map fun after =>
        (state.world.retained.contains (0, cacheSnapshot), after.world.retained.contains (0, cacheSnapshot),
          state.world.readyOn (.claim cacheKey) (ephemeralInstance, 0), state.world.redeemed 0,
          decide (state.world.now < cacheSnapshot.retainUntil), cancelling state)) =
      some (true, false, true, false, true, true) := by
    decide +kernel
  obtain ⟨state, after, reachable, taken, facts⟩ := System.run_then_shows _ finished ⟨_, rfl, rfl⟩
  simp only [Prod.mk.injEq] at facts
  obtain ⟨there, gone, ready, unredeemed, early, cancels⟩ := facts
  have there := contains_iff_mem.mp there
  refine ⟨state, reachable, there, of_decide_eq_true early, ready, ?_⟩
  intro retention
  have missing : (0, cacheSnapshot) ∉ after.world.retained := by
    intro still
    rw [contains_iff_mem.mpr still] at gone
    cases gone
  rcases retention.deleted _ after 0 cacheSnapshot taken (by decide +kernel) there missing with
    redeemed | ⟨key, pass, _, ⟨now, working, _⟩, _, happens⟩
  · rw [unredeemed] at redeemed
    cases redeemed
  · rw [working] at happens
    simp [cancelling, happens] at cancels

end AppRafter.Provisioner
