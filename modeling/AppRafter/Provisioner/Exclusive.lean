import AppRafter.Provisioner.PoolServes

set_option autoImplicit false

namespace AppRafter.Provisioner

open Lib Application List Option

def readsCurrent (world : PoolWorld) : PoolEvent → Bool
  | .begin (.claim version) => world.claims.contains version
  | .begin (.shared version) => world.shared.contains version
  | _ => true

-- Late checkpoints take no slot, and a grace-GC flushes for a snapshot still there.
def undisturbedSlots (world : PoolWorld) : PoolEvent → Bool
  | .commit _ (.checkpoint key slot) =>
    world.claims.all fun claim => claim.key != key || claim.slot.all fun held => held == slot
  | .commit _ (.sharedStatus key status) =>
    world.shared.all fun sd => sd.key != key ||
      (sd.finalizers.contains sdFinalizer && sd.slot.all fun held => slotOf status.inst status.dbnum == some held)
  | .serve (.retained uid snapshot _) (.flushdb _) => world.retained.contains (uid, snapshot)
  | _ => true

def slotsKept (world : PoolWorld) (happening : PoolEvent) : Bool :=
  readsCurrent world happening && undisturbedSlots world happening

theorem scheduled_slot (provider : String) (claim : ResourceClaim) :
    ({ claim with status := some (scheduled claim.status provider) } : ResourceClaim).slot = claim.slot := by
  unfold ResourceClaim.slot
  cases claim.status with
  | none => rfl
  | some status => rfl

theorem scheduled_ready (provider : String) (claim : ResourceClaim) :
    ({ claim with status := some (scheduled claim.status provider) } : ResourceClaim).isReady = claim.isReady := by
  unfold ResourceClaim.isReady
  cases claim.status with
  | none => rfl
  | some status => rfl

section Changes

variable (board : PoolBoard) (inv : PoolInv board)

include inv

theorem create_claim_inv (key : ClaimKey) (spec : ResourceClaimSpec) :
    PoolInv { board with world := (changedPool board.world (.createClaim key spec)).settled } := by
  by_cases taken : (board.world.claims.any fun claim => claim.key == key) = true
  · simp only [changedPool, if_pos taken]
    exact quiet_inv board inv board.world rfl rfl rfl rfl (fun _ => id) rfl
  · simp only [changedPool, if_neg taken]
    have absent : ∀ claim ∈ board.world.claims, claim.key ≠ key := by
      intro claim member same
      exact taken (any_eq_true.mpr ⟨claim, member, beq_iff_eq.mpr same⟩)
    have only : ∀ claim ∈ board.world.claims ++ [({ key := key, spec := spec } : ResourceClaim)], claim.key = key →
        claim = { key := key, spec := spec } := by
      intro claim member named
      rcases mem_append.mp member with old | new
      · exact absurd named (absent claim old)
      · exact mem_singleton.mp new
    apply claim_inv board inv
    · exact add_claim_step board.world { key := key, spec := spec }
    · intro claim member other also here there
      rw [only claim member here, only other also there]
    · intro claim member here slot held
      rw [only claim member here] at held
      cases held
    · rintro version mark rfl running secured
      obtain ⟨claim, member, named, _⟩ := inv.standing _ _ mark running secured
      exact absurd named (absent claim member)

theorem create_shared_inv (key : ClaimKey) (spec : SharedDatabaseSpec) :
    PoolInv { board with world := (changedPool board.world (.createShared key spec)).settled } := by
  by_cases taken : (board.world.shared.any fun sd => sd.key == key) = true
  · simp only [changedPool, if_pos taken]
    exact quiet_inv board inv board.world rfl rfl rfl rfl (fun _ => id) rfl
  · simp only [changedPool, if_neg taken]
    have absent : ∀ sd ∈ board.world.shared, sd.key ≠ key := by
      intro sd member same
      exact taken (any_eq_true.mpr ⟨sd, member, beq_iff_eq.mpr same⟩)
    have only : ∀ sd ∈ board.world.shared ++ [({ ns := key.ns, name := key.name, spec := spec } : SharedDatabase)],
        sd.key = key → sd = { ns := key.ns, name := key.name, spec := spec } := by
      intro sd member named
      rcases mem_append.mp member with old | new
      · exact absurd named (absent sd old)
      · exact mem_singleton.mp new
    apply shared_inv board inv key
    · exact add_shared_step board.world { ns := key.ns, name := key.name, spec := spec }
    · intro sd member other also here there
      rw [only sd member here, only other also there]
    · intro sd member here slot held
      rw [only sd member here] at held
      cases held
    · intro sd member here holds
      rw [only sd member here] at holds
      exact absurd rfl holds
    · rintro version mark rfl running
      have standing : SharedStanding board.world version mark := inv.standing _ _ mark running
      have unsecured : mark.secured ≠ true := by
        intro secured
        obtain ⟨sd, member, named, _⟩ := standing.secured secured
        exact absent sd member named
      refine ⟨standing.begun, fun secured => absurd secured unsecured, ?_⟩
      intro _ slot held
      exact absurd (secured_of_slot held) unsecured

variable {key : ClaimKey} {after : PoolWorld} {job : PoolJob} {slot : Slot}

theorem touch_claim_inv {update : ResourceClaim → ResourceClaim}
    (rewritten : ClaimRewrite board.world after key update) (finalizers : ∀ old, (update old).finalizers = old.finalizers)
    (slot : ∀ old, (update old).slot = old.slot) (ready : ∀ old, (update old).isReady = old.isReady) :
    PoolInv { board with world := after.settled } := by
  apply claim_outside_inv board inv rewritten finalizers
  · intro old _ _ held found
    rw [slot old]
    exact found
  · intro old _ _ isReady
    rw [ready old] at isReady
    exact ⟨isReady, slot old⟩

theorem touch_shared_inv {update : SharedDatabase → SharedDatabase}
    (rewritten : SharedRewrite board.world after key update) (finalizers : ∀ old, (update old).finalizers = old.finalizers)
    (deletion : ∀ old, old.deletionTimestamp ≠ none → (update old).deletionTimestamp ≠ none)
    (status : ∀ old, (update old).status = old.status) : PoolInv { board with world := after.settled } := by
  have slot : ∀ old, (update old).slot = old.slot := by
    intro old
    rw [SharedDatabase.slot, SharedDatabase.slot, status]
  apply shared_outside_inv board inv rewritten finalizers deletion
  · intro old _ _ held found
    rw [slot old]
    exact found
  · intro old _ _ isUsed
    rw [SharedDatabase.used, SharedDatabase.unfinished, SharedDatabase.isReady, status] at isUsed
    exact ⟨isUsed, slot old⟩
  · intro old member _ holds
    rw [slot old] at holds
    exact inv.sound.sharedKept old member holds

theorem changes_inv (change : PoolChange) : PoolInv { board with world := (changedPool board.world change).settled } := by
  cases change with
  | tick seconds => exact quiet_inv board inv _ rfl rfl rfl rfl (fun _ => id) rfl
  | createClaim key spec => exact create_claim_inv board inv key spec
  | editClaim key spec =>
    have rewritten := set_claim_rewrite board.world key (fun claim => { claim with spec := spec }) fun _ => rfl
    exact touch_claim_inv board inv rewritten (fun _ => rfl) (fun _ => rfl) fun _ => rfl
  | schedule key provider =>
    have rewritten := set_claim_rewrite board.world key
      (fun claim => { claim with status := some (scheduled claim.status provider) }) fun _ => rfl
    exact touch_claim_inv board inv rewritten (fun _ => rfl) (scheduled_slot provider) (scheduled_ready provider)
  | deleteClaim key =>
    have rewritten := remove_claim_rewrite _ key _ _ (set_claim_rewrite board.world key
      (fun claim => { claim with deletionTimestamp := some (claim.deletionTimestamp.getD board.world.now) }) fun _ => rfl)
    exact touch_claim_inv board inv rewritten (fun _ => rfl) (fun _ => rfl) fun _ => rfl
  | createShared key spec => exact create_shared_inv board inv key spec
  | editShared key spec =>
    have rewritten := set_shared_rewrite board.world key (fun sd => { sd with spec := spec }) fun _ => rfl
    exact touch_shared_inv board inv rewritten (fun _ => rfl) (fun _ deleted => deleted) fun _ => rfl
  | deleteShared key =>
    have rewritten := remove_shared_rewrite _ key _ _ (set_shared_rewrite board.world key
      (fun sd => { sd with deletionTimestamp := some (sd.deletionTimestamp.getD board.world.now) }) fun _ => rfl)
    exact touch_shared_inv board inv rewritten (fun _ => rfl) (fun _ _ => some_ne_none _) fun _ => rfl

theorem seen_inv (seenClaims : List ResourceClaim) (seenShared : List SharedDatabase) :
    PoolInv { board with world := { board.world with seenClaims := seenClaims, seenShared := seenShared } } where
  exclusive := inv.exclusive
  keyed := inv.keyed
  standing key job mark running := by
    have standing := inv.standing key job mark running
    cases job with
    | claim version => exact standing
    | shared version => exact { standing with }
    | retained uid version now => exact standing
  sound := { inv.sound with }
  late := inv.late

theorem claim_begins_inv {version : ResourceClaim} (current : version ∈ board.world.claims) : PoolInv { board with
        mark := Function.update board.mark (.claim version.key) (some (.claim version, firstMark (.claim version))) } := by
  apply mark_inv board inv
  intro job mark same
  cases same
  simp only [firstMark]
  split
  · rename_i finalized
    split
    · exact ⟨⟨rfl, fun secured => by cases secured⟩, rfl⟩
    · refine ⟨⟨rfl, fun _ => ?_⟩, rfl⟩
      exact ⟨version, current, rfl, contains_iff_mem.mp finalized, fun slot held => by cases held⟩
  · split
    · exact ⟨⟨rfl, fun secured => by cases secured⟩, rfl⟩
    · exact ⟨⟨rfl, fun secured => by cases secured⟩, rfl⟩

theorem shared_begins_inv {version : SharedDatabase} (current : version ∈ board.world.shared) : PoolInv { board with
        mark := Function.update board.mark (.shared version.key) (some (.shared version, firstMark (.shared version))) } := by
  apply mark_inv board inv
  intro job mark same
  cases same
  simp only [firstMark]
  split
  · rename_i finalized
    have finalized := contains_iff_mem.mp finalized
    unfold startShared
    cases held : version.slot with
    | none =>
      refine ⟨⟨rfl, by simp, fun _ => ?_, fun sure => (by cases sure)⟩, rfl⟩
      exact ⟨version, current, rfl, finalized, id, fun slot held => by cases held⟩
    | some slot =>
      refine ⟨⟨rfl, by simp, fun _ => ?_, ?_⟩, rfl⟩
      · exact ⟨version, current, rfl, finalized, id, fun _ same => held.trans same⟩
      · intro sure chosen same
        cases same
        change (!version.unfinished) = true at sure
        have finished : version.used = true := by rw [SharedDatabase.used, sure]; rfl
        exact inv.sound.sharedUsed version current slot held finished
  · rename_i unfinalized
    split
    · exact ⟨⟨rfl, by simp, fun secured => (by cases secured), fun sure => (by cases sure)⟩, rfl⟩
    · rename_i staying
      refine ⟨⟨rfl, fun _ => ?_, fun secured => (by cases secured), fun sure => (by cases sure)⟩, rfl⟩
      have staying : version.deletionTimestamp = none := by simpa using staying
      refine ⟨?_, staying⟩
      by_contra holds
      rcases inv.sound.sharedKept version current holds with finalized | deleted
      · exact unfinalized (contains_iff_mem.mpr finalized)
      · exact deleted staying

theorem late_inv (late : List (PoolJob × PoolRequest)) (checkpoints : ∀ entry ∈ late, Checkpoint entry.2) :
    PoolInv { board with late := late } :=
  { inv with late := checkpoints }

theorem late_checkpoint_inv (fate : PoolFate)
    (undisturbed : undisturbedSlots board.world (.commit job (.checkpoint key slot)) = true) :
    PoolInv { board with world := (servePool board.world fate (.checkpoint key slot)).2 } := by
  rcases serve_world board.world fate (.checkpoint key slot) with refused | made
  · rw [refused]
    exact inv
  · rw [made]
    have rewritten := set_claim_rewrite board.world key
      (fun claim => { claim with status := some (checkpointed claim.status slot) }) fun _ => rfl
    apply claim_outside_inv board inv rewritten fun _ => rfl
    · intro old member named held recorded
      have same := all_eq_true.mp undisturbed old member
      simp only [named, recorded, bne_self_eq_false, Bool.false_or, all_some, beq_iff_eq] at same
      rw [same]
      rfl
    · intro old _ _ ready
      cases ready

theorem late_status_inv (fate : PoolFate)
    (undisturbed : undisturbedSlots board.world (.commit job (.sharedStatus key (checkpointStatus slot))) = true) :
    PoolInv { board with world := (servePool board.world fate (.sharedStatus key (checkpointStatus slot))).2 } := by
  rcases serve_world board.world fate (.sharedStatus key (checkpointStatus slot)) with refused | made
  · rw [refused]
    exact inv
  · rw [made]
    have rewritten := set_shared_rewrite board.world key
      (fun sd => { sd with status := some (checkpointStatus slot) }) fun _ => rfl
    have spared : ∀ old ∈ board.world.shared, old.key = key →
        sdFinalizer ∈ old.finalizers ∧ ∀ held, old.slot = some held → held = slot := by
      intro old member named
      have same := all_eq_true.mp undisturbed old member
      simp only [named, bne_self_eq_false, Bool.false_or, Bool.and_eq_true] at same
      refine ⟨contains_iff_mem.mp same.1, ?_⟩
      intro held recorded
      have equal := same.2
      rw [recorded, all_some, beq_iff_eq] at equal
      exact (some.inj equal).symm
    apply shared_outside_inv board inv rewritten (fun _ => rfl) (fun _ deleted => deleted)
    · intro old member named held recorded
      rw [(spared old member named).2 held recorded]
      rfl
    · intro old _ _ used
      cases used
    · intro old member named _
      exact .inl (spared old member named).1

end Changes

variable {job : PoolJob} {mark : PoolMark} {slot : Slot} {board : PoolBoard}

theorem lingering_checkpoint {request : PoolRequest}
    (allowed : poolAllowed job mark request) (lingers : isCheckpoint request = true) : Checkpoint request := by
  cases request with
  | checkpoint key slot => trivial
  | sharedStatus key status =>
    obtain ⟨version, _, _, write⟩ := allowed
    cases write with
    | checkpoint slot _ _ _ => exact ⟨slot, rfl⟩
    | ready slot _ _ _ _ => cases lingers
    | release => cases lingers
    | carry reason _ told =>
      have unfinished := ((Bool.and_eq_true _ _).mp lingers).2
      change allocationUnfinished [readyCondition "False" reason] = true at unfinished
      rw [told_finished told] at unfinished
      cases unfinished
  | _ => cases lingers

theorem pool_kept : poolFleet.Keeps poolMonitor slotsKept PoolInv where
  changes board change world inv _ changed := by
    cases some.inj changed
    exact changes_inv board inv change
  begins board job world prog inv _ permitted begun := by
    have current : readsCurrent board.world (.begin job) = true := ((Bool.and_eq_true _ _).mp permitted).1
    cases pass_begun begun with
    | claim version seen =>
      exact claim_begins_inv _ (seen_inv board inv _ _) (contains_iff_mem.mp current)
    | shared version seen =>
      exact shared_begins_inv _ (seen_inv board inv _ _) (contains_iff_mem.mp current)
    | retained uid version seen =>
      apply mark_inv board inv
      intro job mark same
      cases same
      exact ⟨⟨rfl, inv.sound.seenUids _ seen⟩, rfl⟩
  serves board job mark _ fate inv running allowed _ := serves_inv inv running fate allowed
  drops board key inv := drop_inv board inv key
  leaves board job mark request inv running allowed lingers := by
    apply late_inv _ (drop_inv board inv job.key)
    intro entry member
    rcases mem_append.mp member with old | new
    · exact inv.late entry old
    · cases mem_singleton.mp new
      exact lingering_checkpoint allowed lingers
  commits board index job request fate inv found permitted := by
    have undisturbed : undisturbedSlots board.world (.commit job request) = true := ((Bool.and_eq_true _ _).mp permitted).2
    have rest : ∀ entry ∈ board.late.eraseIdx index, Checkpoint entry.2 :=
      fun entry member => inv.late entry (mem_of_mem_eraseIdx member)
    have checkpoint := inv.late (job, request) (mem_of_getElem? found)
    apply late_inv { board with world := (servePool board.world fate request).2 } _ _ rest
    cases request with
    | checkpoint key slot => exact late_checkpoint_inv board inv fate undisturbed
    | sharedStatus key status =>
      obtain ⟨slot, rfl⟩ := checkpoint
      exact late_status_inv board inv fate undisturbed
    | _ => cases checkpoint

theorem pool_start : PoolInv ⟨{}, fun _ => none, []⟩ where
  exclusive :=
    { recorded := fun _ _ known => by cases known
      unread := fun _ _ _ _ watched => by cases watched
      apart := fun _ _ _ _ _ _ _ watched => by cases watched
      sole := fun _ _ _ known => by cases known }
  keyed _ _ _ running := by cases running
  standing _ _ _ running := by cases running
  sound :=
    { claimKeys := fun _ member => by cases member
      sharedKeys := fun _ member => by cases member
      claimReady := fun _ member => by cases member
      sharedUsed := fun _ member => by cases member
      sharedKept := fun _ member => by cases member
      uids := fun _ member => by cases member
      seenUids := fun _ member => by cases member }
  late _ member := by cases member

theorem pool_reachable {state : PoolState} (reachable : (poolFleet.obeying slotsKept).Reachable state) :
    PoolInv (Fleet.board poolMonitor state) ∧ poolFleet.Followed poolMonitor state := by
  apply Fleet.keeps_reachable _ _ _ _ pool_kept
  · intro world job after prog _ begun
    exact passes_follow begun
  · rintro world rfl
    exact pool_start
  · exact reachable

namespace PoolWorld

variable (world : PoolWorld)

def readyOn : Holder → Slot → Bool
  | .claim key, slot => world.claims.any fun claim => claim.key == key && claim.isReady && claim.slot == some slot
  | .shared key, slot => world.shared.any fun sd => sd.key == key && sd.isReady && sd.slot == some slot
  | .retained _ _, _ => false

end PoolWorld

-- No flush hits a slot another uses, and no two objects are ready on one slot.
structure Exclusivity (runs : System PoolState PoolAction) (state : PoolState) : Prop where
  flush : ∀ action after job slot, runs.step state action = some after →
    Fleet.event state action = some (.serve job (.flushdb slot)) →
      ∀ holder : Holder, state.world.proven holder slot = true → holder.owner = job.holder.owner
  ready : ∀ holder other slot, state.world.readyOn holder slot = true → state.world.readyOn other slot = true →
    holder = other

theorem ready_proven {world : PoolWorld} (sound : PoolSound world) {holder : Holder}
    (ready : world.readyOn holder slot = true) : world.proven holder slot = true := by
  cases holder with
  | claim key =>
    obtain ⟨claim, member, found⟩ := any_eq_true.mp ready
    simp only [Bool.and_eq_true, beq_iff_eq] at found
    obtain ⟨⟨rfl, isReady⟩, held⟩ := found
    exact sound.claimReady claim member slot held isReady
  | shared key =>
    obtain ⟨sd, member, found⟩ := any_eq_true.mp ready
    simp only [Bool.and_eq_true, beq_iff_eq] at found
    obtain ⟨⟨rfl, isReady⟩, held⟩ := found
    exact sound.sharedUsed sd member slot held (by rw [SharedDatabase.used, isReady, Bool.or_true])
  | retained uid key => cases ready

theorem flush_recorded (inv : PoolInv board)
    (running : board.mark job.key = some (job, mark)) (allowed : poolAllowed job mark (.flushdb slot))
    (undisturbed : undisturbedSlots board.world (.serve job (.flushdb slot)) = true) :
    board.world.records job.holder slot = true := by
  obtain ⟨sure, rfl, purpose⟩ := allowed
  rcases standing_records (inv.standing _ _ _ running) rfl with ⟨uid, version, now, rfl, _⟩ | known
  · have there := contains_iff_mem.mp undisturbed
    exact (board.world.retained_records uid version.claimRef slot).mpr ⟨version, there, rfl, purpose.1⟩
  · exact known

theorem flush_alone (inv : PoolInv board)
    (running : board.mark job.key = some (job, mark)) (allowed : poolAllowed job mark (.flushdb slot))
    (undisturbed : undisturbedSlots board.world (.serve job (.flushdb slot)) = true) (holder : Holder)
    (proven : board.world.proven holder slot = true) : holder.owner = job.holder.owner := by
  have recorded := flush_recorded inv running allowed undisturbed
  obtain ⟨sure, rfl, _⟩ := allowed
  have watched : watches board.mark job.key = some (job.holder, slot, 3) := by
    rw [watches, running]
    rfl
  exact Ledger.alone _ _ _ inv.exclusive job.key job.holder holder slot 3 watched (rank_top holder) recorded proven

theorem keyspace_exclusive (state : PoolState) (reachable : (poolFleet.obeying slotsKept).Reachable state) :
    Exclusivity (poolFleet.obeying slotsKept) state := by
  obtain ⟨inv, followed⟩ := pool_reachable reachable
  constructor
  · intro action after job slot taken happens
    obtain ⟨_, permitted⟩ := poolFleet.obeying_step slotsKept state after action taken
    have undisturbed := ((Bool.and_eq_true _ _).mp (permitted _ happens)).2
    obtain ⟨key, pass, running, rfl, next, asks⟩ := Fleet.event_serve happens
    obtain ⟨named, follows⟩ := followed key pass running
    subst named
    rw [asks] at follows
    exact flush_alone inv (map_eq_some_iff.mpr ⟨pass, running, rfl⟩) follows.1 undisturbed
  · intro holder other slot first second
    have one := ready_proven inv.sound first
    have two := ready_proven inv.sound second
    have kin := inv.exclusive.sole holder other slot one two
    cases holder with
    | claim key =>
      cases other with
      | claim key => exact congrArg Holder.claim (DbnumOwner.claim.inj kin)
      | shared key => cases kin
      | retained uid key => cases second
    | shared key =>
      cases other with
      | claim key => cases kin
      | shared key => exact congrArg Holder.shared (DbnumOwner.shared.inj kin)
      | retained uid key => cases second
    | retained uid key => cases first

def cacheKey : ClaimKey := ⟨"shop", "cache"⟩

def cartKey : ClaimKey := ⟨"shop", "cart"⟩

def sessionsKey : ClaimKey := ⟨"shop", "sessions"⟩

def persistentInstance : String := poolInstanceName true poolInstanceIndex

def poolProvider : ServiceProvider := { ns := "apprafter-system", name := "redis-integrated", backend := "dragonfly" }

def smoothly : PoolFate := { commits := true, answered := true, provider := some poolProvider, count := 0 }

def replies (key : PoolKey) (count : Nat) : List PoolAction := List.replicate count (.reply key smoothly)

variable (persistent : Bool)

def cacheSpec : ResourceClaimSpec :=
  { type := "redis", selector := defaultIntegratedSelector, persistent := some persistent }

def cacheScheduled : ResourceClaim :=
  { key := cacheKey, spec := cacheSpec persistent, status := some (scheduled none poolProvider.name) }

def cachePinned : ResourceClaim := { cacheScheduled persistent with finalizers := [provisionerFinalizer] }

def newShared (key : ClaimKey) : SharedDatabase :=
  { ns := key.ns, name := key.name, spec := { type := "redis", persistent := some true } }

def provisionCache (count : Nat) : List PoolAction :=
  [.change (.createClaim cacheKey (cacheSpec persistent)), .change (.schedule cacheKey poolProvider.name),
    .begin (.claim (cacheScheduled persistent))] ++ replies (.claim cacheKey) count

def provisionShared (key : ClaimKey) : List PoolAction :=
  [.change (.createShared key (newShared key).spec), .begin (.shared (newShared key))] ++ replies (.shared key) 14

theorem keyspace_exclusive_cache :
    ∃ state, (poolFleet.obeying slotsKept).Reachable state ∧ Exclusivity (poolFleet.obeying slotsKept) state ∧
      state.world.readyOn (.claim cacheKey) (persistentInstance, 0) = true ∧
      state.world.readyOn (.shared sessionsKey) (persistentInstance, 1) = true := by
  have finished : ((poolFleet.obeying slotsKept).run (Fleet.start {}) (provisionCache true 16 ++ provisionShared sessionsKey)).map
      (fun state => (state.world.readyOn (.claim cacheKey) (persistentInstance, 0),
        state.world.readyOn (.shared sessionsKey) (persistentInstance, 1))) = some (true, true) := by
    decide +kernel
  obtain ⟨state, reachable, facts⟩ := System.run_shows _ finished ⟨_, rfl, rfl⟩
  exact ⟨state, reachable, keyspace_exclusive state reachable, congrArg Prod.fst facts, congrArg Prod.snd facts⟩

-- The dropped pass's checkpoint on 0 commits once the second pass has checked 1.
def lateRun : List PoolAction :=
  provisionCache true 6 ++ [.leave (.claim cacheKey)] ++ provisionShared cartKey ++
    [.begin (.claim (cachePinned true))] ++ replies (.claim cacheKey) 11 ++ [.commit 0 smoothly] ++
    provisionShared sessionsKey ++ replies (.claim cacheKey) 4

def cacheDeleted : ResourceClaim :=
  { cachePinned true with
    deletionTimestamp := some 0
    status := some (statusApplied (cachePinned true).status (readyCondition "True" "Provisioned")
      (some (connectionSecretName cacheKey)) (some (persistentInstance, 0))) }

def cacheSnapshot : RetainedClaim :=
  { name := k8sName cacheKey
    claimRef := cacheKey
    provider := poolProvider.name
    backend := "dragonfly"
    inst := some persistentInstance
    dbnum := some 0
    aclUser := some (aclUser cacheKey)
    retainUntil := gracePeriod }

-- The claim comes back on the other class, its snapshot goes, and the slot with it.
def cancelRun : List PoolAction :=
  provisionCache true 16 ++ [.drop (.claim cacheKey), .change (.deleteClaim cacheKey), .begin (.claim cacheDeleted)] ++
    replies (.claim cacheKey) 4 ++
    [.drop (.claim cacheKey), .change (.tick gracePeriod), .begin (.retained 0 cacheSnapshot gracePeriod)] ++
    replies (.retained 0) 6 ++ provisionCache false 16 ++ provisionShared sessionsKey

def flushing (state : PoolState) (key : PoolKey) : Option (DbnumOwner × Slot) :=
  (Fleet.event state (.reply key smoothly : PoolAction)).bind fun
    | .serve job (.flushdb slot) => some (job.holder.owner, slot)
    | _ => none

theorem keyspace_not_exclusive :
    (∃ state, (poolFleet.obeying readsCurrent).Reachable state ∧
      state.world.readyOn (.claim cacheKey) (persistentInstance, 1) = true ∧
      state.world.readyOn (.shared sessionsKey) (persistentInstance, 1) = true ∧
      ¬Exclusivity (poolFleet.obeying readsCurrent) state) ∧
    ∃ state, (poolFleet.obeying readsCurrent).Reachable state ∧
      flushing state (.retained 0) = some (.claim cacheKey, (persistentInstance, 0)) ∧
      state.world.readyOn (.shared sessionsKey) (persistentInstance, 0) = true ∧
      ¬Exclusivity (poolFleet.obeying readsCurrent) state := by
  constructor
  · have finished : ((poolFleet.obeying readsCurrent).run (Fleet.start {}) lateRun).map
        (fun state => (state.world.readyOn (.claim cacheKey) (persistentInstance, 1),
          state.world.readyOn (.shared sessionsKey) (persistentInstance, 1))) = some (true, true) := by
      decide +kernel
    obtain ⟨state, reachable, facts⟩ := System.run_shows _ finished ⟨_, rfl, rfl⟩
    obtain ⟨first, second⟩ := Prod.mk.inj facts
    refine ⟨state, reachable, first, second, ?_⟩
    intro exclusivity
    cases exclusivity.ready _ _ _ first second
  · have finished : ((poolFleet.obeying readsCurrent).run (Fleet.start {}) cancelRun).bind (fun state =>
        ((poolFleet.obeying readsCurrent).step state (.reply (.retained 0) smoothly)).map fun _ =>
          (flushing state (.retained 0), state.world.readyOn (.shared sessionsKey) (persistentInstance, 0),
            state.world.proven (.shared sessionsKey) (persistentInstance, 0))) =
        some (some (.claim cacheKey, (persistentInstance, 0)), true, true) := by
      decide +kernel
    obtain ⟨state, after, reachable, taken, facts⟩ := System.run_then_shows _ finished ⟨_, rfl, rfl⟩
    obtain ⟨asks, facts⟩ := Prod.mk.inj facts
    obtain ⟨ready, proven⟩ := Prod.mk.inj facts
    refine ⟨state, reachable, asks, ready, ?_⟩
    intro exclusivity
    obtain ⟨happening, happens, served⟩ := bind_eq_some_iff.mp asks
    cases happening with
    | serve job request =>
      cases request with
      | flushdb slot =>
        obtain ⟨owner, rfl⟩ := Prod.mk.inj (some.inj served)
        have same := exclusivity.flush _ after job _ taken happens _ proven
        rw [owner] at same
        cases same
      | _ => cases served
    | _ => cases served

end AppRafter.Provisioner
