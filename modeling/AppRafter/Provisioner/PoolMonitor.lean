import AppRafter.Provisioner.Pool

set_option autoImplicit false

namespace AppRafter.Provisioner

open Lib Application List Option

-- The slots the claim's own snapshot does not name, and those it names on their instance.
structure Sighting where
  bare : Slot → Bool := fun _ => false
  fits : Slot → Bool := fun _ => false

inductive PoolMark where
  | begun
  -- The finalizer is in place.
  | pinned (sight : Sighting)
  -- The object records the slot, and so many of the three sources show no other holder.
  | holding (slot : Slot) (stage : Nat) (sure : Bool)
  | clashing (slot : Slot) (sure : Bool)
  | readied (slot : Slot)
  | leaving
  | stale
  | reclaimed
  | idle

def PoolMark.secured : PoolMark → Bool
  | .pinned _ => true
  | .holding _ _ _ => true
  | .clashing _ _ => true
  | _ => false

def startShared (sd : SharedDatabase) : PoolMark :=
  match sd.slot with
  | none => .pinned {}
  | some slot => .holding slot 0 (!sd.unfinished)

def firstMark : PoolJob → PoolMark
  | .claim claim =>
    if claim.finalizers.contains provisionerFinalizer then
      if claim.deletionTimestamp.isSome then .leaving else .pinned {}
    else if claim.deletionTimestamp.isSome then .idle
    else .begun
  | .shared sd =>
    if sd.finalizers.contains sdFinalizer then startShared sd
    else if sd.deletionTimestamp.isSome then .idle
    else .begun
  | .retained _ _ _ => .begun

def judgedMark (snapshot : RetainedClaim) (found : Option ResourceClaim) : PoolMark :=
  if found.any fun claim => claimIsLive claim && reattachInProgress snapshot claim then .idle
  else if found.any claimIsLive then .stale
  else if (dragonflyReclaimTarget snapshot).isNone then .reclaimed
  else
    match snapshot.slot with
    | some slot => .holding slot 0 true
    | none => .idle

def PoolMark.read (mark : PoolMark) (stage : Nat) (clean : Slot → Bool) : PoolMark :=
  match mark with
  | .holding slot reached sure =>
    if reached = stage then if clean slot then .holding slot (stage + 1) sure else .clashing slot sure
    else .holding slot reached sure
  | mark => mark

def PoolMark.sighted (mark : PoolMark) (sight : Sighting) : PoolMark :=
  match mark with
  | .pinned _ => .pinned sight
  | mark => mark

def listSighting (job : PoolJob) (retained : List RetainedClaim) : Sighting :=
  { bare := fun slot => retained.all fun snapshot => snapshot.slot != some slot
    fits := fun slot => match job with
      | .claim claim => (ownSnapshot claim retained slot.1).all fun n => n == slot.2
      | _ => false }

def writtenMark (status : SharedDatabaseStatus) (ok : Bool) : PoolMark :=
  match slotOf status.inst status.dbnum, ok with
  | some slot, true => if allocationUnfinished status.conditions then .holding slot 0 false else .idle
  | _, _ => .idle

def nextMark (job : PoolJob) (mark : PoolMark) : Exchange poolApi → PoolMark
  | ⟨.claimFinalizers _ _, ok⟩ =>
    match mark, ok with
    | .begun, true => .pinned {}
    | _, _ => .idle
  | ⟨.sharedFinalizers _ _, ok⟩ =>
    match job, mark, ok with
    | .shared sd, .begun, true => startShared sd
    | _, _, _ => .idle
  | ⟨.getClaim _, found⟩ =>
    match job, found with
    | .retained _ snapshot _, some found => judgedMark snapshot found
    | _, _ => .idle
  | ⟨.getRetained _, found⟩ =>
    match found with
    | some found => mark.sighted { bare := fun slot => found.all fun snapshot => snapshot.slot != some slot }
    | none => mark
  | ⟨.listClaims, live⟩ =>
    match live with
    | some live => mark.read 0 fun slot => (claimHolders live slot job.holder.owner).isEmpty
    | none => mark
  | ⟨.listRetained, retained⟩ =>
    match retained with
    | some retained =>
      (mark.read 1 fun slot => (retainedHolders retained slot job.holder.owner).isEmpty).sighted (listSighting job retained)
    | none => mark
  | ⟨.listShared, shared⟩ =>
    match shared with
    | some shared => mark.read 2 fun slot => (sharedHolders shared slot job.holder.owner).isEmpty
    | none => mark
  | ⟨.outside call, ok⟩ =>
    match job, call, ok with
    | .retained _ _ _, .readAdminPassword _, false => .reclaimed
    | .retained _ _ _, .aclDeluser _ _, _ => .reclaimed
    | _, _, _ => mark
  | ⟨.checkpoint _ slot, ok⟩ =>
    match job, mark, ok with
    | .claim claim, .pinned sight, true => .holding slot 0 (sight.bare slot || !claim.spec.persistent.getD false)
    | _, _, _ => .idle
  | ⟨.claimStatus _ _ _ _, ok⟩ =>
    match mark, ok with
    | .holding slot _ _, true => .readied slot
    | _, _ => .idle
  | ⟨.sharedStatus _ status, ok⟩ => writtenMark status ok
  | ⟨.deleteRetained _, _⟩ =>
    match mark with
    | .clashing slot sure => .clashing slot sure
    | _ => .idle
  | _ => mark

def AtStart (sd : SharedDatabase) (mark : PoolMark) : Prop :=
  match sd.slot with
  | none => ∃ sight, mark = .pinned sight
  | some slot => (∃ stage, mark = .holding slot stage (!sd.unfinished)) ∨ mark = .clashing slot (!sd.unfinished)

inductive SharedWrite (sd : SharedDatabase) (mark : PoolMark) : SharedDatabaseStatus → Prop where
  | checkpoint (slot : Slot) (start : AtStart sd mark) (kept : sd.deletionTimestamp = none)
      (other : sd.unfinished = false → sd.slot ≠ some slot) :
      SharedWrite sd mark (sdStatus false (.redis slot) (readyCondition "False" reasonAwaitingKeyspace))
  | ready (slot : Slot) (stage : Nat) (sure : Bool) (held : mark = .holding slot stage sure)
      (clear : stage = 3 ∨ sure = true) :
      SharedWrite sd mark (sdStatus true (.redis slot) (readyCondition "True" "Provisioned"))
  | release : SharedWrite sd mark (sdStatus false {} (readyCondition "False" reasonAwaitingKeyspace))
  | carry (reason : String) (start : AtStart sd mark) (told : reason ≠ reasonAwaitingKeyspace) :
      SharedWrite sd mark (sdStatus false (backingOf sd) (readyCondition "False" reason))

def ephemeralInstance : String := poolInstanceName false poolInstanceIndex

def poolAllowed (job : PoolJob) (mark : PoolMark) : PoolRequest → Prop
  | .getClaim key => ∃ uid snapshot now, job = .retained uid snapshot now ∧ key = snapshot.claimRef
  | .getRetained name => ∃ claim, job = .claim claim ∧ name = k8sName claim.key
  | .claimFinalizers key keep => ∃ claim, job = .claim claim ∧ key = claim.key ∧
      (if keep = true then mark = .begun else mark = .leaving)
  | .sharedFinalizers key keep => ∃ sd, job = .shared sd ∧ key = sd.key ∧
      (if keep = true then mark = .begun else mark.secured = true ∧ sd.deletionTimestamp ≠ none)
  | .checkpoint key slot => ∃ claim sight, job = .claim claim ∧ key = claim.key ∧ mark = .pinned sight ∧
      claim.deletionTimestamp = none ∧ shouldProvision claim.status = true ∧
      slot.1 = poolInstanceName (claim.spec.persistent.getD false) poolInstanceIndex ∧
      (claim.slot = some slot ∨ sight.fits slot = true)
  | .claimStatus key cond _ allocation => ∃ claim slot sure, job = .claim claim ∧ key = claim.key ∧
      ((cond.status = "True" ∧ allocation = some slot ∧ mark = .holding slot 3 sure) ∨
        (cond.status = "False" ∧ (allocation = none ∨ allocation = some slot) ∧ mark = .clashing slot sure))
  | .sharedStatus key status => ∃ sd, job = .shared sd ∧ key = sd.key ∧ SharedWrite sd mark status
  | .createRetained snapshot => ∃ claim deletion provider, job = .claim claim ∧ mark = .leaving ∧
      claim.deletionTimestamp = some deletion ∧ snapshotOf claim deletion provider = some snapshot
  | .deleteRetained name =>
    (∃ claim, job = .claim claim ∧ name = k8sName claim.key ∧
      ((∃ slot, mark = .readied slot) ∨ ∃ slot sure, mark = .clashing slot sure ∧ slot.1 = ephemeralInstance)) ∨
    ∃ uid snapshot now, job = .retained uid snapshot now ∧ name = snapshot.name ∧
      snapshot.retainUntil ≤ now ∧ (mark = .stale ∨ mark = .reclaimed)
  | .flushdb slot => ∃ sure, mark = .holding slot 3 sure ∧ match job with
      | .claim _ => sure = true
      | .shared sd => sd.deletionTimestamp = none → sure = false
      | .retained _ snapshot now => snapshot.slot = some slot ∧ snapshot.retainUntil ≤ now
  | _ => True

def poolMonitor : Monitor poolApi PoolJob PoolMark where
  first := firstMark
  next := nextMark
  allowed := poolAllowed

abbrev Follows (job : PoolJob) (mark : PoolMark) (prog : PoolProg) : Prop := poolMonitor.Follows job (fun _ _ => True) mark prog

variable (job : PoolJob)

theorem attempt_follows (mark : PoolMark) (call : Outside) (next : PoolProg)
    (keeps : nextMark job mark ⟨.outside call, true⟩ = mark) (after : Follows job mark next) :
    Follows job mark (attempt call next) := by
  refine ⟨trivial, Bool.forall_bool.mpr ⟨trivial, ?_⟩⟩
  change Follows job (nextMark job mark ⟨.outside call, true⟩) next
  rw [keeps]
  exact after

def readMark (mark : PoolMark) (live : List ResourceClaim) (retained : List RetainedClaim)
    (shared : List SharedDatabase) : PoolMark :=
  nextMark job (nextMark job (nextMark job mark ⟨.listClaims, some live⟩) ⟨.listRetained, some retained⟩)
    ⟨.listShared, some shared⟩

theorem sources_follow (mark : PoolMark) (next : List ResourceClaim → List RetainedClaim → List SharedDatabase → PoolProg)
    (after : ∀ live retained shared, Follows job (readMark job mark live retained shared) (next live retained shared)) :
    Follows job mark (readSources next) := by
  refine ⟨trivial, ?_⟩
  intro live
  cases live with
  | none => trivial
  | some live =>
    refine ⟨trivial, ?_⟩
    intro retained
    cases retained with
    | none => trivial
    | some retained =>
      refine ⟨trivial, ?_⟩
      intro shared
      cases shared with
      | none => trivial
      | some shared => exact after live retained shared

theorem read_holding (slot : Slot) (sure : Bool) (live : List ResourceClaim)
    (retained : List RetainedClaim) (shared : List SharedDatabase) :
    readMark job (.holding slot 0 sure) live retained shared =
      if (otherDbnumHolders live retained shared slot job.holder.owner).isEmpty then .holding slot 3 sure
      else .clashing slot sure := by
  have every : (otherDbnumHolders live retained shared slot job.holder.owner).isEmpty =
      ((claimHolders live slot job.holder.owner).isEmpty && (retainedHolders retained slot job.holder.owner).isEmpty &&
        (sharedHolders shared slot job.holder.owner).isEmpty) := by
    rw [Bool.eq_iff_iff]
    simp [otherDbnumHolders, and_assoc]
  rw [every]
  cases first : (claimHolders live slot job.holder.owner).isEmpty with
  | false => simp [readMark, nextMark, PoolMark.read, PoolMark.sighted, first]
  | true =>
    cases second : (retainedHolders retained slot job.holder.owner).isEmpty with
    | false => simp [readMark, nextMark, PoolMark.read, PoolMark.sighted, first, second]
    | true =>
      cases third : (sharedHolders shared slot job.holder.owner).isEmpty with
      | false | true => simp [readMark, nextMark, PoolMark.read, PoolMark.sighted, first, second, third]

variable {job : PoolJob}

theorem holders_follow (slot : Slot) (sure : Bool) (next : List String → PoolProg)
    (alone : Follows job (.holding slot 3 sure) (next []))
    (beside : ∀ others, others.isEmpty = false → Follows job (.clashing slot sure) (next others)) :
    Follows job (.holding slot 0 sure) (dbnumHoldersBesides slot job.holder.owner next) := by
  apply sources_follow
  intro live retained shared
  rw [read_holding]
  by_cases empty : (otherDbnumHolders live retained shared slot job.holder.owner).isEmpty = true
  · rw [List.isEmpty_iff.mp empty]
    exact alone
  · rw [if_neg empty]
    exact beside _ (Bool.not_eq_true _ ▸ empty)

section Claim

variable (claim : ResourceClaim) (slot : Slot)

theorem publish_claim_follows (sure : Bool) : Follows (.claim claim) (.holding slot 3 sure) (publishClaim claim slot) := by
  apply attempt_follows
  · rfl
  apply attempt_follows
  · rfl
  refine ⟨⟨claim, slot, sure, rfl, rfl, .inl ⟨rfl, rfl, rfl⟩⟩, Bool.forall_bool.mpr ⟨trivial, ?_⟩⟩
  exact ⟨.inl ⟨claim, rfl, rfl, .inl ⟨slot, rfl⟩⟩, fun _ => trivial⟩

variable {skipFlush persistent : Bool} {inst : String} {n max deletion : Nat} {existing : Option Nat} {used : List Nat}

theorem use_slot_follows {sure : Bool} (flushes : skipFlush = false → sure = true) :
    Follows (.claim claim) (.holding slot 3 sure) (useSlot claim slot skipFlush) := by
  cases skipFlush with
  | true => exact publish_claim_follows claim slot sure
  | false =>
    refine ⟨⟨sure, rfl, flushes rfl⟩, Bool.forall_bool.mpr ⟨trivial, ?_⟩⟩
    exact publish_claim_follows claim slot sure

theorem conflict_status_follows {slot : Slot} (sure : Bool) (reason : String) {allocation : Option Slot}
    (others : List String) (outcome : String) (kept : allocation = none ∨ allocation = some slot) :
    Follows (.claim claim) (.clashing slot sure) (conflictStatus claim slot reason allocation others outcome) := by
  exact ⟨⟨claim, slot, sure, rfl, rfl, .inr ⟨rfl, kept, rfl⟩⟩, Bool.forall_bool.mpr ⟨trivial, trivial⟩⟩

theorem yield_slot_follows (sure skipFlush reattached : Bool) (others : List String)
    (ephemeral : reattached = true → skipFlush = false → slot.1 = ephemeralInstance) :
    Follows (.claim claim) (.clashing slot sure) (yieldSlot claim slot skipFlush reattached others) := by
  cases skipFlush with
  | true => exact conflict_status_follows claim sure _ others _ (.inr rfl)
  | false =>
    cases reattached with
    | false => exact conflict_status_follows claim sure _ others _ (.inl rfl)
    | true =>
      refine ⟨.inl ⟨claim, rfl, rfl, .inr ⟨slot, sure, rfl, ephemeral rfl rfl⟩⟩, Bool.forall_bool.mpr ⟨trivial, ?_⟩⟩
      exact conflict_status_follows claim sure _ others _ (.inl rfl)

-- What the choice of a slot has to bring along.
structure Chosen (sight : Sighting) (slot : Slot) (skipFlush reattached : Bool) : Prop where
  wanted : shouldProvision claim.status = true
  kept : claim.deletionTimestamp = none
  routed : slot.1 = poolInstanceName (claim.spec.persistent.getD false) poolInstanceIndex
  flushes : skipFlush = false → (sight.bare slot || !claim.spec.persistent.getD false) = true
  fitting : claim.slot = some slot ∨ sight.fits slot = true
  ephemeral : reattached = true → skipFlush = false → claim.spec.persistent.getD false = false

theorem take_slot_follows (sight : Sighting) (slot : Slot) (skipFlush reattached : Bool)
    (chosen : Chosen claim sight slot skipFlush reattached) :
    Follows (.claim claim) (.pinned sight) (takeSlot claim slot skipFlush reattached) := by
  refine ⟨⟨claim, sight, rfl, rfl, rfl, chosen.kept, chosen.wanted, chosen.routed, chosen.fitting⟩,
    Bool.forall_bool.mpr ⟨trivial, ?_⟩⟩
  apply attempt_follows
  · rfl
  apply holders_follow
  · exact use_slot_follows claim slot chosen.flushes
  · intro others beside
    rw [beside]
    apply yield_slot_follows
    intro again flushed
    rw [chosen.routed, chosen.ephemeral again flushed]
    rfl

theorem allocated_bare {live : List ResourceClaim} {retained : List RetainedClaim} {shared : List SharedDatabase} (allocated : allocateDbnum (usedDbnums live retained shared inst) max = some n) :
    (retained.all fun snapshot => snapshot.slot != some (inst, n)) = true := by
  have free := List.find?_some allocated
  rw [List.all_eq_true]
  intro snapshot member
  rw [bne_iff_ne]
  intro named
  obtain ⟨i, placed, numbered⟩ := bind_eq_some_iff.mp named
  obtain ⟨m, number, same⟩ := map_eq_some_iff.mp numbered
  obtain ⟨rfl, rfl⟩ := Prod.mk.inj same
  have used : m ∈ usedDbnums live retained shared i := by
    rw [usedDbnums, mem_append, mem_append]
    refine .inl (.inr (mem_filterMap.mpr ⟨snapshot, member, ?_⟩))
    rw [if_pos placed, number]
  simp [used] at free

theorem resolve_reattach (resolved : resolveAllocation existing persistent used max = .reattach n skipFlush) :
    existing = some n ∧ skipFlush = persistent := by
  cases existing with
  | some number =>
    cases resolved
    exact ⟨rfl, rfl⟩
  | none =>
    rw [resolveAllocation] at resolved
    split at resolved
    · cases resolved
    · cases resolved

theorem resolve_fresh (resolved : resolveAllocation existing persistent used max = .fresh n) :
    existing = none ∧ allocateDbnum used max = some n := by
  cases existing with
  | some number =>
    cases resolved
  | none =>
    rw [resolveAllocation] at resolved
    split at resolved
    · rename_i found
      cases resolved
      exact ⟨rfl, found⟩
    · cases resolved

theorem existing_alloc_slot (existing : existingAlloc claim.slot inst = some n) : claim.slot = some (inst, n) := by
  obtain ⟨⟨i, m⟩, held, chosen⟩ := bind_eq_some_iff.mp existing
  by_cases here : i = inst
  · rw [if_pos here] at chosen
    have same : m = n := some.inj chosen
    rw [held, here, same]
  · rw [if_neg here] at chosen
    cases chosen

theorem provision_dragonfly_follows (provider : ServiceProvider) (wanted : shouldProvision claim.status = true)
    (kept : claim.deletionTimestamp = none) (sight : Sighting) :
    Follows (.claim claim) (.pinned sight) (provisionDragonfly claim provider) := by
  apply attempt_follows
  · rfl
  cases existing : existingAlloc claim.slot (poolInstanceName (claim.spec.persistent.getD false) poolInstanceIndex) with
  | some n =>
    refine ⟨⟨claim, rfl, rfl⟩, ?_⟩
    intro found
    cases found with
    | none => trivial
    | some found =>
      apply take_slot_follows
      refine ⟨wanted, kept, rfl, ?_, .inl (existing_alloc_slot claim existing), ?_⟩
      · intro flushed
        cases found with
        | none => rfl
        | some snapshot =>
          cases persistent : claim.spec.persistent.getD false with
          | false => simp
          | true => simpa [persistent] using flushed
      · intro own flushed
        rw [own, Bool.and_true] at flushed
        exact flushed
  | none =>
    apply sources_follow
    intro live retained shared
    split
    · rename_i n skipFlush resolved
      obtain ⟨own, skips⟩ := resolve_reattach resolved
      apply take_slot_follows
      refine ⟨wanted, kept, rfl, ?_, .inr ?_, fun _ flushed => skips.symm.trans flushed⟩
      · intro flushed
        rw [← skips, flushed, Bool.not_false, Bool.or_true]
      · simp [listSighting, own]
    · rename_i n resolved
      obtain ⟨none_here, allocated⟩ := resolve_fresh resolved
      have free : (listSighting (.claim claim) retained).bare (_, n) = true := allocated_bare allocated
      apply take_slot_follows
      refine ⟨wanted, kept, rfl, fun _ => by rw [free, Bool.true_or], .inr ?_, fun again => nomatch again⟩
      simp [listSighting, none_here]
    · trivial

theorem provision_claim_follows (kept : claim.deletionTimestamp = none) (sight : Sighting) :
    Follows (.claim claim) (.pinned sight) (provisionClaim claim) := by
  unfold provisionClaim
  split
  · rename_i wanted
    refine ⟨trivial, ?_⟩
    intro found
    rcases found with _ | _ | provider
    · trivial
    · trivial
    · change Follows (.claim claim) (.pinned sight) (if claim.spec.sharedRef.isSome then _ else _)
      split
      · trivial
      · split
        · exact provision_dragonfly_follows claim provider wanted kept sight
        · trivial
  · trivial

theorem drop_claim_finalizer_follows : Follows (.claim claim) .leaving (dropClaimFinalizer claim) := by
  exact ⟨⟨claim, rfl, rfl, rfl⟩, Bool.forall_bool.mpr ⟨trivial, trivial⟩⟩

theorem snapshot_of_named {provider : Option ServiceProvider} {snapshot : RetainedClaim}
    (taken : snapshotOf claim deletion provider = some snapshot) :
    snapshot.name = k8sName claim.key ∧ snapshot.claimRef = claim.key := by
  unfold snapshotOf at taken
  split at taken
  · cases taken
  · obtain rfl := some.inj taken
    exact ⟨rfl, rfl⟩
  · obtain rfl := some.inj taken
    exact ⟨rfl, rfl⟩
  · obtain rfl := some.inj taken
    exact ⟨rfl, rfl⟩
  · obtain rfl := some.inj taken
    exact ⟨rfl, rfl⟩

theorem retire_claim_follows (deleted : claim.deletionTimestamp = some deletion) :
    Follows (.claim claim) .leaving (retireClaim claim deletion) := by
  unfold retireClaim
  split
  · refine ⟨trivial, ?_⟩
    intro ok
    cases ok with
    | false => trivial
    | true => exact drop_claim_finalizer_follows claim
  · refine ⟨trivial, ?_⟩
    intro found
    cases found with
    | none => trivial
    | some provider =>
      dsimp only
      split
      · exact drop_claim_finalizer_follows claim
      · rename_i snapshot taken
        refine ⟨⟨claim, rfl, (snapshot_of_named claim taken).1⟩, ?_⟩
        intro already
        rcases already with _ | _ | existing
        · trivial
        · refine ⟨⟨claim, deletion, provider, rfl, rfl, deleted, taken⟩, ?_⟩
          intro ok
          cases ok with
          | false => trivial
          | true => exact drop_claim_finalizer_follows claim
        · exact drop_claim_finalizer_follows claim

theorem reconcile_claim_follows : Follows (.claim claim) (firstMark (.claim claim)) (reconcileClaim claim) := by
  unfold reconcileClaim
  cases deleted : claim.deletionTimestamp with
  | some deletion =>
    cases finalized : claim.finalizers.contains provisionerFinalizer with
    | true =>
      simp only [firstMark, finalized, deleted]
      exact retire_claim_follows claim deleted
    | false => trivial
  | none =>
    cases finalized : claim.finalizers.contains provisionerFinalizer with
    | true =>
      simp only [firstMark, finalized, deleted]
      exact provision_claim_follows claim deleted _
    | false =>
      simp only [firstMark, finalized, deleted]
      refine ⟨⟨claim, rfl, rfl, rfl⟩, Bool.forall_bool.mpr ⟨trivial, ?_⟩⟩
      exact provision_claim_follows claim deleted _

end Claim

section Shared

variable (sd : SharedDatabase)

theorem at_start : AtStart sd (startShared sd) := by
  unfold AtStart startShared
  cases sd.slot with
  | none => exact ⟨_, rfl⟩
  | some slot => exact .inl ⟨0, rfl⟩

theorem at_start_read (mark : PoolMark) (stage : Nat) (clean : Slot → Bool) (start : AtStart sd mark) :
    AtStart sd (mark.read stage clean) := by
  unfold AtStart at start ⊢
  cases held : sd.slot with
  | none =>
    rw [held] at start
    obtain ⟨sight, rfl⟩ := start
    exact ⟨sight, rfl⟩
  | some slot =>
    rw [held] at start
    rcases start with ⟨reached, rfl⟩ | rfl
    · simp only [PoolMark.read]
      split
      · split
        · exact .inl ⟨_, rfl⟩
        · exact .inr rfl
      · exact .inl ⟨_, rfl⟩
    · exact .inr rfl

theorem at_start_sighted (mark : PoolMark) (sight : Sighting) (start : AtStart sd mark) : AtStart sd (mark.sighted sight) := by
  unfold AtStart at start ⊢
  cases held : sd.slot with
  | none =>
    rw [held] at start
    obtain ⟨before, rfl⟩ := start
    exact ⟨sight, rfl⟩
  | some slot =>
    rw [held] at start
    rcases start with ⟨reached, rfl⟩ | rfl
    · exact .inl ⟨reached, rfl⟩
    · exact .inr rfl

variable {mark : PoolMark} {n : Nat} {inst : String}

theorem at_start_sources (live : List ResourceClaim) (retained : List RetainedClaim)
    (shared : List SharedDatabase) (start : AtStart sd mark) : AtStart sd (readMark (.shared sd) mark live retained shared) := by
  apply at_start_read
  apply at_start_sighted
  apply at_start_read
  apply at_start_read
  exact start

theorem at_start_secured (start : AtStart sd mark) : mark.secured = true := by
  unfold AtStart at start
  cases held : sd.slot with
  | none =>
    rw [held] at start
    obtain ⟨bare, rfl⟩ := start
    rfl
  | some slot =>
    rw [held] at start
    rcases start with ⟨reached, rfl⟩ | rfl
    · rfl
    · rfl

theorem write_sd_status_follows (mark : PoolMark) (ready : Bool) (backing : Backing) (status reason : String)
    (next : PoolProg) (allowed : SharedWrite sd mark (sdStatus ready backing (readyCondition status reason)))
    (after : Follows (.shared sd)
      (nextMark (.shared sd) mark ⟨.sharedStatus sd.key (sdStatus ready backing (readyCondition status reason)), true⟩)
      next) :
    Follows (.shared sd) mark (writeSdStatus sd ready backing status reason next) := by
  refine ⟨⟨sd, rfl, rfl, allowed⟩, Bool.forall_bool.mpr ⟨trivial, ?_⟩⟩
  exact after

theorem publish_shared_follows (slot : Slot) {stage : Nat} (sure : Bool) (clear : stage = 3 ∨ sure = true) :
    Follows (.shared sd) (.holding slot stage sure) (publishShared sd slot) := by
  apply write_sd_status_follows
  · exact .ready slot stage sure rfl clear
  · trivial

theorem first_use_follows (slot : Slot) : Follows (.shared sd) (.holding slot 0 false) (firstUse sd slot) := by
  apply holders_follow
  · apply attempt_follows
    · rfl
    refine ⟨⟨false, rfl, fun _ => rfl⟩, Bool.forall_bool.mpr ⟨trivial, ?_⟩⟩
    exact publish_shared_follows sd slot false (.inl rfl)
  · intro others beside
    rw [beside]
    apply write_sd_status_follows
    · exact .release
    · trivial

theorem allocated_small {used : List Nat} {provider : ServiceProvider}
    (allocated : allocateDbnum used provider.dbnumMax = some n) : asU16 n = some n := by
  have listed := mem_of_find?_eq_some allocated
  rw [mem_range, ServiceProvider.dbnumMax] at listed
  exact if_pos (by omega)

theorem allocate_shared_follows (provider : ServiceProvider) (start : AtStart sd mark)
    (kept : sd.deletionTimestamp = none) (none_here : existingShared sd inst = none) :
    Follows (.shared sd) mark (allocateShared sd provider inst) := by
  apply sources_follow
  intro live retained shared
  have start := at_start_sources sd live retained shared start
  split
  · apply write_sd_status_follows
    · exact .carry "InsufficientCapacity" start (by decide)
    · trivial
  · rename_i n allocated
    apply write_sd_status_follows
    · refine .checkpoint (inst, n) start kept ?_
      intro _ same
      have small := allocated_small allocated
      simp [existingShared, same, small] at none_here
    · exact first_use_follows sd (inst, n)

theorem count_binders_follows (mark : PoolMark) (next : Nat → PoolProg)
    (after : ∀ count, Follows (.shared sd) mark (next count)) : Follows (.shared sd) mark (countBinders sd next) := by
  refine ⟨trivial, ?_⟩
  intro count
  cases count with
  | none => trivial
  | some count => exact after count

theorem existing_shared_slot (existing : existingShared sd inst = some n) : sd.slot = some (inst, n) := by
  obtain ⟨⟨i, m⟩, held, chosen⟩ := bind_eq_some_iff.mp existing
  by_cases here : i = inst
  · by_cases small : m < 65536
    · simp only [here, if_true, asU16, if_pos small, some.injEq] at chosen
      rw [held, here, chosen]
    · simp [asU16, small] at chosen
  · simp [here] at chosen

theorem reconcile_redis_follows (kept : sd.deletionTimestamp = none) :
    Follows (.shared sd) (startShared sd) (reconcileRedis sd) := by
  refine ⟨trivial, ?_⟩
  intro found
  rcases found with _ | _ | provider
  · trivial
  · apply count_binders_follows
    intro _
    apply write_sd_status_follows
    · exact .carry "NoProvider" (at_start sd) (by decide)
    · trivial
  · apply attempt_follows
    · rfl
    apply count_binders_follows
    intro _
    split
    · rename_i n existing
      have held := existing_shared_slot sd existing
      rw [startShared, held]
      cases sd.unfinished with
      | true => exact first_use_follows sd (_, n)
      | false => exact publish_shared_follows sd (_, n) true (.inr rfl)
    · rename_i none_here
      exact allocate_shared_follows sd provider (at_start sd) kept none_here

theorem drop_shared_finalizer_follows (secured : mark.secured = true) (deleted : sd.deletionTimestamp ≠ none) :
    Follows (.shared sd) mark (dropSharedFinalizer sd) := by
  exact ⟨⟨sd, rfl, rfl, secured, deleted⟩, Bool.forall_bool.mpr ⟨trivial, trivial⟩⟩

theorem drop_backing_follows (deleted : sd.deletionTimestamp ≠ none) :
    Follows (.shared sd) (startShared sd) (dropBacking sd) := by
  have secured := at_start_secured sd (at_start sd)
  refine ⟨trivial, ?_⟩
  intro found
  cases found with
  | none => trivial
  | some found =>
    split
    · exact drop_shared_finalizer_follows sd secured deleted
    · rename_i slot backed
      have held : sd.slot = some slot := by
        obtain ⟨⟨inst, m⟩, held, chosen⟩ := bind_eq_some_iff.mp backed
        by_cases small : m < 65536
        · simp only [asU16, if_pos small, map_some, some.injEq] at chosen
          rw [held, chosen]
        · simp [asU16, small] at chosen
      have started : startShared sd = .holding slot 0 (!sd.unfinished) := by rw [startShared, held]
      rw [started]
      refine ⟨trivial, ?_⟩
      intro readable
      cases readable with
      | false => exact drop_shared_finalizer_follows sd rfl deleted
      | true =>
        apply holders_follow
        · refine ⟨⟨_, rfl, fun kept => absurd kept deleted⟩, ?_⟩
          intro _
          exact drop_shared_finalizer_follows sd rfl deleted
        · intro others beside
          rw [beside]
          exact drop_shared_finalizer_follows sd rfl deleted

theorem reconcile_shared_follows : Follows (.shared sd) (firstMark (.shared sd)) (reconcileShared sd) := by
  unfold reconcileShared
  cases deleted : sd.deletionTimestamp with
  | some deletion =>
    cases finalized : sd.finalizers.contains sdFinalizer with
    | false => trivial
    | true =>
      have first : firstMark (.shared sd) = startShared sd := by rw [firstMark, if_pos finalized]
      rw [first]
      apply count_binders_follows
      intro count
      split
      · split
        · exact drop_backing_follows sd (by simp [deleted])
        · trivial
      · apply write_sd_status_follows
        · exact .carry "InUse" (at_start sd) (by decide)
        · trivial
  | none =>
    cases finalized : sd.finalizers.contains sdFinalizer with
    | true =>
      have first : firstMark (.shared sd) = startShared sd := by rw [firstMark, if_pos finalized]
      rw [first]
      simp only [if_true]
      split
      · exact reconcile_redis_follows sd deleted
      · trivial
    | false =>
      have first : firstMark (.shared sd) = .begun := by rw [firstMark, finalized, deleted]; rfl
      rw [first]
      refine ⟨⟨sd, rfl, rfl, rfl⟩, Bool.forall_bool.mpr ⟨trivial, ?_⟩⟩
      split
      · exact reconcile_redis_follows sd deleted
      · trivial

end Shared

section Gc

variable (uid : Nat) (snapshot : RetainedClaim) (now : Nat)

theorem drop_snapshot_follows (due : snapshot.retainUntil ≤ now) :
    Follows (.retained uid snapshot now) .reclaimed (dropSnapshot snapshot) := by
  refine ⟨trivial, Bool.forall_bool.mpr ⟨trivial, ?_⟩⟩
  exact ⟨.inr ⟨uid, snapshot, now, rfl, rfl, due, .inr rfl⟩, Bool.forall_bool.mpr ⟨trivial, trivial⟩⟩

theorem revoke_user_follows (target : DragonflyReclaim) (mark : PoolMark) (due : snapshot.retainUntil ≤ now) :
    Follows (.retained uid snapshot now) mark (revokeUser snapshot target) :=
  ⟨trivial, fun _ => drop_snapshot_follows uid _ now due⟩

theorem reclaim_target_slot {target : DragonflyReclaim} {n : Nat} (found : dragonflyReclaimTarget snapshot = some target)
    (numbered : target.dbnum = some n) : snapshot.slot = some (target.inst, n) := by
  obtain ⟨inst, placed, found⟩ := bind_eq_some_iff.mp found
  obtain ⟨user, _, rfl⟩ := map_eq_some_iff.mp found
  have named : snapshot.inst = some inst := (filter_eq_some_iff.mp placed).1
  have known : snapshot.dbnum = some n := numbered
  simp [RetainedClaim.slot, slotOf, named, known]

theorem gc_drop_follows (due : snapshot.retainUntil ≤ now) :
    Follows (.retained uid snapshot now) (judgedMark snapshot none) (gcDropDragonfly snapshot) := by
  unfold gcDropDragonfly
  cases found : dragonflyReclaimTarget snapshot with
  | none =>
    have done : judgedMark snapshot none = .reclaimed := by simp [judgedMark, found]
    rw [done]
    exact drop_snapshot_follows uid _ now due
  | some target =>
    apply attempt_follows
    · rfl
    refine ⟨trivial, ?_⟩
    intro readable
    cases readable with
    | false => exact drop_snapshot_follows uid _ now due
    | true =>
      split
      · exact revoke_user_follows uid _ now target _ due
      · rename_i n numbered
        have slot := reclaim_target_slot _ found numbered
        have mark : judgedMark snapshot none = .holding (target.inst, n) 0 true := by simp [judgedMark, found, slot]
        rw [mark]
        apply holders_follow
        · exact ⟨⟨true, rfl, slot, due⟩, fun _ => revoke_user_follows uid _ now target _ due⟩
        · intro others beside
          rw [beside]
          exact revoke_user_follows uid _ now target _ due

theorem reconcile_retained_follows : Follows (.retained uid snapshot now) .begun (reconcileRetained snapshot now) := by
  unfold reconcileRetained
  split
  · rename_i elapsed
    have due : snapshot.retainUntil ≤ now := of_decide_eq_true elapsed
    refine ⟨⟨uid, snapshot, now, rfl, rfl⟩, ?_⟩
    intro found
    cases found with
    | none => trivial
    | some found =>
      change Follows (.retained uid snapshot now) (judgedMark snapshot found) (if _ then _ else _)
      split
      · trivial
      · rename_i settled
        split
        · rename_i live
          have mark : judgedMark snapshot found = .stale := by rw [judgedMark, if_neg settled, if_pos live]
          rw [mark]
          exact ⟨.inr ⟨uid, snapshot, now, rfl, rfl, due, .inl rfl⟩, Bool.forall_bool.mpr ⟨trivial, trivial⟩⟩
        · rename_i gone
          have mark : judgedMark snapshot found = judgedMark snapshot none := by
            rw [judgedMark, if_neg settled, if_neg gone]
            rfl
          rw [mark]
          split
          · exact gc_drop_follows uid _ now due
          · trivial
  · trivial

end Gc

theorem passes_follow {world after : PoolWorld} {prog : PoolProg}
    (begun : beginPass world job = some (after, prog)) : Follows job (firstMark job) prog := by
  cases pass_begun begun with
  | claim version seen => exact reconcile_claim_follows version
  | shared version seen => exact reconcile_shared_follows version
  | retained uid version seen => exact reconcile_retained_follows uid version _

end AppRafter.Provisioner
