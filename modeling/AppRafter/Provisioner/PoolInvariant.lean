import AppRafter.Provisioner.PoolLedger

set_option autoImplicit false

namespace AppRafter.Provisioner

open Lib Application List Option

def ResourceClaim.isReady (claim : ResourceClaim) : Bool := claim.status.bind (·.ready) == some true

def SharedDatabase.isReady (sd : SharedDatabase) : Bool := sd.status.bind (·.ready) == some true

def SharedDatabase.used (sd : SharedDatabase) : Bool := !sd.unfinished || sd.isReady

structure PoolSound (world : PoolWorld) : Prop where
  claimKeys : ∀ claim ∈ world.claims, ∀ other ∈ world.claims, claim.key = other.key → claim = other
  sharedKeys : ∀ sd ∈ world.shared, ∀ other ∈ world.shared, sd.key = other.key → sd = other
  claimReady : ∀ claim ∈ world.claims, ∀ slot, claim.slot = some slot → claim.isReady = true →
    world.proven (.claim claim.key) slot = true
  sharedUsed : ∀ sd ∈ world.shared, ∀ slot, sd.slot = some slot → sd.used = true →
    world.proven (.shared sd.key) slot = true
  sharedKept : ∀ sd ∈ world.shared, sd.slot ≠ none → sdFinalizer ∈ sd.finalizers ∨ sd.deletionTimestamp ≠ none
  uids : ∀ entry ∈ world.retained, entry.1 < world.nextUid
  seenUids : ∀ entry ∈ world.seenRetained, entry.1 < world.nextUid

-- The pass's object is there under our finalizer and records the slot it works on.
def ClaimStanding (world : PoolWorld) (version : ResourceClaim) (mark : PoolMark) : Prop :=
  mark.secured = true → ∃ claim ∈ world.claims, claim.key = version.key ∧ provisionerFinalizer ∈ claim.finalizers ∧
    ∀ slot, mark.slot = some slot → claim.slot = some slot

structure SharedStanding (world : PoolWorld) (version : SharedDatabase) (mark : PoolMark) : Prop where
  begun : mark = .begun → version.slot = none ∧ version.deletionTimestamp = none
  secured : mark.secured = true → ∃ sd ∈ world.shared, sd.key = version.key ∧ sdFinalizer ∈ sd.finalizers ∧
    (version.deletionTimestamp ≠ none → sd.deletionTimestamp ≠ none) ∧
    ∀ slot, mark.slot = some slot → sd.slot = some slot
  sure : mark.sure = true → ∀ slot, mark.slot = some slot → world.proven (.shared version.key) slot = true

def Standing (world : PoolWorld) (job : PoolJob) (mark : PoolMark) : Prop :=
  match job with
  | .claim version => ClaimStanding world version mark
  | .shared version => SharedStanding world version mark
  | .retained uid _ _ => uid < world.nextUid

def Checkpoint : PoolRequest → Prop
  | .checkpoint _ _ => True
  | .sharedStatus _ status =>
    ∃ slot, status = sdStatus false (.redis slot) (readyCondition "False" reasonAwaitingKeyspace)
  | _ => False

structure PoolInv (board : PoolBoard) : Prop where
  exclusive : (board.world.ledger (watches board.mark)).Exclusive Holder.owner Holder.rank
  keyed : ∀ key job mark, board.mark key = some (job, mark) → job.key = key
  standing : ∀ key job mark, board.mark key = some (job, mark) → Standing board.world job mark
  sound : PoolSound board.world
  late : ∀ entry ∈ board.late, Checkpoint entry.2

variable {mark : PoolMark} {slot : Slot} {world : PoolWorld} {job : PoolJob}

theorem secured_of_slot (held : mark.slot = some slot) : mark.secured = true := by
  cases mark with
  | holding slot stage sure => rfl
  | clashing slot sure => rfl
  | _ => cases held

theorem standing_records (standing : Standing world job mark) (held : mark.slot = some slot) :
    (∃ uid version now, job = .retained uid version now ∧ uid < world.nextUid) ∨ world.records job.holder slot = true := by
  have secured := secured_of_slot held
  cases job with
  | claim version =>
    obtain ⟨claim, member, named, _, recorded⟩ := standing secured
    exact .inr ((world.claim_records version.key slot).mpr ⟨claim, member, named, recorded slot held⟩)
  | shared version =>
    obtain ⟨sd, member, named, _, _, recorded⟩ := standing.secured secured
    exact .inr ((world.shared_records version.key slot).mpr ⟨sd, member, named, recorded slot held⟩)
  | retained uid version now => exact .inl ⟨uid, version, now, rfl, standing⟩

theorem standing_loose {loose : PoolMark} (standing : Standing world job mark)
    (unsecured : loose.secured = false) (started : loose ≠ .begun) : Standing world job loose := by
  have slotless : ∀ slot, loose.slot ≠ some slot := by
    intro slot held
    rw [secured_of_slot held] at unsecured
    cases unsecured
  cases job with
  | claim version =>
    intro secured
    rw [unsecured] at secured
    cases secured
  | shared version =>
    refine ⟨fun begun => absurd begun started, ?_, fun _ slot held => absurd held (slotless slot)⟩
    intro secured
    rw [unsecured] at secured
    cases secured
  | retained uid version now => exact standing

structure Alike (mark other : PoolMark) : Prop where
  slot : other.slot = mark.slot
  sure : other.sure = mark.sure
  secured : other.secured = mark.secured
  begun : other = .begun → mark = .begun

theorem alike_refl (mark : PoolMark) : Alike mark mark := ⟨rfl, rfl, rfl, id⟩

theorem standing_alike {other : PoolMark} (alike : Alike mark other)
    (standing : Standing world job mark) : Standing world job other := by
  cases job with
  | claim version =>
    intro secured
    rw [alike.secured] at secured
    simpa only [alike.slot] using standing secured
  | shared version =>
    refine ⟨fun begun => standing.begun (alike.begun begun), ?_, ?_⟩
    · intro secured
      rw [alike.secured] at secured
      simpa only [alike.slot] using standing.secured secured
    · intro sure slot held
      exact standing.sure (alike.sure ▸ sure) slot (alike.slot ▸ held)
  | retained uid version now => exact standing

section Moves

variable (board : PoolBoard) (inv : PoolInv board)

include inv

variable (key : PoolKey) (set : Option (PoolJob × PoolMark))

theorem set_inv
    (exclusive : (board.world.ledger (watches (Function.update board.mark key set))).Exclusive Holder.owner Holder.rank)
    (fits : ∀ job mark, set = some (job, mark) → job.key = key ∧ Standing board.world job mark) :
    PoolInv { board with mark := Function.update board.mark key set } where
  exclusive := exclusive
  keyed := by
    apply Board.marks_set
    · intro other job mark _ found
      exact inv.keyed other job mark found
    · intro job mark found
      exact (fits job mark found).1
  standing := by
    apply Board.marks_set board.mark key set fun _ job mark => Standing board.world job mark
    · intro other job mark _ found
      exact inv.standing other job mark found
    · intro job mark found
      exact (fits job mark found).2
  sound := inv.sound
  late := inv.late

theorem mark_inv (fits : ∀ job mark, set = some (job, mark) → (job.key = key ∧ Standing board.world job mark) ∧ mark.stage = 0) :
    PoolInv { board with mark := Function.update board.mark key set } := by
  apply set_inv board inv
  · rw [watches_set]
    apply Ledger.restart _ _ _ inv.exclusive _ _ rank_positive
    intro mine slot stage watched
    obtain ⟨⟨job, mark⟩, found, watching⟩ := bind_eq_some_iff.mp watched
    obtain ⟨held, _, same⟩ := map_eq_some_iff.mp watching
    simp only [Prod.mk.injEq] at same
    rw [← same.2.2]
    exact (fits job mark found).2
  · intro job mark found
    exact (fits job mark found).1

theorem drop_inv : PoolInv { board with mark := Function.update board.mark key none } := by
  apply mark_inv board inv
  intro job mark found
  cases found

theorem alike_fits (job : PoolJob) (mark other : PoolMark) (running : board.mark key = some (job, mark))
    (alike : Alike mark other) (next : PoolJob) (reached : PoolMark) (found : some (job, other) = some (next, reached)) :
    next.key = key ∧ Standing board.world next reached := by
  cases found
  exact ⟨inv.keyed key job mark running, standing_alike alike (inv.standing key job mark running)⟩

variable {key : PoolKey} {job : PoolJob} {mark : PoolMark} {after : PoolWorld} {update : SharedDatabase → SharedDatabase}

variable (running : board.mark key = some (job, mark))

include running in
theorem alike_inv {other : PoolMark} (alike : Alike mark other) (stage : other.stage = mark.stage) :
    PoolInv { board with mark := Function.update board.mark key (some (job, other)) } := by
  apply set_inv board inv
  · have before : watches board.mark key = watchOf job mark := by rw [watches, running]; rfl
    have after : watchOf job other = watchOf job mark := by rw [watchOf, watchOf, alike.slot, stage]
    rw [watches_set, bind_some, after, ← before, Function.update_eq_self]
    exact inv.exclusive
  · exact alike_fits board inv key job mark other running alike

include running in
theorem sighted_inv
    (sight : Sighting) : PoolInv { board with mark := Function.update board.mark key (some (job, mark.sighted sight)) } := by
  cases mark with
  | pinned before => exact alike_inv board inv running ⟨rfl, rfl, rfl, nofun⟩ rfl
  | _ => exact alike_inv board inv running (alike_refl _) rfl

include running in
theorem read_inv (stage : Nat) (clean : Slot → Bool)
    (honest : ∀ slot, clean slot = true → ∀ holder : Holder, holder.rank = stage + 1 →
      board.world.records holder slot = true → holder.owner = job.holder.owner) :
    PoolInv { board with mark := Function.update board.mark key (some (job, mark.read stage clean)) } := by
  cases mark with
  | holding slot reached sure =>
    by_cases here : reached = stage
    · subst here
      cases found : clean slot with
      | false =>
        simp only [PoolMark.read, if_true, found, Bool.false_eq_true, if_false]
        apply mark_inv board inv
        intro next mark same
        have fits := alike_fits board inv key job _ (.clashing slot sure) running
          ⟨rfl, rfl, rfl, by simp⟩ next mark same
        cases same
        exact ⟨fits, rfl⟩
      | true =>
        simp only [PoolMark.read, if_true, found]
        apply set_inv board inv
        · rw [watches_set]
          apply Ledger.advance _ _ _ inv.exclusive key job.holder slot reached
          · change watches board.mark key = _
            rw [watches, running]
            rfl
          · exact honest slot found
        · exact alike_fits board inv key job _ _ running ⟨rfl, rfl, rfl, by simp⟩
    · simp only [PoolMark.read, if_neg here]
      exact alike_inv board inv running (alike_refl _) rfl
  | _ => exact alike_inv board inv running (alike_refl _) rfl

theorem world_exclusive (after : PoolWorld) (shrinks : ∀ holder slot, after.proven holder slot = true →
      board.world.proven holder slot = true ∧ after.records holder slot = true)
    (newer : ∀ uid key slot, after.records (.retained uid key) slot = true →
      board.world.records (.retained uid key) slot = true ∨ board.world.nextUid ≤ uid) :
    (after.ledger (watches board.mark)).Exclusive Holder.owner Holder.rank := by
  apply Ledger.rewrite _ _ _ inv.exclusive _ _ rank_positive shrinks
  -- What a pass watches for its own object is on record already.
  intro holder slot recorded fresh key stage watched
  obtain ⟨job, mark, running, rfl, held, _⟩ := watches_some watched
  rcases standing_records (inv.standing key job mark running) held with
    ⟨uid, version, now, rfl, early⟩ | before
  · rcases newer uid version.claimRef slot recorded with before | late
    · exact absurd before fresh
    · omega
  · exact absurd before fresh

theorem claim_key_running {version : ResourceClaim} (running : board.mark key = some (.claim version, mark)) :
    board.mark (.claim version.key) = some (.claim version, mark) := by
  rw [← inv.keyed key _ mark running] at running
  exact running

theorem shared_key_running {version : SharedDatabase} (running : board.mark key = some (.shared version, mark)) :
    board.mark (.shared version.key) = some (.shared version, mark) := by
  rw [← inv.keyed key _ mark running] at running
  exact running

theorem settled_keeps (proven : after.proven = board.world.proven) (holder : Holder) (slot : Slot)
    (kept : after.records holder slot = board.world.records holder slot)
    (known : board.world.proven holder slot = true) : after.settled.proven holder slot = true := by
  rw [after.settled_proven, proven, kept]
  exact ⟨known, inv.exclusive.recorded holder slot known⟩

theorem settled_exclusive (proven : after.proven = board.world.proven)
    (newer : ∀ uid key slot, after.records (.retained uid key) slot = true →
      board.world.records (.retained uid key) slot = true ∨ board.world.nextUid ≤ uid) :
    (after.settled.ledger (watches board.mark)).Exclusive Holder.owner Holder.rank := by
  apply world_exclusive board inv
  · intro holder slot known
    rw [← proven]
    exact (after.settled_proven holder slot).mp known
  · intro uid key slot recorded
    exact newer uid key slot recorded

section Claim

variable {after : PoolWorld} {key : ClaimKey} (step : ClaimStep board.world after key)
  (unique : ∀ claim ∈ after.claims, ∀ other ∈ after.claims, claim.key = key → other.key = key → claim = other)
  (ready : ∀ claim ∈ after.claims, claim.key = key → ∀ slot, claim.slot = some slot → claim.isReady = true →
    board.world.proven (.claim key) slot = true)

include step unique ready

theorem claim_step_sound : PoolSound after.settled where
  claimKeys claim member other also same := by
    by_cases here : claim.key = key
    · exact unique claim member other also here (same ▸ here)
    · have before := (step.others claim here).mp member
      have beside := (step.others other (same ▸ here)).mp also
      exact inv.sound.claimKeys claim before other beside same
  sharedKeys := by
    change ∀ sd ∈ after.shared, ∀ other ∈ after.shared, sd.key = other.key → sd = other
    rw [step.shared]
    exact inv.sound.sharedKeys
  claimReady claim member slot held isReady := by
    by_cases here : claim.key = key
    · rw [after.settled_proven, step.proven]
      refine ⟨here ▸ ready claim member here slot held isReady, ?_⟩
      exact (after.claim_records claim.key slot).mpr ⟨claim, member, rfl, held⟩
    · apply settled_keeps board inv step.proven
      · exact claim_step_records step slot fun same => here (Holder.claim.inj same)
      · exact inv.sound.claimReady claim ((step.others claim here).mp member) slot held isReady
  sharedUsed sd member slot held used := by
    have before : sd ∈ board.world.shared := step.shared ▸ member
    apply settled_keeps board inv step.proven
    · exact claim_step_records step slot nofun
    · exact inv.sound.sharedUsed sd before slot held used
  sharedKept sd member := inv.sound.sharedKept sd (step.shared ▸ member)
  uids entry member := by
    change entry.1 < after.nextUid
    rw [step.nextUid]
    exact inv.sound.uids entry (step.retained ▸ member)
  seenUids entry member := by
    change entry.1 < after.nextUid
    rw [step.nextUid]
    rcases mem_append.mp member with now | before
    · exact inv.sound.uids entry (step.retained ▸ now)
    · exact inv.sound.seenUids entry (step.seenRetained ▸ before)

theorem claim_inv (mine : ∀ version mark, version.key = key → board.mark (.claim key) = some (.claim version, mark) →
      ClaimStanding after version mark) : PoolInv { board with world := after.settled } where
  exclusive := by
    apply settled_exclusive board inv step.proven
    intro uid claimed slot recorded
    rw [claim_step_records step slot fun same => by cases same] at recorded
    exact .inl recorded
  keyed := inv.keyed
  standing place job mark running := by
    have before := inv.standing place job mark running
    cases job with
    | claim version =>
      have running := claim_key_running board inv running
      by_cases same : version.key = key
      · subst same
        exact mine version mark rfl running
      · intro secured
        obtain ⟨claim, member, named, kept⟩ := before secured
        exact ⟨claim, (step.others claim (named ▸ same)).mpr member, named, kept⟩
    | shared version =>
      refine ⟨before.begun, ?_, ?_⟩
      · intro secured
        obtain ⟨sd, member, kept⟩ := before.secured secured
        exact ⟨sd, step.shared ▸ member, kept⟩
      · intro sure slot held
        apply settled_keeps board inv step.proven
        · exact claim_step_records step slot nofun
        · exact before.sure sure slot held
    | retained uid version now =>
      change uid < after.nextUid
      rw [step.nextUid]
      exact before
  sound := claim_step_sound board inv step unique ready
  late := inv.late

end Claim

theorem claim_rewrite_inv {key : ClaimKey} {update : ResourceClaim → ResourceClaim}
    (rewritten : ClaimRewrite board.world after key update)
    (kept : ∀ version mark, board.mark (.claim key) = some (.claim version, mark) →
      ∀ old ∈ board.world.claims, old.key = key → provisionerFinalizer ∈ old.finalizers →
        (∀ slot, mark.slot = some slot → old.slot = some slot) →
          provisionerFinalizer ∈ (update old).finalizers ∧ ∀ slot, mark.slot = some slot → (update old).slot = some slot)
    (ready : ∀ old ∈ board.world.claims, old.key = key → ∀ slot, (update old).slot = some slot →
      (update old).isReady = true → board.world.proven (.claim key) slot = true) :
    PoolInv { board with world := after.settled } := by
  apply claim_inv board inv rewritten.toClaimStep
  · intro claim member other also here there
    obtain ⟨old, before, named, rfl⟩ := rewritten.members claim member here
    obtain ⟨older, beside, called, rfl⟩ := rewritten.members other also there
    rw [inv.sound.claimKeys old before older beside (named.trans called.symm)]
  · intro claim member here slot held isReady
    obtain ⟨old, before, named, rfl⟩ := rewritten.members claim member here
    exact ready old before named slot held isReady
  · rintro version mark rfl running secured
    obtain ⟨claim, member, named, finalized, recorded⟩ := inv.standing _ _ mark running secured
    obtain ⟨still, held⟩ := kept version mark running claim member named finalized recorded
    refine ⟨update claim, rewritten.present claim member named still, ?_, still, held⟩
    rw [rewritten.keyed, named]

theorem claim_outside_inv {key : ClaimKey} {update : ResourceClaim → ResourceClaim}
    (rewritten : ClaimRewrite board.world after key update)
    (finalizers : ∀ old, (update old).finalizers = old.finalizers)
    (slots : ∀ old ∈ board.world.claims, old.key = key → ∀ slot, old.slot = some slot → (update old).slot = some slot)
    (ready : ∀ old ∈ board.world.claims, old.key = key → (update old).isReady = true →
      old.isReady = true ∧ (update old).slot = old.slot) :
    PoolInv { board with world := after.settled } := by
  apply claim_rewrite_inv board inv rewritten
  · intro version mark _ old member named finalized recorded
    refine ⟨(finalizers old).symm ▸ finalized, ?_⟩
    intro slot held
    exact slots old member named slot (recorded slot held)
  · intro old member named slot held isReady
    obtain ⟨before, same⟩ := ready old member named isReady
    rw [same] at held
    exact named ▸ inv.sound.claimReady old member slot held before

section Shared

variable {after : PoolWorld} (key : ClaimKey) (step : SharedStep board.world after key)
  (unique : ∀ sd ∈ after.shared, ∀ other ∈ after.shared, sd.key = key → other.key = key → sd = other)
  (used : ∀ sd ∈ after.shared, sd.key = key → ∀ slot, sd.slot = some slot → sd.used = true →
    board.world.proven (.shared key) slot = true)
  (kept : ∀ sd ∈ after.shared, sd.key = key → sd.slot ≠ none → sdFinalizer ∈ sd.finalizers ∨ sd.deletionTimestamp ≠ none)

include step unique used kept

theorem shared_step_sound : PoolSound after.settled where
  claimKeys := by
    change ∀ claim ∈ after.claims, ∀ other ∈ after.claims, claim.key = other.key → claim = other
    rw [step.claims]
    exact inv.sound.claimKeys
  sharedKeys sd member other also same := by
    by_cases here : sd.key = key
    · exact unique sd member other also here (same ▸ here)
    · have before := (step.others sd here).mp member
      have beside := (step.others other (same ▸ here)).mp also
      exact inv.sound.sharedKeys sd before other beside same
  claimReady claim member slot held isReady := by
    have before : claim ∈ board.world.claims := step.claims ▸ member
    apply settled_keeps board inv step.proven
    · exact shared_step_records step slot nofun
    · exact inv.sound.claimReady claim before slot held isReady
  sharedUsed sd member slot held isUsed := by
    by_cases here : sd.key = key
    · rw [after.settled_proven, step.proven]
      refine ⟨here ▸ used sd member here slot held isUsed, ?_⟩
      exact (after.shared_records sd.key slot).mpr ⟨sd, member, rfl, held⟩
    · apply settled_keeps board inv step.proven
      · exact shared_step_records step slot fun same => here (Holder.shared.inj same)
      · exact inv.sound.sharedUsed sd ((step.others sd here).mp member) slot held isUsed
  sharedKept sd member holds := by
    by_cases here : sd.key = key
    · exact kept sd member here holds
    · exact inv.sound.sharedKept sd ((step.others sd here).mp member) holds
  uids entry member := by
    change entry.1 < after.nextUid
    rw [step.nextUid]
    exact inv.sound.uids entry (step.retained ▸ member)
  seenUids entry member := by
    change entry.1 < after.nextUid
    rw [step.nextUid]
    rcases mem_append.mp member with now | before
    · exact inv.sound.uids entry (step.retained ▸ now)
    · exact inv.sound.seenUids entry (step.seenRetained ▸ before)

theorem shared_inv (mine : ∀ version mark, version.key = key → board.mark (.shared key) = some (.shared version, mark) →
      SharedStanding after.settled version mark) : PoolInv { board with world := after.settled } where
  exclusive := by
    apply settled_exclusive board inv step.proven
    intro uid claimed slot recorded
    rw [shared_step_records step slot fun same => by cases same] at recorded
    exact .inl recorded
  keyed := inv.keyed
  standing place job mark running := by
    have before := inv.standing place job mark running
    cases job with
    | claim version =>
      intro secured
      obtain ⟨claim, member, still⟩ := before secured
      exact ⟨claim, step.claims ▸ member, still⟩
    | shared version =>
      have running := shared_key_running board inv running
      by_cases same : version.key = key
      · subst same
        exact mine version mark rfl running
      · refine ⟨before.begun, ?_, ?_⟩
        · intro secured
          obtain ⟨sd, member, named, still⟩ := before.secured secured
          exact ⟨sd, (step.others sd (named ▸ same)).mpr member, named, still⟩
        · intro sure slot held
          apply settled_keeps board inv step.proven
          · exact shared_step_records step slot fun clash => same (Holder.shared.inj clash)
          · exact before.sure sure slot held
    | retained uid version now =>
      change uid < after.nextUid
      rw [step.nextUid]
      exact before
  sound := shared_step_sound board inv key step unique used kept
  late := inv.late

end Shared

theorem shared_rewrite_inv {key : ClaimKey} (rewritten : SharedRewrite board.world after key update)
    (still : ∀ version mark, board.mark (.shared key) = some (.shared version, mark) →
      ∀ old ∈ board.world.shared, old.key = key → sdFinalizer ∈ old.finalizers →
        (∀ slot, mark.slot = some slot → old.slot = some slot) → sdFinalizer ∈ (update old).finalizers ∧
          (old.deletionTimestamp ≠ none → (update old).deletionTimestamp ≠ none) ∧
          ∀ slot, mark.slot = some slot → (update old).slot = some slot)
    (used : ∀ old ∈ board.world.shared, old.key = key → ∀ slot, (update old).slot = some slot →
      (update old).used = true → board.world.proven (.shared key) slot = true)
    (kept : ∀ old ∈ board.world.shared, old.key = key → (update old).slot ≠ none →
      sdFinalizer ∈ (update old).finalizers ∨ (update old).deletionTimestamp ≠ none) :
    PoolInv { board with world := after.settled } := by
  apply shared_inv board inv key rewritten.toSharedStep
  · intro sd member other also here there
    obtain ⟨old, before, named, rfl⟩ := rewritten.members sd member here
    obtain ⟨older, beside, called, rfl⟩ := rewritten.members other also there
    rw [inv.sound.sharedKeys old before older beside (named.trans called.symm)]
  · intro sd member here slot held isUsed
    obtain ⟨old, before, named, rfl⟩ := rewritten.members sd member here
    exact used old before named slot held isUsed
  · intro sd member here holds
    obtain ⟨old, before, named, rfl⟩ := rewritten.members sd member here
    exact kept old before named holds
  · rintro version mark rfl running
    have before := inv.standing _ _ mark running
    -- The object the pass works for, rewritten.
    have found : mark.secured = true → ∃ sd ∈ after.shared, sd.key = version.key ∧ sdFinalizer ∈ sd.finalizers ∧
        (version.deletionTimestamp ≠ none → sd.deletionTimestamp ≠ none) ∧
        ∀ slot, mark.slot = some slot → sd.slot = some slot := by
      intro secured
      obtain ⟨sd, member, named, finalized, deleted, recorded⟩ := before.secured secured
      obtain ⟨finalizer, deletes, held⟩ := still version mark running sd member named finalized recorded
      refine ⟨update sd, rewritten.present sd member named finalizer, ?_, finalizer, fun gone => deletes (deleted gone), held⟩
      rw [rewritten.keyed, named]
    refine ⟨before.begun, found, ?_⟩
    intro sure slot held
    obtain ⟨sd, member, named, _, _, recorded⟩ := found (secured_of_slot held)
    rw [after.settled_proven, rewritten.proven]
    exact ⟨before.sure sure slot held, (after.shared_records _ slot).mpr ⟨sd, member, named, recorded slot held⟩⟩

theorem shared_outside_inv {key : ClaimKey} (rewritten : SharedRewrite board.world after key update)
    (finalizers : ∀ old, (update old).finalizers = old.finalizers)
    (deletion : ∀ old, old.deletionTimestamp ≠ none → (update old).deletionTimestamp ≠ none)
    (slots : ∀ old ∈ board.world.shared, old.key = key → ∀ slot, old.slot = some slot → (update old).slot = some slot)
    (used : ∀ old ∈ board.world.shared, old.key = key → (update old).used = true → old.used = true ∧ (update old).slot = old.slot)
    (kept : ∀ old ∈ board.world.shared, old.key = key → (update old).slot ≠ none →
      sdFinalizer ∈ old.finalizers ∨ old.deletionTimestamp ≠ none) :
    PoolInv { board with world := after.settled } := by
  apply shared_rewrite_inv board inv rewritten
  · intro version mark _ old member named finalized recorded
    refine ⟨(finalizers old).symm ▸ finalized, deletion old, ?_⟩
    intro slot held
    exact slots old member named slot (recorded slot held)
  · intro old member named slot held isUsed
    obtain ⟨before, same⟩ := used old member named isUsed
    rw [same] at held
    exact named ▸ inv.sound.sharedUsed old member slot held before
  · intro old member named holds
    rcases kept old member named holds with finalized | deleted
    · exact .inl ((finalizers old).symm ▸ finalized)
    · exact .inr (deletion old deleted)

include running in
theorem prove_inv {slot : Slot} (held : mark.slot = some slot) (recorded : board.world.records job.holder slot = true)
    (clear : mark.stage = 3 ∨ board.world.proven job.holder slot = true) :
    PoolInv { board with world := board.world.prove job.holder slot } where
  exclusive := by
    have watched : watches board.mark key = some (job.holder, slot, mark.stage) := by
      rw [watches, running]
      simp [watchOf, held]
    have proven : (board.world.prove job.holder slot).ledger (watches board.mark) = { board.world.ledger (watches board.mark) with
          proven := fun other known => board.world.proven other known = true ∨ (other = job.holder ∧ known = slot) } := by
      simp [PoolWorld.ledger, PoolWorld.prove]
      rfl
    rw [proven]
    rcases clear with top | already
    · apply Ledger.prove _ _ _ inv.exclusive key _ slot _ watched
      · intro holder
        rw [top]
        exact rank_top holder
      · exact recorded
    · apply Ledger.inherit _ _ _ inv.exclusive _ _ (fun known => known = slot) rfl (Nat.le_refl _)
      rintro known rfl
      exact ⟨already, recorded⟩
  keyed := inv.keyed
  standing place running mark found := by
    have before := inv.standing place running mark found
    cases running with
    | claim version => exact before
    | shared version =>
      refine ⟨before.begun, before.secured, ?_⟩
      intro sure slot held
      exact (Bool.or_eq_true _ _).mpr (.inl (before.sure sure slot held))
    | retained uid version now => exact before
  sound := { inv.sound with
      claimReady := fun claim member slot held ready =>
        (Bool.or_eq_true _ _).mpr (.inl (inv.sound.claimReady claim member slot held ready))
      sharedUsed := fun sd member slot held used =>
        (Bool.or_eq_true _ _).mpr (.inl (inv.sound.sharedUsed sd member slot held used)) }
  late := inv.late

theorem retained_inv (after : PoolWorld) (claims : after.claims = board.world.claims)
    (shared : after.shared = board.world.shared) (nextUid : board.world.nextUid ≤ after.nextUid)
    (seen : after.seenRetained = board.world.seenRetained)
    (members : ∀ entry ∈ after.retained, entry ∈ board.world.retained ∨ entry.1 < after.nextUid)
    (proven : ∀ holder slot, board.world.proven holder slot = true → after.proven holder slot = true)
    (exclusive : (after.settled.ledger (watches board.mark)).Exclusive Holder.owner Holder.rank) :
    PoolInv { board with world := after.settled } := by
  have keeps : ∀ key slot, board.world.proven (.shared key) slot = true → after.settled.proven (.shared key) slot = true := by
    intro key slot known
    have recorded : board.world.records (.shared key) slot = true := inv.exclusive.recorded _ slot known
    rw [after.settled_proven]
    refine ⟨proven _ slot known, ?_⟩
    simpa only [PoolWorld.records, shared] using recorded
  refine ⟨exclusive, inv.keyed, ?_, ?_, inv.late⟩
  · intro place job mark running
    have before := inv.standing place job mark running
    cases job with
    | claim version =>
      intro secured
      obtain ⟨claim, member, still⟩ := before secured
      exact ⟨claim, claims ▸ member, still⟩
    | shared version =>
      refine ⟨before.begun, ?_, fun sure slot held => keeps _ slot (before.sure sure slot held)⟩
      intro secured
      obtain ⟨sd, member, still⟩ := before.secured secured
      exact ⟨sd, shared ▸ member, still⟩
    | retained uid version now => exact Nat.lt_of_lt_of_le before nextUid
  · have bounded : ∀ entry ∈ after.retained, entry.1 < after.nextUid := by
      intro entry member
      rcases members entry member with old | new
      · exact Nat.lt_of_lt_of_le (inv.sound.uids entry old) nextUid
      · exact new
    refine ⟨?_, ?_, ?_, ?_, ?_, bounded, ?_⟩
    · change ∀ claim ∈ after.claims, ∀ other ∈ after.claims, claim.key = other.key → claim = other
      rw [claims]
      exact inv.sound.claimKeys
    · change ∀ sd ∈ after.shared, ∀ other ∈ after.shared, sd.key = other.key → sd = other
      rw [shared]
      exact inv.sound.sharedKeys
    · intro claim member slot held ready
      have known := inv.sound.claimReady claim (claims ▸ member) slot held ready
      rw [after.settled_proven]
      exact ⟨proven _ slot known, (after.claim_records claim.key slot).mpr ⟨claim, member, rfl, held⟩⟩
    · intro sd member slot held used
      exact keeps _ slot (inv.sound.sharedUsed sd (shared ▸ member) slot held used)
    · intro sd member
      exact inv.sound.sharedKept sd (shared ▸ member)
    · intro entry member
      rcases mem_append.mp member with now | before
      · exact bounded entry now
      · exact Nat.lt_of_lt_of_le (inv.sound.seenUids entry (seen ▸ before)) nextUid

theorem quiet_inv (after : PoolWorld) (claims : after.claims = board.world.claims)
    (shared : after.shared = board.world.shared) (nextUid : after.nextUid = board.world.nextUid)
    (seen : after.seenRetained = board.world.seenRetained)
    (members : ∀ entry ∈ after.retained, entry ∈ board.world.retained) (proven : after.proven = board.world.proven) :
    PoolInv { board with world := after.settled } := by
  apply retained_inv board inv after claims shared (Nat.le_of_eq nextUid.symm) seen
  · intro entry member
    exact .inl (members entry member)
  · intro holder slot known
    rw [proven]
    exact known
  · apply settled_exclusive board inv proven
    intro uid key slot recorded
    obtain ⟨snapshot, member, named⟩ := (after.retained_records uid key slot).mp recorded
    exact .inl ((board.world.retained_records uid key slot).mpr ⟨snapshot, members _ member, named⟩)

theorem snapshot_inv (snapshot : RetainedClaim) :
    PoolInv { board with world := (board.world.effect (.createRetained snapshot)).settled } := by
  by_cases taken : (board.world.retained.any fun entry => entry.2.name == snapshot.name) = true
  · simp only [PoolWorld.effect, if_pos taken]
    exact quiet_inv board inv board.world rfl rfl rfl rfl (fun _ => id) rfl
  · simp only [PoolWorld.effect, if_neg taken]
    let grown : PoolWorld := { board.world with retained := board.world.retained ++ [(board.world.nextUid, snapshot)] }
    have grows : ∀ holder slot, board.world.records holder slot = true → grown.records holder slot = true := by
      intro holder slot recorded
      cases holder with
      | claim key => exact recorded
      | retained uid key =>
        obtain ⟨old, member, named⟩ := (board.world.retained_records uid key slot).mp recorded
        exact (grown.retained_records uid key slot).mpr ⟨old, mem_append_left _ member, named⟩
      | shared key => exact recorded
    have first : (grown.ledger (watches board.mark)).Exclusive Holder.owner Holder.rank := by
      apply world_exclusive board inv grown
      · intro holder slot known
        exact ⟨known, grows holder slot (inv.exclusive.recorded holder slot known)⟩
      · intro uid key slot recorded
        obtain ⟨found, member, named⟩ := (grown.retained_records uid key slot).mp recorded
        rcases mem_append.mp member with old | new
        · exact .inl ((board.world.retained_records uid key slot).mpr ⟨found, old, named⟩)
        · cases mem_singleton.mp new
          exact .inr (Nat.le_refl _)
    let heir : Holder := .retained board.world.nextUid snapshot.claimRef
    let inherited : Slot → Prop := fun slot =>
      board.world.proven (.claim snapshot.claimRef) slot = true ∧ grown.records heir slot = true
    have second := Ledger.inherit _ _ _ first heir (.claim snapshot.claimRef) inherited rfl (Nat.le_add_left 1 1)
      (fun _ both => both)
    apply retained_inv board inv
    · rfl
    · rfl
    · exact Nat.le_succ _
    · rfl
    · intro entry member
      rcases mem_append.mp member with old | new
      · exact .inl old
      · cases mem_singleton.mp new
        exact .inr (Nat.lt_succ_self _)
    · intro holder slot known
      exact (Bool.or_eq_true _ _).mpr (.inl known)
    · apply Ledger.rewrite _ _ _ second _ _ rank_positive
      · intro holder slot known
        obtain ⟨either, recorded⟩ := (PoolWorld.settled_proven _ holder slot).mp known
        refine ⟨?_, recorded⟩
        rcases (Bool.or_eq_true _ _).mp either with before | new
        · exact .inl before
        · obtain ⟨named, its⟩ := (Bool.and_eq_true _ _).mp new
          have same : holder = heir := eq_of_beq named
          subst same
          exact .inr ⟨rfl, its, recorded⟩
      · intro holder slot recorded fresh
        exact absurd recorded fresh

end Moves

end AppRafter.Provisioner
