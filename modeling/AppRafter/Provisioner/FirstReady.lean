import AppRafter.Provisioner.Exclusive

set_option autoImplicit false

namespace AppRafter.Provisioner

open Lib Application List Option

-- Past its ready write, an object's passes begin on a version that shows it.
def actsOnReady (world : PoolWorld) : PoolEvent → Bool
  | .begin (.claim version) =>
    version.deletionTimestamp.isSome || version.isReady || world.claims.all fun claim => claim.key != version.key ||
        claim.slot.all fun slot => !world.proven (.claim version.key) slot
  | .begin (.shared version) =>
    version.deletionTimestamp.isSome || world.shared.all fun sd => sd.key != version.key ||
        sd.slot.all fun slot => !world.proven (.shared version.key) slot || (version.slot == some slot && !version.unfinished)
  | _ => true

def PoolJob.provisions : PoolJob → Bool
  | .claim version => version.deletionTimestamp.isNone
  | .shared version => version.deletionTimestamp.isNone
  | .retained _ _ _ => false

def PoolMark.live (mark : PoolMark) : Bool :=
  match mark with
  | .begun => true
  | mark => mark.secured

-- A claim's has used nothing, a database's only the slot it came with.
def Fresh (world : PoolWorld) (job : PoolJob) (mark : PoolMark) : Prop :=
  match job with
  | .claim version => mark.live = true → (mark.slot ≠ none → shouldProvision version.status = true) ∧
      (shouldProvision version.status = true → ∀ slot, world.proven (.claim version.key) slot ≠ true)
  | .shared version => mark.live = true → version.deletionTimestamp = none →
      ∀ slot, world.proven (.shared version.key) slot = true →
        version.slot = some slot ∧ version.unfinished = false ∧ (mark ≠ .begun → mark.sure = true)
  | .retained _ _ _ => True

structure FreshInv (board : PoolBoard) : Prop where
  recorded : ∀ holder slot, board.world.proven holder slot = true → board.world.records holder slot = true
  keyed : ∀ key job mark, board.mark key = some (job, mark) → job.key = key
  fresh : ∀ key job mark, board.mark key = some (job, mark) → Fresh board.world job mark
  late : ∀ entry ∈ board.late, Checkpoint entry.2

theorem fresh_idle (world : PoolWorld) (job : PoolJob) (mark : PoolMark) (idle : mark.live = false) : Fresh world job mark := by
  cases job with
  | claim | shared =>
    intro live
    rw [idle] at live
    cases live
  | retained uid version now => trivial

variable {world : PoolWorld} {job : PoolJob} {mark : PoolMark} {request : PoolRequest} {holder : Holder} {slot : Slot}
  {fate : PoolFate} {version : ResourceClaim}

theorem fresh_shrinks {after : PoolWorld} (job : PoolJob) (mark : PoolMark)
    (shrinks : ∀ slot, after.proven job.holder slot = true → world.proven job.holder slot = true)
    (fresh : Fresh world job mark) : Fresh after job mark := by
  cases job with
  | claim version =>
    intro live
    obtain ⟨wanted, unproven⟩ := fresh live
    refine ⟨wanted, ?_⟩
    intro provisions slot proven
    exact unproven provisions slot (shrinks slot proven)
  | shared version =>
    intro live staying slot proven
    exact fresh live staying slot (shrinks slot proven)
  | retained uid version now => trivial

structure Beside (mark other : PoolMark) : Prop where
  live : other.live = true → mark.live = true
  slot : other.live = true → other.slot ≠ none → mark.slot ≠ none
  sure : other.live = true → mark.sure = true → other.sure = true
  begun : other.live = true → mark = .begun → other = .begun

theorem fresh_beside (mark other : PoolMark) (beside : Beside mark other)
    (fresh : Fresh world job mark) : Fresh world job other := by
  cases job with
  | claim version =>
    intro live
    obtain ⟨wanted, unproven⟩ := fresh (beside.live live)
    exact ⟨fun holds => wanted (beside.slot live holds), unproven⟩
  | shared version =>
    intro live staying slot proven
    obtain ⟨held, finished, sure⟩ := fresh (beside.live live) staying slot proven
    refine ⟨held, finished, ?_⟩
    intro started
    exact beside.sure live (sure fun begun => started (beside.begun live begun))
  | retained uid version now => trivial

theorem beside_refl (mark : PoolMark) : Beside mark mark := ⟨id, fun _ holds => holds, fun _ sure => sure, fun _ same => same⟩

theorem beside_trans {middle other : PoolMark} (first : Beside mark middle) (second : Beside middle other) :
    Beside mark other where
  live alive := first.live (second.live alive)
  slot alive holds := first.slot (second.live alive) (second.slot alive holds)
  sure alive known := second.sure alive (first.sure (second.live alive) known)
  begun alive same := second.begun alive (first.begun (second.live alive) same)

theorem beside_idle (mark : PoolMark) : Beside mark .idle where
  live alive := by cases alive
  slot alive := by cases alive
  sure alive := by cases alive
  begun alive := by cases alive

theorem beside_read (mark : PoolMark) (stage : Nat) (clean : Slot → Bool) : Beside mark (mark.read stage clean) := by
  cases mark with
  | holding slot reached sure =>
    have alike : ∀ other : PoolMark, other.sure = sure → other ≠ .begun → Beside (.holding slot reached sure) other :=
      fun other same _ => ⟨fun _ => rfl, fun _ _ => some_ne_none _, fun _ known => same.trans known,
        by simp⟩
    simp only [PoolMark.read]
    split
    · split
      · exact alike _ rfl (by simp)
      · exact alike _ rfl (by simp)
    · exact alike _ rfl (by simp)
  | _ => exact beside_refl _

theorem beside_sighted (mark : PoolMark) (sight : Sighting) : Beside mark (mark.sighted sight) := by
  cases mark with
  | pinned before => exact ⟨fun _ => rfl, fun _ holds => holds, fun _ sure => sure, nofun⟩
  | _ => exact beside_refl _

-- Besides the two ready writes, a snapshot proves the slot it takes over.
theorem effect_proven (proven : (world.effect request).proven holder slot = true) :
    world.proven holder slot = true ∨ (∃ uid key, holder = .retained uid key) ∨
      (∃ key cond secret, request = .claimStatus key cond secret (some slot) ∧ cond.status = "True" ∧ holder = .claim key) ∨
      ∃ key status, request = .sharedStatus key status ∧ status.ready = some true ∧ holder = .shared key := by
  cases request with
  | claimStatus key cond secret allocation =>
    cases allocation with
    | none => exact .inl proven
    | some chosen =>
      by_cases ready : cond.status = "True"
      · simp only [PoolWorld.effect, if_pos ready] at proven
        rcases (Bool.or_eq_true _ _).mp proven with before | new
        · exact .inl before
        · obtain ⟨named, same⟩ := (Bool.and_eq_true _ _).mp new
          have same : slot = chosen := eq_of_beq same
          subst same
          exact .inr (.inr (.inl ⟨key, cond, secret, rfl, ready, eq_of_beq named⟩))
      · simp only [PoolWorld.effect, if_neg ready] at proven
        exact .inl proven
  | sharedStatus key status =>
    by_cases ready : status.ready = some true
    · simp only [PoolWorld.effect, if_pos ready] at proven
      split at proven
      · rcases (Bool.or_eq_true _ _).mp proven with before | new
        · exact .inl before
        · obtain ⟨named, _⟩ := (Bool.and_eq_true _ _).mp new
          exact .inr (.inr (.inr ⟨key, status, rfl, ready, eq_of_beq named⟩))
      · exact .inl proven
    · rw [unready_effect world key ready] at proven
      exact .inl proven
  | createRetained snapshot =>
    by_cases taken : (world.retained.any fun entry => entry.2.name == snapshot.name) = true
    · simp only [PoolWorld.effect, if_pos taken] at proven
      exact .inl proven
    · simp only [PoolWorld.effect, if_neg taken] at proven
      rcases (Bool.or_eq_true _ _).mp proven with before | new
      · exact .inl before
      · obtain ⟨named, _⟩ := (Bool.and_eq_true _ _).mp new
        exact .inr (.inl ⟨_, _, eq_of_beq named⟩)
  | _ => exact .inl proven

theorem change_proven (world : PoolWorld) (change : PoolChange) : (changedPool world change).proven = world.proven := by
  cases change with
  | createClaim | createShared =>
    simp only [changedPool]
    split
    · rfl
    · rfl
  | _ => rfl

theorem serve_recorded
    (recorded : ∀ holder slot, world.proven holder slot = true → world.records holder slot = true) (holder : Holder)
    (slot : Slot) (proven : (servePool world fate request).2.proven holder slot = true) :
    (servePool world fate request).2.records holder slot = true := by
  rcases serve_world world fate request with same | made
  · rw [same] at proven ⊢
    exact recorded holder slot proven
  · rw [made] at proven ⊢
    exact ((PoolWorld.settled_proven _ holder slot).mp proven).2

theorem serve_proven (proven : (servePool world fate request).2.proven holder slot = true) :
    world.proven holder slot = true ∨ (∃ uid key, holder = .retained uid key) ∨
      (∃ key cond secret, request = .claimStatus key cond secret (some slot) ∧ cond.status = "True" ∧ holder = .claim key) ∨
      ∃ key status, request = .sharedStatus key status ∧ status.ready = some true ∧ holder = .shared key := by
  rcases serve_world world fate request with same | made
  · rw [same] at proven
    exact .inl proven
  · rw [made] at proven
    exact effect_proven ((PoolWorld.settled_proven _ holder slot).mp proven).1

def PoolRequest.own : PoolRequest → Bool
  | .claimFinalizers _ _ => true
  | .sharedFinalizers _ _ => true
  | .checkpoint _ _ => true
  | .claimStatus _ _ _ _ => true
  | .sharedStatus _ _ => true
  | _ => false

theorem serve_shrinks (kept : ∀ uid key, holder ≠ .retained uid key) (other : request.own = false)
    (proven : (servePool world fate request).2.proven holder slot = true) : world.proven holder slot = true := by
  rcases serve_proven proven with
    before | ⟨uid, key, same⟩ | ⟨key, cond, secret, rfl, _⟩ | ⟨key, status, rfl, _⟩
  · exact before
  · exact absurd same (kept uid key)
  · cases other
  · cases other

theorem answered_beside {Listed : Type} (fate : PoolFate) (listed : Listed) (next : Option Listed → PoolMark)
    (lost : next none = mark) (read : Beside mark (next (some listed))) : Beside mark (next (answered fate listed)) := by
  unfold answered
  split
  · exact read
  · exact lost ▸ beside_refl mark

theorem asked_beside (mark : PoolMark) (world : PoolWorld) (fate : PoolFate)
    (kept : ∀ uid version now, job ≠ .retained uid version now) (other : request.own = false) :
    Beside mark (nextMark job mark ⟨request, (servePool world fate request).1⟩) := by
  cases request with
  | listClaims => exact answered_beside fate _ (fun live => nextMark job mark ⟨.listClaims, live⟩) rfl (beside_read mark 0 _)
  | listRetained =>
    exact answered_beside fate _ (fun retained => nextMark job mark ⟨.listRetained, retained⟩) rfl
      (beside_trans (beside_read mark 1 _) (beside_sighted _ _))
  | listShared => exact answered_beside fate _ (fun shared => nextMark job mark ⟨.listShared, shared⟩) rfl (beside_read mark 2 _)
  | getClaim key =>
    cases job with
    | claim | shared => exact beside_idle mark
    | retained uid version now => exact absurd rfl (kept uid version now)
  | getRetained name =>
    exact answered_beside fate _ (fun found => nextMark job mark ⟨.getRetained name, found⟩) rfl (beside_sighted mark _)
  | findProvider | selectProvider | listBinders => exact beside_refl mark
  | outside call =>
    cases job with
    | claim | shared => exact beside_refl mark
    | retained uid version now => exact absurd rfl (kept uid version now)
  | createRetained snapshot => exact beside_refl mark
  | deleteRetained name =>
    cases mark with
    | clashing slot sure => exact beside_refl _
    | _ => exact beside_idle _
  | flushdb slot => exact beside_refl mark
  | _ => cases other

-- It leaves its own slot recorded and no other, and not one the database has used.
theorem checkpoint_fresh {board : PoolBoard} (fate : PoolFate) {version : SharedDatabase}
    (before : Fresh board.world (.shared version) mark) (start : AtStart version mark)
    (other : version.unfinished = false → version.slot ≠ some slot) :
    Fresh (servePool board.world fate (.sharedStatus version.key (checkpointStatus slot))).2 (.shared version)
      (writtenMark (checkpointStatus slot) (servePool board.world fate
        (.sharedStatus version.key (checkpointStatus slot))).1) := by
  change Fresh (writePool board.world fate (.sharedStatus version.key (checkpointStatus slot))).2 (.shared version)
    (writtenMark (checkpointStatus slot) (writePool board.world fate (.sharedStatus version.key (checkpointStatus slot))).1)
  rcases write_pool_cases board.world fate (.sharedStatus version.key (checkpointStatus slot)) with refused | ⟨_, made⟩
  · rw [refused]
    exact fresh_idle _ _ _ rfl
  · rw [made]
    intro _ staying held proven
    have secured := at_start_secured _ start
    obtain ⟨known, recorded⟩ := (PoolWorld.settled_proven _ _ held).mp proven
    have alive : mark.live = true := by
      cases mark with
      | begun => rfl
      | _ => exact secured
    obtain ⟨named, finished, _⟩ := before alive staying held known
    have rewritten := set_shared_rewrite board.world version.key
      (fun sd => { sd with status := some (checkpointStatus slot) }) fun _ => rfl
    obtain ⟨sd, member, same, holds⟩ := (PoolWorld.shared_records _ version.key held).mp recorded
    obtain ⟨old, _, _, rfl⟩ := rewritten.members sd member same
    have here : held = slot := (some.inj holds).symm
    rw [here] at named
    exact absurd named (other finished)

theorem first_claim_live (live : (firstMark (.claim version)).live = true) :
    version.deletionTimestamp = none ∧ (firstMark (.claim version)).slot = none := by
  cases deleted : version.deletionTimestamp with
  | some time =>
    cases finalized : version.finalizers.contains provisionerFinalizer with
    | true | false =>
      simp only [firstMark, finalized, deleted] at live
      cases live
  | none =>
    refine ⟨rfl, ?_⟩
    cases finalized : version.finalizers.contains provisionerFinalizer with
    | true | false =>
      simp only [firstMark, finalized, deleted]
      rfl

theorem provision_unready (provisions : shouldProvision version.status = true) : version.isReady = false := by
  unfold ResourceClaim.isReady
  unfold shouldProvision at provisions
  cases known : version.status with
  | none => rfl
  | some status =>
    simp only [known] at provisions
    by_cases ready : status.ready = some true
    · rw [if_pos ready] at provisions
      cases provisions
    · simpa using ready

section Served

variable {board : PoolBoard} (inv : FreshInv board) (fate : PoolFate)

include inv

variable {job : PoolJob} {mark : PoolMark} {request : PoolRequest} {slot : Slot} {version : ResourceClaim}
  {written : ClaimKey} {keep : Bool} {key : PoolKey}

-- A call that writes nothing of the pass's own object.
omit inv in
theorem other_fresh (fresh : Fresh board.world job mark)
    (passing : ∀ uid version now, job ≠ .retained uid version now) (holding : ∀ uid key, job.holder ≠ .retained uid key)
    (other : request.own = false) :
    Fresh (servePool board.world fate request).2 job (nextMark job mark ⟨request, (servePool board.world fate request).1⟩) := by
  apply fresh_beside mark
  · exact asked_beside mark board.world fate passing other
  · apply fresh_shrinks _ _ _ fresh
    intro slot
    exact serve_shrinks holding other

-- Until the ready write none of a claim's own writes proves anything.
omit inv in
theorem unready_shrinks {key : ClaimKey} (unready : ∀ cond secret allocation, request ≠ .claimStatus key cond secret allocation)
    (proven : (servePool board.world fate request).2.proven (.claim key) slot = true) :
    board.world.proven (.claim key) slot = true := by
  rcases serve_proven proven with
    before | ⟨_, _, same⟩ | ⟨written, cond, secret, rfl, _, same⟩ | ⟨_, _, _, _, same⟩
  · exact before
  · cases same
  · cases same
    exact absurd rfl (unready cond secret (some slot))
  · cases same

omit inv in
theorem claim_finalizers_fresh (before : Fresh board.world (.claim version) mark) (allowed : poolAllowed (.claim version) mark (.claimFinalizers written keep)) :
    Fresh (servePool board.world fate (.claimFinalizers written keep)).2 (.claim version) (nextMark (.claim version) mark
        ⟨.claimFinalizers written keep, (servePool board.world fate (.claimFinalizers written keep)).1⟩) := by
  obtain ⟨_, same, rfl, step⟩ := allowed
  cases same
  cases keep with
  | false =>
    cases step
    exact fresh_idle _ _ _ rfl
  | true =>
    cases step
    cases told : (servePool board.world fate (.claimFinalizers version.key true)).1 with
    | false => exact fresh_idle _ _ _ rfl
    | true =>
      intro _
      obtain ⟨_, unproven⟩ := before rfl
      refine ⟨fun holds => absurd rfl holds, ?_⟩
      intro provisions slot proven
      exact unproven provisions slot (unready_shrinks fate (fun _ _ _ same => by cases same) proven)

omit inv in
theorem claim_checkpoint_fresh (before : Fresh board.world (.claim version) mark) (allowed : poolAllowed (.claim version) mark (.checkpoint written slot)) :
    Fresh (servePool board.world fate (.checkpoint written slot)).2 (.claim version)
      (nextMark (.claim version) mark ⟨.checkpoint written slot, (servePool board.world fate (.checkpoint written slot)).1⟩) := by
  obtain ⟨_, bare, same, rfl, rfl, _, provisions, _⟩ := allowed
  cases same
  cases told : (servePool board.world fate (.checkpoint version.key slot)).1 with
  | false => exact fresh_idle _ _ _ rfl
  | true =>
    intro _
    obtain ⟨_, unproven⟩ := before rfl
    refine ⟨fun _ => provisions, ?_⟩
    intro _ slot proven
    exact unproven provisions slot (unready_shrinks fate (fun _ _ _ same => by cases same) proven)

theorem claim_fresh (running : board.mark key = some (.claim version, mark))
    (allowed : poolAllowed (.claim version) mark request) :
    Fresh (servePool board.world fate request).2 (.claim version)
      (nextMark (.claim version) mark ⟨request, (servePool board.world fate request).1⟩) := by
  have before : Fresh board.world (.claim version) mark := inv.fresh key _ mark running
  cases own : request.own with
  | false =>
    exact other_fresh fate before (fun _ _ _ same => by cases same) (fun _ _ same => by cases same) own
  | true =>
    cases request with
    | claimFinalizers written keep => exact claim_finalizers_fresh fate before allowed
    | checkpoint written slot => exact claim_checkpoint_fresh fate before allowed
    | claimStatus written cond secret allocation =>
      obtain ⟨_, slot, sure, same, rfl, either⟩ := allowed
      cases same
      apply fresh_idle
      rcases either with ⟨_, _, rfl⟩ | ⟨_, _, rfl⟩
      · cases told : (servePool board.world fate (.claimStatus version.key cond secret allocation)).1 with
        | false => rfl
        | true => rfl
      · cases told : (servePool board.world fate (.claimStatus version.key cond secret allocation)).1 with
        | false => rfl
        | true => rfl
    | sharedFinalizers | sharedStatus =>
      obtain ⟨_, same, _⟩ := allowed
      cases same
    | _ => cases own

omit inv in
theorem shared_finalizers_fresh {version : SharedDatabase} (before : Fresh board.world (.shared version) mark) (allowed : poolAllowed (.shared version) mark (.sharedFinalizers written keep)) :
    Fresh (servePool board.world fate (.sharedFinalizers written keep)).2 (.shared version) (nextMark (.shared version) mark
        ⟨.sharedFinalizers written keep, (servePool board.world fate (.sharedFinalizers written keep)).1⟩) := by
  obtain ⟨_, same, rfl, step⟩ := allowed
  cases same
  cases keep with
  | false =>
    apply fresh_idle
    cases mark with
    | begun => cases step.1
    | _ => rfl
  | true =>
    cases step
    cases told : (servePool board.world fate (.sharedFinalizers version.key true)).1 with
    | false => exact fresh_idle _ _ _ rfl
    | true =>
      intro _ staying slot proven
      have known : board.world.proven (.shared version.key) slot = true := by
        rcases serve_proven proven with
          before | ⟨_, _, same⟩ | ⟨_, _, _, same, _⟩ | ⟨_, _, same, _⟩
        · exact before
        · cases same
        · cases same
        · cases same
      obtain ⟨held, finished, _⟩ := before rfl staying slot known
      refine ⟨held, finished, fun _ => ?_⟩
      change (startShared version).sure = true
      rw [startShared, held]
      change (!version.unfinished) = true
      rw [finished]
      rfl

theorem shared_fresh {version : SharedDatabase} (running : board.mark key = some (.shared version, mark))
    (allowed : poolAllowed (.shared version) mark request) :
    Fresh (servePool board.world fate request).2 (.shared version)
      (nextMark (.shared version) mark ⟨request, (servePool board.world fate request).1⟩) := by
  have before : Fresh board.world (.shared version) mark := inv.fresh key _ mark running
  cases own : request.own with
  | false =>
    exact other_fresh fate before (fun _ _ _ same => by cases same) (fun _ _ same => by cases same) own
  | true =>
    cases request with
    | sharedFinalizers written keep => exact shared_finalizers_fresh fate before allowed
    | sharedStatus written status =>
      obtain ⟨_, same, rfl, write⟩ := allowed
      cases same
      change Fresh (writePool board.world fate (.sharedStatus version.key status)).2 (.shared version)
        (writtenMark status (writePool board.world fate (.sharedStatus version.key status)).1)
      cases write with
      | checkpoint slot start kept other => exact checkpoint_fresh fate before start other
      | ready slot stage sure held clear =>
        rw [written_finished rfl]
        exact fresh_idle _ _ _ rfl
      | release =>
        exact fresh_idle _ _ _ rfl
      | carry reason start told =>
        rw [written_finished (told_finished told)]
        exact fresh_idle _ _ _ rfl
    | claimFinalizers written keep =>
      obtain ⟨_, same, _⟩ := allowed
      cases same
    | checkpoint written slot =>
      obtain ⟨_, _, same, _⟩ := allowed
      cases same
    | claimStatus written cond secret allocation =>
      obtain ⟨_, _, _, same, _⟩ := allowed
      cases same
    | _ => cases own

theorem others_fresh {other : PoolJob} {reached : PoolMark} {place : PoolKey}
    (running : board.mark place = some (other, reached)) (different : other.key ≠ job.key)
    (allowed : poolAllowed job mark request) : Fresh (servePool board.world fate request).2 other reached := by
  have before := inv.fresh place other reached running
  cases other with
  | retained uid version now => trivial
  | claim version =>
    apply fresh_shrinks _ _ _ before
    intro slot proven
    rcases serve_proven proven with
      known | ⟨_, _, same⟩ | ⟨key, cond, secret, rfl, _, same⟩ | ⟨_, _, _, _, same⟩
    · exact known
    · cases same
    · obtain ⟨mine, _, _, rfl, rfl, _⟩ := allowed
      exact absurd (congrArg PoolKey.claim (Holder.claim.inj same)) different
    · cases same
  | shared version =>
    apply fresh_shrinks _ _ _ before
    intro slot proven
    rcases serve_proven proven with
      known | ⟨_, _, same⟩ | ⟨_, _, _, _, _, same⟩ | ⟨key, status, rfl, _, same⟩
    · exact known
    · cases same
    · cases same
    · obtain ⟨mine, rfl, rfl, _⟩ := allowed
      exact absurd (congrArg PoolKey.shared (Holder.shared.inj same)) different

theorem serves_fresh (running : board.mark job.key = some (job, mark)) (allowed : poolAllowed job mark request) :
    FreshInv (board.served job mark fate request) where
  recorded := serve_recorded inv.recorded
  keyed := by
    apply Board.marks_set
    · intro other running reached _ found
      exact inv.keyed other running reached found
    · intro running reached found
      cases found
      rfl
  fresh := by
    apply Board.marks_set board.mark job.key _ fun _ job mark => Fresh (servePool board.world fate request).2 job mark
    · intro place other reached different found
      apply others_fresh inv fate found _ allowed
      rw [inv.keyed place other reached found]
      exact different
    · intro next reached found
      cases found
      cases job with
      | claim version => exact claim_fresh inv fate running allowed
      | shared version => exact shared_fresh inv fate running allowed
      | retained uid version now => trivial
  late := inv.late

theorem world_fresh (after : PoolWorld)
    (recorded : ∀ holder slot, after.proven holder slot = true → after.records holder slot = true)
    (shrinks : ∀ holder slot, (∀ uid key, holder ≠ .retained uid key) → after.proven holder slot = true →
      board.world.proven holder slot = true) : FreshInv { board with world := after } where
  recorded := recorded
  keyed := inv.keyed
  fresh key job mark running := by
    have before := inv.fresh key job mark running
    cases job with
    | claim | shared => exact fresh_shrinks _ mark (fun slot => shrinks _ slot fun _ _ same => by cases same) before
    | retained uid version now => trivial
  late := inv.late

theorem begins_fresh (permitted : actsOnReady board.world (.begin job) = true) : Fresh board.world job (firstMark job) := by
  cases job with
  | retained uid version now => trivial
  | claim version =>
    intro live
    obtain ⟨staying, slotless⟩ := first_claim_live live
    refine ⟨fun holds => absurd slotless holds, ?_⟩
    intro provisions slot proven
    obtain ⟨claim, member, named, held⟩ := (board.world.claim_records _ slot).mp (inv.recorded _ slot proven)
    simp only [actsOnReady, staying, provision_unready provisions, isSome_none, Bool.false_or] at permitted
    have unproven := all_eq_true.mp permitted claim member
    simp [named, held, proven] at unproven
  | shared version =>
    intro live staying slot proven
    obtain ⟨sd, member, named, held⟩ := (board.world.shared_records _ slot).mp (inv.recorded _ slot proven)
    simp only [actsOnReady, staying, isSome_none, Bool.false_or] at permitted
    have shown := all_eq_true.mp permitted sd member
    simp only [named, held, proven, bne_self_eq_false, Bool.false_or, all_some, Bool.not_true, Bool.and_eq_true,
      beq_iff_eq, Bool.not_eq_true'] at shown
    obtain ⟨same, finished⟩ := shown
    refine ⟨same, finished, ?_⟩
    intro started
    cases finalized : version.finalizers.contains sdFinalizer with
    | true =>
      have first : firstMark (.shared version) = .holding slot 0 (!version.unfinished) := by
        rw [firstMark, if_pos finalized, startShared, same]
      rw [first, finished]
      rfl
    | false =>
      have first : firstMark (.shared version) = .begun := by
        rw [firstMark, finalized, staying]
        rfl
      exact absurd first started

theorem marks_fresh (key : PoolKey) (set : Option (PoolJob × PoolMark))
    (fits : ∀ job mark, set = some (job, mark) → job.key = key ∧ Fresh board.world job mark) :
    FreshInv { board with mark := Function.update board.mark key set } where
  recorded := inv.recorded
  keyed := by
    apply Board.marks_set
    · intro other job mark _ found
      exact inv.keyed other job mark found
    · intro job mark found
      exact (fits job mark found).1
  fresh := by
    apply Board.marks_set board.mark key set fun _ job mark => Fresh board.world job mark
    · intro other job mark _ found
      exact inv.fresh other job mark found
    · intro job mark found
      exact (fits job mark found).2
  late := inv.late

theorem changes_fresh (change : PoolChange) : FreshInv { board with world := (changedPool board.world change).settled } := by
  apply world_fresh inv
  · intro holder slot proven
    exact ((PoolWorld.settled_proven _ holder slot).mp proven).2
  · intro holder slot _ proven
    rw [← change_proven board.world change]
    exact ((PoolWorld.settled_proven _ holder slot).mp proven).1

theorem commits_fresh (checkpoint : Checkpoint request) :
    FreshInv { board with world := (servePool board.world fate request).2 } := by
  apply world_fresh inv
  · exact serve_recorded inv.recorded
  · intro holder slot kept proven
    rcases serve_proven proven with
      before | ⟨uid, key, same⟩ | ⟨key, cond, secret, rfl, _⟩ | ⟨key, status, rfl, ready, _⟩
    · exact before
    · exact absurd same (kept uid key)
    · cases checkpoint
    · obtain ⟨_, rfl⟩ := checkpoint
      cases ready

end Served

theorem begin_world {after : PoolWorld} {prog : PoolProg} (begun : beginPass world job = some (after, prog)) :
    after.proven = world.proven ∧ after.records = world.records := by
  cases pass_begun begun with
  | claim | shared | retained => exact ⟨rfl, rfl⟩

theorem fresh_kept : poolFleet.Keeps poolMonitor actsOnReady FreshInv where
  changes board change world inv _ changed := by
    cases some.inj changed
    exact changes_fresh inv change
  begins board job world prog inv _ permitted begun := by
    obtain ⟨proven, records⟩ := begin_world begun
    have moved : FreshInv { board with world := world } := by
      apply world_fresh inv
      · rw [proven, records]
        exact inv.recorded
      · intro holder slot _ known
        exact proven ▸ known
    apply marks_fresh moved
    intro next mark same
    cases same
    refine ⟨rfl, ?_⟩
    apply fresh_shrinks
    · intro slot known
      exact proven ▸ known
    · exact begins_fresh inv permitted
  serves board job mark _ fate inv running allowed _ := serves_fresh inv fate running allowed
  drops board key inv := marks_fresh inv key none fun _ _ same => by cases same
  leaves board job mark request inv running allowed lingers := by
    have dropped := marks_fresh inv job.key none fun _ _ same => by cases same
    refine { dropped with late := ?_ }
    intro entry member
    rcases mem_append.mp member with old | new
    · exact inv.late entry old
    · cases mem_singleton.mp new
      exact lingering_checkpoint allowed lingers
  commits board index job request fate inv found _ := by
    have moved := commits_fresh inv fate (inv.late (job, request) (mem_of_getElem? found))
    exact { moved with late := fun entry member => inv.late entry (mem_of_mem_eraseIdx member) }

theorem fresh_start : FreshInv ⟨{}, fun _ => none, []⟩ where
  recorded _ _ known := by cases known
  keyed _ _ _ running := by cases running
  fresh _ _ _ running := by cases running
  late _ member := by cases member

def FlushedFirst (runs : System PoolState PoolAction) (state : PoolState) : Prop :=
  ∀ action after job slot, runs.step state action = some after →
    Fleet.event state action = some (.serve job (.flushdb slot)) → job.provisions = true →
      state.world.proven job.holder slot = false

theorem flushed_before_ready (state : PoolState) (reachable : (poolFleet.obeying actsOnReady).Reachable state) :
    FlushedFirst (poolFleet.obeying actsOnReady) state := by
  have kept : FreshInv (Fleet.board poolMonitor state) ∧ poolFleet.Followed poolMonitor state := by
    apply Fleet.keeps_reachable poolFleet poolMonitor actsOnReady FreshInv fresh_kept
    · intro world job after prog _ begun
      exact passes_follow begun
    · rintro world rfl
      exact fresh_start
    · exact reachable
  obtain ⟨inv, followed⟩ := kept
  intro action after job slot _ happens provisions
  obtain ⟨key, pass, running, rfl, next, asks⟩ := Fleet.event_serve happens
  obtain ⟨_, follows⟩ := followed key pass running
  rw [asks] at follows
  obtain ⟨sure, held, purpose⟩ := follows.1
  have fresh := inv.fresh key pass.job _ (map_eq_some_iff.mpr ⟨pass, running, rfl⟩)
  rw [held] at fresh
  rw [← Bool.not_eq_true]
  intro proven
  cases working : pass.job with
  | claim version =>
    rw [working] at fresh proven
    obtain ⟨wanted, unproven⟩ := fresh rfl
    exact unproven (wanted (some_ne_none _)) slot proven
  | shared version =>
    rw [working] at fresh proven purpose provisions
    have staying : version.deletionTimestamp = none := isNone_iff_eq_none.mp provisions
    obtain ⟨_, _, known⟩ := fresh rfl staying slot proven
    have sure : sure = true := known nofun
    rw [purpose staying] at sure
    cases sure
  | retained uid version now =>
    rw [working] at provisions
    cases provisions

theorem flushed_before_ready_cache :
    ∃ state, (poolFleet.obeying actsOnReady).Reachable state ∧ FlushedFirst (poolFleet.obeying actsOnReady) state ∧
      flushing state (.claim cacheKey) = some (.claim cacheKey, (persistentInstance, 0)) := by
  have finished : ((poolFleet.obeying actsOnReady).run (Fleet.start {}) (provisionCache true 11)).map
      (fun state => flushing state (.claim cacheKey)) = some (some (.claim cacheKey, (persistentInstance, 0))) := by
    decide +kernel
  obtain ⟨state, reachable, asks⟩ := System.run_shows _ finished ⟨_, rfl, rfl⟩
  exact ⟨state, reachable, flushed_before_ready state reachable, asks⟩

def cacheCheckpointed : ResourceClaim :=
  { cachePinned true with status := some (checkpointed (cachePinned true).status (persistentInstance, 0)) }

def sessionsCheckpointed : SharedDatabase :=
  { newShared sessionsKey with
    finalizers := [sdFinalizer]
    status := some (checkpointStatus (persistentInstance, 0)) }

def lagRun : List PoolAction :=
  provisionCache true 15 ++ [.drop (.claim cacheKey), .begin (.claim cacheCheckpointed)] ++ replies (.claim cacheKey) 8

def lagSharedRun : List PoolAction :=
  provisionShared sessionsKey ++ [.drop (.shared sessionsKey), .begin (.shared sessionsCheckpointed)] ++
    replies (.shared sessionsKey) 7

theorem flushed_again (key : PoolKey) (actions : List PoolAction)
    (finished : ((poolFleet.system.run (Fleet.start {}) actions).bind fun state =>
      (poolFleet.system.step state (.reply key smoothly)).bind fun _ =>
        (Fleet.event state (.reply key smoothly : PoolAction)).bind fun
          | .serve job (.flushdb slot) => some (job.provisions, job.holder, slot, state.world.proven job.holder slot)
          | _ => none) = some (true, holder, slot, true)) :
    ∃ state, poolFleet.system.Reachable state ∧ state.world.proven holder slot = true ∧ ¬FlushedFirst poolFleet.system state := by
  obtain ⟨state, ran, finished⟩ := bind_eq_some_iff.mp finished
  obtain ⟨after, taken, finished⟩ := bind_eq_some_iff.mp finished
  obtain ⟨happening, happens, served⟩ := bind_eq_some_iff.mp finished
  have reachable := poolFleet.system.reachable_run _ (.initial _ ⟨_, rfl, rfl⟩) _ state ran
  cases happening with
  | serve job request =>
    cases request with
    | flushdb flushed =>
      simp only [some.injEq, Prod.mk.injEq] at served
      obtain ⟨provisions, rfl, rfl, proven⟩ := served
      refine ⟨state, reachable, proven, ?_⟩
      intro first
      rw [first _ after job flushed taken happens provisions] at proven
      cases proven
    | _ => cases served
  | _ => cases served

theorem flushed_after_ready : (∃ state, poolFleet.system.Reachable state ∧
      state.world.proven (.claim cacheKey) (persistentInstance, 0) = true ∧ ¬FlushedFirst poolFleet.system state) ∧
    ∃ state, poolFleet.system.Reachable state ∧
      state.world.proven (.shared sessionsKey) (persistentInstance, 0) = true ∧ ¬FlushedFirst poolFleet.system state := by
  constructor
  · exact flushed_again (.claim cacheKey) lagRun (by decide +kernel)
  · exact flushed_again (.shared sessionsKey) lagSharedRun (by decide +kernel)

end AppRafter.Provisioner
