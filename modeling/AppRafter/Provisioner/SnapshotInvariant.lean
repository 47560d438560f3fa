import AppRafter.Provisioner.Exclusive

set_option autoImplicit false

namespace AppRafter.Provisioner

open Lib Application List Option

def RetainedClaim.onPersistent (snapshot : RetainedClaim) : Bool := snapshot.slot.any fun slot => slot.1 == persistentInstance

structure Pending (world : PoolWorld) (key : ClaimKey) (uid : Nat) (snapshot : RetainedClaim) : Prop where
  there : (uid, snapshot) ∈ world.retained
  its : snapshot.claimRef = key
  placed : snapshot.onPersistent = true

variable (world : PoolWorld)

def keepsClass : PoolEvent → Bool
  | .begin (.claim version) =>
    version.deletionTimestamp.isSome || version.spec.persistent.getD false ||
      world.retained.all fun entry => entry.2.claimRef != version.key || !entry.2.onPersistent
  | _ => true

-- A snapshot is of a slot nobody else records, and late checkpoints keep off its slot.
def keepsSnapshots : PoolEvent → Bool
  | .serve (.retained uid snapshot _) (.deleteRetained _) => world.retained.contains (uid, snapshot)
  | .serve (.claim version) (.deleteRetained name) =>
    world.retained.all fun entry => entry.2.name != name || entry.2.claimRef == version.key
  | .serve _ (.createRetained snapshot) =>
    snapshot.slot.all fun slot =>
      (otherDbnumHolders world.claims (world.retained.map Prod.snd) world.shared slot (.claim snapshot.claimRef)).isEmpty
  | .commit _ (.checkpoint key slot) =>
    world.retained.all fun entry => entry.2.claimRef != key || !entry.2.onPersistent || entry.2.slot == some slot
  | _ => true

def promiseKept (happening : PoolEvent) : Bool :=
  slotsKept world happening && (keepsClass world happening && keepsSnapshots world happening)

structure RetainedSound (world : PoolWorld) : Prop where
  named : ∀ entry ∈ world.retained, entry.2.name = k8sName entry.2.claimRef
  unique : ∀ entry ∈ world.retained, ∀ other ∈ world.retained, entry.2.name = other.2.name → entry = other
  shaped : ∀ entry ∈ world.retained, entry.2.onPersistent = true →
    entry.2.backend = "dragonfly" ∧ dragonflyReclaimTarget entry.2 ≠ none
  matched : ∀ claim ∈ world.claims, ∀ uid snapshot, Pending world claim.key uid snapshot →
    ∀ slot, claim.slot = some slot → snapshot.slot = some slot
  regained : ∀ claim ∈ world.claims, claim.isReady = true → claim.deletionTimestamp = none →
    ∀ uid snapshot, Pending world claim.key uid snapshot → world.redeemed uid = true

def Leaving (version : ResourceClaim) : Prop :=
  ∃ claim ∈ world.claims, claim.key = version.key ∧ provisionerFinalizer ∈ claim.finalizers ∧
    claim.deletionTimestamp ≠ none ∧ ∀ slot, version.slot = some slot → claim.slot = some slot

def PoolMark.choosing : PoolMark → Bool
  | .begun => true
  | .pinned _ => true
  | _ => false

structure ClaimHold (world : PoolWorld) (version : ResourceClaim) (mark : PoolMark) : Prop where
  classed : mark.choosing = true → ∀ uid snapshot, Pending world version.key uid snapshot →
    version.spec.persistent.getD false = true ∧ ∀ slot, version.slot = some slot → snapshot.slot = some slot
  sighted : ∀ sight, mark = .pinned sight → ∀ uid snapshot, Pending world version.key uid snapshot →
    (∀ slot, sight.bare slot = true → snapshot.slot ≠ some slot) ∧
    ∀ slot, sight.fits slot = true → slot.1 = persistentInstance → snapshot.slot = some slot
  sure : mark.sure = true → ∀ uid snapshot, ¬Pending world version.key uid snapshot
  readied : ∀ slot, mark = .readied slot → ∀ uid snapshot, Pending world version.key uid snapshot →
    world.redeemed uid = true
  leaving : mark = .leaving → Leaving world version

structure CollectorHold (world : PoolWorld) (uid : Nat) (snapshot : RetainedClaim) (now : Nat) (mark : PoolMark) : Prop where
  clock : now ≤ world.now
  stale : mark = .stale → (uid, snapshot) ∈ world.retained → snapshot.onPersistent = true → world.redeemed uid = true

def Hold (job : PoolJob) (mark : PoolMark) : Prop :=
  match job with
  | .claim version => ClaimHold world version mark
  | .shared _ => True
  | .retained uid snapshot now => CollectorHold world uid snapshot now mark

def Unread (job : PoolJob) (mark : PoolMark) : Prop :=
  ∀ uid snapshot slot, (uid, snapshot) ∈ world.retained → snapshot.slot = some slot → slot.1 = persistentInstance →
    mark.slot = some slot → world.records job.holder slot = true → job.holder.owner ≠ .claim snapshot.claimRef → mark.stage < 2

structure Retains (board : PoolBoard) : Prop where
  sound : RetainedSound board.world
  unread : ∀ key job mark, board.mark key = some (job, mark) → Unread board.world job mark
  holds : ∀ key job mark, board.mark key = some (job, mark) → Hold board.world job mark

section World

variable {world after : PoolWorld} (entries : ∀ entry ∈ after.retained, entry ∈ world.retained)
  (grows : ∀ uid, world.redeemed uid = true → after.redeemed uid = true)

include entries

theorem pending_before (key : ClaimKey) (uid : Nat) (snapshot : RetainedClaim) (pending : Pending after key uid snapshot) :
    Pending world key uid snapshot :=
  { pending with there := entries _ pending.there }

include grows

variable {mark : PoolMark}

theorem claim_hold_world {version : ResourceClaim} (hold : ClaimHold world version mark)
    (leaving : mark = .leaving → Leaving after version) : ClaimHold after version mark where
  classed choosing uid snapshot pending := hold.classed choosing uid snapshot (pending_before entries _ _ _ pending)
  sighted sight same uid snapshot pending := hold.sighted sight same uid snapshot (pending_before entries _ _ _ pending)
  sure sure uid snapshot pending := hold.sure sure uid snapshot (pending_before entries _ _ _ pending)
  readied slot same uid snapshot pending := grows uid (hold.readied slot same uid snapshot (pending_before entries _ _ _ pending))
  leaving := leaving

theorem hold_world {job : PoolJob} (now : world.now ≤ after.now) (hold : Hold world job mark)
    (leaving : ∀ version, job = .claim version → mark = .leaving → Leaving after version) : Hold after job mark := by
  cases job with
  | claim version => exact claim_hold_world entries grows hold (leaving version rfl)
  | shared version => trivial
  | retained uid snapshot time =>
    refine ⟨Nat.le_trans hold.clock now, ?_⟩
    intro same there placed
    exact grows uid (hold.stale same (entries _ there) placed)

end World

section Moves

variable (board : PoolBoard) (base : PoolInv board) (inv : Retains board)

include inv

theorem set_retains (key : PoolKey) (set : Option (PoolJob × PoolMark))
    (fits : ∀ job mark, set = some (job, mark) → Unread board.world job mark ∧ Hold board.world job mark) :
    Retains { board with mark := Function.update board.mark key set } where
  sound := inv.sound
  unread := by
    apply Board.marks_set board.mark key set fun _ job mark => Unread board.world job mark
    · intro other job mark _ found
      exact inv.unread other job mark found
    · intro job mark found
      exact (fits job mark found).1
  holds := by
    apply Board.marks_set board.mark key set fun _ job mark => Hold board.world job mark
    · intro other job mark _ found
      exact inv.holds other job mark found
    · intro job mark found
      exact (fits job mark found).2

theorem drop_retains (key : PoolKey) : Retains { board with mark := Function.update board.mark key none } := by
  apply set_retains board inv
  intro job mark found
  cases found

include base

variable {after : PoolWorld} {key : ClaimKey}

theorem world_retains (sound : RetainedSound after) (entries : ∀ entry ∈ after.retained, entry ∈ board.world.retained)
    (grows : ∀ uid, board.world.redeemed uid = true → after.redeemed uid = true) (now : board.world.now ≤ after.now)
    (leaving : ∀ version, board.mark (.claim version.key) = some (.claim version, .leaving) → Leaving after version) :
    Retains { board with world := after } where
  sound := sound
  unread key job mark running uid snapshot slot there named placed held recorded other := by
    apply inv.unread key job mark running uid snapshot slot (entries _ there) named placed held _ other
    rcases standing_records (base.standing key job mark running) held with
      ⟨id, version, time, rfl, _⟩ | before
    · obtain ⟨found, member, rest⟩ := (after.retained_records id version.claimRef slot).mp recorded
      exact (board.world.retained_records id version.claimRef slot).mpr ⟨found, entries _ member, rest⟩
    · exact before
  holds key job mark running := by
    apply hold_world entries grows now (inv.holds key job mark running)
    rintro version rfl rfl
    exact leaving version (claim_key_running board base running)

theorem same_retains (after : PoolWorld) (claims : after.claims = board.world.claims)
    (entries : ∀ entry ∈ after.retained, entry ∈ board.world.retained)
    (redeemed : after.redeemed = board.world.redeemed) (now : board.world.now ≤ after.now) :
    Retains { board with world := after } := by
  apply world_retains board base inv _ entries _ now
  · intro version running
    have hold : ClaimHold board.world version .leaving := inv.holds _ _ _ running
    obtain ⟨claim, member, rest⟩ := hold.leaving rfl
    exact ⟨claim, claims ▸ member, rest⟩
  · refine ⟨?_, ?_, ?_, ?_, ?_⟩
    · intro entry member
      exact inv.sound.named entry (entries entry member)
    · intro entry member other also
      exact inv.sound.unique entry (entries entry member) other (entries other also)
    · intro entry member
      exact inv.sound.shaped entry (entries entry member)
    · intro claim member uid snapshot pending
      exact inv.sound.matched claim (claims ▸ member) uid snapshot (pending_before entries _ _ _ pending)
    · intro claim member ready kept uid snapshot pending
      rw [redeemed]
      exact inv.sound.regained claim (claims ▸ member) ready kept uid snapshot (pending_before entries _ _ _ pending)
  · intro uid known
    rw [redeemed]
    exact known

variable {board}

theorem shared_retains (step : SharedStep board.world after key)
    (redeemed : after.redeemed = board.world.redeemed) (now : after.now = board.world.now) :
    Retains { board with world := after.settled } := by
  apply same_retains board base inv after.settled step.claims _ redeemed (Nat.le_of_eq now.symm)
  intro entry member
  exact step.retained ▸ member

theorem claims_retains (step : ClaimStep board.world after key)
    (grows : ∀ uid, board.world.redeemed uid = true → after.redeemed uid = true) (now : after.now = board.world.now)
    (matched : ∀ claim ∈ after.claims, claim.key = key → ∀ uid snapshot, Pending board.world key uid snapshot →
      ∀ slot, claim.slot = some slot → snapshot.slot = some slot)
    (regained : ∀ claim ∈ after.claims, claim.key = key → claim.isReady = true → claim.deletionTimestamp = none →
      ∀ uid snapshot, Pending board.world key uid snapshot → after.redeemed uid = true)
    (leaving : ∀ version, version.key = key → board.mark (.claim version.key) = some (.claim version, .leaving) →
      Leaving after version) :
    Retains { board with world := after.settled } := by
  have entries : ∀ entry ∈ after.settled.retained, entry ∈ board.world.retained := fun entry member =>
    step.retained ▸ member
  have before := pending_before entries
  apply world_retains board base inv _ entries grows (Nat.le_of_eq now.symm)
  · intro version running
    by_cases here : version.key = key
    · exact leaving version here running
    · have hold : ClaimHold board.world version .leaving := inv.holds _ _ _ running
      obtain ⟨claim, member, named, rest⟩ := hold.leaving rfl
      exact ⟨claim, (step.others claim (named ▸ here)).mpr member, named, rest⟩
  · refine ⟨?_, ?_, ?_, ?_, ?_⟩
    · intro entry member
      exact inv.sound.named entry (entries entry member)
    · intro entry member other also
      exact inv.sound.unique entry (entries entry member) other (entries other also)
    · intro entry member
      exact inv.sound.shaped entry (entries entry member)
    · intro claim member uid snapshot pending slot held
      by_cases here : claim.key = key
      · exact matched claim member here uid snapshot (here ▸ before _ _ _ pending) slot held
      · exact inv.sound.matched claim ((step.others claim here).mp member) uid snapshot (before _ _ _ pending) slot held
    · intro claim member ready kept uid snapshot pending
      by_cases here : claim.key = key
      · exact regained claim member here ready kept uid snapshot (here ▸ before _ _ _ pending)
      · exact grows uid (inv.sound.regained claim ((step.others claim here).mp member) ready kept uid snapshot
          (before _ _ _ pending))

theorem touch_retains {update : ResourceClaim → ResourceClaim}
    (rewritten : ClaimRewrite board.world after key update) (redeemed : after.redeemed = board.world.redeemed)
    (now : after.now = board.world.now) (slot : ∀ old, (update old).slot = old.slot)
    (ready : ∀ old, (update old).isReady = old.isReady)
    (deletion : ∀ old, old.deletionTimestamp ≠ none → (update old).deletionTimestamp ≠ none)
    (finalizers : ∀ version, board.mark (.claim key) = some (.claim version, .leaving) →
      ∀ old, (update old).finalizers = old.finalizers) :
    Retains { board with world := after.settled } := by
  apply claims_retains base inv rewritten.toClaimStep (fun uid known => redeemed ▸ known) now
  · intro claim member here uid snapshot pending held found
    obtain ⟨old, before, named, rfl⟩ := rewritten.members claim member here
    rw [slot old] at found
    exact inv.sound.matched old before uid snapshot (named ▸ pending) held found
  · intro claim member here isReady kept uid snapshot pending
    obtain ⟨old, before, named, rfl⟩ := rewritten.members claim member here
    rw [ready old] at isReady
    have staying : old.deletionTimestamp = none := by
      by_contra gone
      exact deletion old gone kept
    rw [redeemed]
    exact inv.sound.regained old before isReady staying uid snapshot (named ▸ pending)
  · rintro version rfl running
    have hold : ClaimHold board.world version .leaving := inv.holds _ _ _ running
    obtain ⟨claim, member, named, finalized, gone, same⟩ := hold.leaving rfl
    have still : provisionerFinalizer ∈ (update claim).finalizers := by
      rw [finalizers version running claim]
      exact finalized
    refine ⟨update claim, rewritten.present claim member named still, ?_, still, deletion claim gone, ?_⟩
    · rw [rewritten.keyed, named]
    · intro chosen held
      rw [slot claim]
      exact same chosen held

theorem changes_retains (change : PoolChange) : Retains { board with world := (changedPool board.world change).settled } := by
  cases change with
  | tick seconds => exact same_retains board base inv _ rfl (fun _ => id) rfl (Nat.le_add_right ..)
  | createClaim key spec =>
    by_cases taken : (board.world.claims.any fun claim => claim.key == key) = true
    · simp only [changedPool, if_pos taken]
      exact same_retains board base inv _ rfl (fun _ => id) rfl (Nat.le_refl _)
    · simp only [changedPool, if_neg taken]
      have absent : ∀ claim ∈ board.world.claims, claim.key ≠ key := by
        intro claim member same
        exact taken (any_eq_true.mpr ⟨claim, member, beq_iff_eq.mpr same⟩)
      have fresh : ∀ claim ∈ board.world.claims ++ [({ key := key, spec := spec } : ResourceClaim)], claim.key = key →
          claim.status = none := by
        intro claim member named
        rcases mem_append.mp member with old | new
        · exact absurd named (absent claim old)
        · rw [mem_singleton.mp new]
      apply claims_retains base inv (add_claim_step board.world { key := key, spec := spec }) (fun _ => id) rfl
      · intro claim member here uid snapshot _ slot held
        rw [ResourceClaim.slot, fresh claim member here] at held
        cases held
      · intro claim member here ready
        rw [ResourceClaim.isReady, fresh claim member here] at ready
        cases ready
      · rintro version rfl running
        have hold : ClaimHold board.world version .leaving := inv.holds _ _ _ running
        obtain ⟨claim, member, named, _⟩ := hold.leaving rfl
        exact absurd named (absent claim member)
  | editClaim key spec =>
    have rewritten := set_claim_rewrite board.world key (fun claim => { claim with spec := spec }) fun _ => rfl
    exact touch_retains base inv rewritten rfl rfl (fun _ => rfl) (fun _ => rfl) (fun _ gone => gone) fun _ _ _ => rfl
  | schedule key provider =>
    have rewritten := set_claim_rewrite board.world key
      (fun claim => { claim with status := some (scheduled claim.status provider) }) fun _ => rfl
    exact touch_retains base inv rewritten rfl rfl (scheduled_slot provider) (scheduled_ready provider)
      (fun _ gone => gone) fun _ _ _ => rfl
  | deleteClaim key =>
    have rewritten := remove_claim_rewrite _ key _ _ (set_claim_rewrite board.world key
      (fun claim => { claim with deletionTimestamp := some (claim.deletionTimestamp.getD board.world.now) }) fun _ => rfl)
    exact touch_retains base inv rewritten rfl rfl (fun _ => rfl) (fun _ => rfl)
      (fun _ _ => some_ne_none _) fun _ _ _ => rfl
  | createShared key spec =>
    simp only [changedPool]
    split
    · exact same_retains board base inv _ rfl (fun _ => id) rfl (Nat.le_refl _)
    · exact shared_retains base inv (add_shared_step board.world { ns := key.ns, name := key.name, spec := spec }) rfl rfl
  | editShared key spec =>
    have rewritten := set_shared_rewrite board.world key (fun sd => { sd with spec := spec }) fun _ => rfl
    exact shared_retains base inv rewritten.toSharedStep rfl rfl
  | deleteShared key =>
    have rewritten := remove_shared_rewrite _ key _ _ (set_shared_rewrite board.world key
      (fun sd => { sd with deletionTimestamp := some (sd.deletionTimestamp.getD board.world.now) }) fun _ => rfl)
    exact shared_retains base inv rewritten.toSharedStep rfl rfl

theorem late_checkpoint_retains (fate : PoolFate) {job : PoolJob} {slot : Slot}
    (undisturbed : undisturbedSlots board.world (.commit job (.checkpoint key slot)) = true)
    (spared : keepsSnapshots board.world (.commit job (.checkpoint key slot)) = true) :
    Retains { board with world := (servePool board.world fate (.checkpoint key slot)).2 } := by
  rcases serve_world board.world fate (.checkpoint key slot) with refused | made
  · rw [refused]
    exact inv
  · rw [made]
    have rewritten := set_claim_rewrite board.world key
      (fun claim => { claim with status := some (checkpointed claim.status slot) }) fun _ => rfl
    apply claims_retains base inv rewritten.toClaimStep (fun _ => id) rfl
    · intro claim member here uid snapshot pending held found
      obtain ⟨old, _, _, rfl⟩ := rewritten.members claim member here
      have same : slot = held := some.inj found
      have named := all_eq_true.mp spared _ pending.there
      simp only [pending.its, pending.placed, bne_self_eq_false, Bool.not_true, Bool.false_or, beq_iff_eq] at named
      rw [named, same]
    · intro claim member here ready
      obtain ⟨old, _, _, rfl⟩ := rewritten.members claim member here
      cases ready
    · rintro version rfl running
      have hold : ClaimHold board.world version .leaving := inv.holds _ _ _ running
      obtain ⟨claim, member, named, finalized, gone, same⟩ := hold.leaving rfl
      refine ⟨_, rewritten.present claim member named finalized, named, finalized, gone, ?_⟩
      intro chosen held
      have recorded := same chosen held
      have kept := all_eq_true.mp undisturbed claim member
      simp only [named, recorded, bne_self_eq_false, Bool.false_or, all_some, beq_iff_eq] at kept
      rw [kept]
      rfl

theorem late_status_retains (fate : PoolFate) (key : ClaimKey) (slot : Slot) :
    Retains { board with world := (servePool board.world fate (.sharedStatus key (checkpointStatus slot))).2 } := by
  rcases serve_world board.world fate (.sharedStatus key (checkpointStatus slot)) with refused | made
  · rw [refused]
    exact inv
  · rw [made]
    have rewritten := set_shared_rewrite board.world key
      (fun sd => { sd with status := some (checkpointStatus slot) }) fun _ => rfl
    exact shared_retains base inv rewritten.toSharedStep rfl rfl

end Moves

variable {mark : PoolMark} {world : PoolWorld} {job : PoolJob} {snapshot : RetainedClaim} {slot : Slot}
  {version : ResourceClaim} {uid : Nat}

theorem unread_start (world : PoolWorld) (job : PoolJob) (start : mark.stage = 0) :
    Unread world job mark := by
  intro _ _ _ _ _ _ _ _ _
  rw [start]
  exact Nat.zero_lt_succ 1

theorem unread_sighted (sight : Sighting)
    (unread : Unread world job mark) : Unread world job (mark.sighted sight) := by
  cases mark with
  | pinned before => exact unread_start world job rfl
  | _ => exact unread

theorem unread_read {stage : Nat} {clean : Slot → Bool}
    (honest : stage = 1 → ∀ slot, clean slot = true → ∀ entry ∈ world.retained, entry.2.slot = some slot →
      job.holder.owner = .claim entry.2.claimRef)
    (unread : Unread world job mark) : Unread world job (mark.read stage clean) := by
  cases mark with
  | holding slot reached sure =>
    simp only [PoolMark.read]
    split
    · rename_i same
      subst same
      split
      · rename_i found
        intro uid snapshot held there named placed same recorded different
        cases some.inj same
        have before : reached < 2 := unread uid snapshot slot there named placed rfl recorded different
        by_contra beyond
        have second : reached = 1 := by
          change ¬reached + 1 < 2 at beyond
          omega
        exact different (honest second slot found _ there named)
      · exact unread_start world job rfl
    · exact unread
  | _ => exact unread

theorem hold_idle (world : PoolWorld) (mark reached : PoolMark) (hold : Hold world job mark)
    (idle : reached = .idle ∨ reached = .reclaimed) : Hold world job reached := by
  cases job with
  | claim version =>
    rcases idle with rfl | rfl <;> exact
      { classed := nofun
        sighted := nofun
        sure := nofun
        readied := nofun
        leaving := nofun }
  | shared version => trivial
  | retained uid snapshot now =>
    refine ⟨hold.clock, ?_⟩
    rintro rfl
    rcases idle with same | same
    · cases same
    · cases same

theorem hold_read (stage : Nat) (clean : Slot → Bool) (hold : Hold world job mark) : Hold world job (mark.read stage clean) := by
  cases mark with
  | holding slot reached sure =>
    have alike : ∀ other : PoolMark, other.sure = sure → other.choosing = false → other ≠ .leaving → other ≠ .stale →
        (∀ held, other ≠ .readied held) → Hold world job other := by
      intro other same unchosen unleaving fresh unready
      cases job with
      | claim version =>
        refine ⟨?_, ?_, ?_, fun held same => absurd same (unready held), fun same => absurd same unleaving⟩
        · intro choosing
          rw [unchosen] at choosing
          cases choosing
        · rintro sight rfl
          cases unchosen
        · intro known
          exact hold.sure (same ▸ known)
      | shared version => trivial
      | retained uid snapshot now => exact ⟨hold.clock, fun same => absurd same fresh⟩
    have clashing := alike (.clashing slot sure) rfl rfl (fun same => by cases same) (fun same => by cases same)
      fun _ same => by cases same
    have further := alike (.holding slot (stage + 1) sure) rfl rfl (fun same => by cases same)
      (fun same => by cases same) fun _ same => by cases same
    simp only [PoolMark.read]
    split
    · split
      · exact further
      · exact clashing
    · exact hold
  | _ => exact hold


theorem retained_slot_parts (held : snapshot.slot = some slot) : snapshot.inst = some slot.1 ∧ snapshot.dbnum = some slot.2 := by
  obtain ⟨inst, placed, numbered⟩ := bind_eq_some_iff.mp held
  obtain ⟨n, number, rfl⟩ := map_eq_some_iff.mp numbered
  exact ⟨placed, number⟩

theorem placed_slot (placed : snapshot.onPersistent = true) : ∃ n, snapshot.slot = some (persistentInstance, n) := by
  obtain ⟨⟨inst, n⟩, held, here⟩ := any_eq_true _ _ |>.mp placed
  have same : inst = persistentInstance := eq_of_beq here
  exact ⟨n, same ▸ held⟩

section Names

variable {world : PoolWorld} (sound : RetainedSound world) {key : ClaimKey} {uid : Nat} {snapshot : RetainedClaim}
  (pending : Pending world key uid snapshot)

include sound pending

theorem pending_named {entry : Nat × RetainedClaim} (member : entry ∈ world.retained) (named : entry.2.name = k8sName key) :
    entry = (uid, snapshot) := by
  apply sound.unique entry member _ pending.there
  rw [named, sound.named _ pending.there, pending.its]

theorem pending_found : ((world.retained.find? fun entry => entry.2.name == k8sName key).map Prod.snd) = some snapshot := by
  cases found : world.retained.find? fun entry => entry.2.name == k8sName key with
  | none =>
    have absent := find?_eq_none.mp found _ pending.there
    rw [sound.named _ pending.there, pending.its] at absent
    exact absurd (beq_self_eq_true _) absent
  | some entry =>
    have chosen := find?_some found
    have named : entry.2.name = k8sName key := eq_of_beq chosen
    rw [pending_named sound pending (mem_of_find?_eq_some found) named]
    rfl

theorem pending_own {version : ResourceClaim} (same : version.key = key) :
    ∃ n, snapshot.slot = some (persistentInstance, n) ∧
      ownSnapshot version (world.retained.map Prod.snd) persistentInstance = some n := by
  obtain ⟨n, held⟩ := placed_slot pending.placed
  obtain ⟨placed, number⟩ := retained_slot_parts held
  refine ⟨n, held, ?_⟩
  unfold ownSnapshot
  cases found : (world.retained.map Prod.snd).find? fun entry =>
      entry.name == k8sName version.key && entry.inst == some persistentInstance with
  | none =>
    have absent := find?_eq_none.mp found snapshot (mem_map_of_mem pending.there)
    have named : snapshot.name = k8sName version.key := by rw [sound.named _ pending.there, pending.its, same]
    simp [named, placed] at absent
  | some other =>
    have member := mem_of_find?_eq_some found
    have chosen := find?_some found
    have named : other.name = k8sName version.key := eq_of_beq ((Bool.and_eq_true _ _).mp chosen).1
    obtain ⟨entry, listed, rfl⟩ := mem_map.mp member
    rw [pending_named sound pending listed (named.trans (by rw [same]))]
    exact number

end Names

theorem hold_sighted {sight : Sighting} (hold : Hold world job mark)
    (sees : ∀ version, job = .claim version → ∀ uid snapshot, Pending world version.key uid snapshot →
      (∀ slot, sight.bare slot = true → snapshot.slot ≠ some slot) ∧
      ∀ slot, sight.fits slot = true → slot.1 = persistentInstance → snapshot.slot = some slot) :
    Hold world job (mark.sighted sight) := by
  cases mark with
  | pinned before =>
    cases job with
    | claim version =>
      exact
        { classed := fun _ => hold.classed rfl
          sighted := fun seen same => by cases same; exact sees version rfl
          sure := nofun
          readied := nofun
          leaving := nofun }
    | shared version => trivial
    | retained uid snapshot now => exact ⟨hold.clock, nofun⟩
  | _ => exact hold

theorem get_sees (sound : RetainedSound world) (pending : Pending world version.key uid snapshot)
    (bare : (((world.retained.find? fun entry => entry.2.name == k8sName version.key).map Prod.snd).all
      fun snapshot => snapshot.slot != some slot) = true) : snapshot.slot ≠ some slot := by
  rw [pending_found sound pending] at bare
  exact bne_iff_ne.mp bare

theorem list_sees (sound : RetainedSound world) (pending : Pending world version.key uid snapshot) :
    (∀ slot, (listSighting (.claim version) (world.retained.map Prod.snd)).bare slot = true → snapshot.slot ≠ some slot) ∧
    ∀ slot, (listSighting (.claim version) (world.retained.map Prod.snd)).fits slot = true → slot.1 = persistentInstance →
      snapshot.slot = some slot := by
  constructor
  · intro slot bare
    exact bne_iff_ne.mp (all_eq_true.mp bare snapshot (mem_map_of_mem pending.there))
  · rintro ⟨inst, n⟩ fits rfl
    obtain ⟨number, held, own⟩ := pending_own sound pending rfl
    change ((ownSnapshot version (world.retained.map Prod.snd) persistentInstance).all fun m => m == n) = true at fits
    rw [own] at fits
    rw [held, eq_of_beq (show (number == n) = true from fits)]

theorem mark_retains (board : PoolBoard) (inv : Retains board) (job : PoolJob) (reached : PoolMark) (unread : Unread board.world job reached) (hold : Hold board.world job reached) :
    Retains { board with mark := Function.update board.mark job.key (some (job, reached)) } := by
  apply set_retains board inv
  intro next other same
  cases same
  exact ⟨unread, hold⟩

section Serves

variable (board : PoolBoard) (base : PoolInv board) (inv : Retains board) (job : PoolJob) (mark : PoolMark)
  (running : board.mark job.key = some (job, mark)) (fate : PoolFate)

include inv running

theorem still_retains : Retains { board with mark := Function.update board.mark job.key (some (job, mark)) } :=
  mark_retains board inv job mark (inv.unread _ _ _ running) (inv.holds _ _ _ running)

theorem read_retains {stage : Nat} {clean : Slot → Bool}
    (honest : stage = 1 → ∀ slot, clean slot = true → ∀ entry ∈ board.world.retained, entry.2.slot = some slot →
      job.holder.owner = .claim entry.2.claimRef) :
    Retains { board with mark := Function.update board.mark job.key (some (job, mark.read stage clean)) } := by
  apply mark_retains board inv job
  · exact unread_read honest (inv.unread _ _ _ running)
  · exact hold_read stage clean (inv.holds _ _ _ running)

end Serves

end AppRafter.Provisioner
