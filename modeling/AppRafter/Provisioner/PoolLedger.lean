import AppRafter.Lib.Reserve
import AppRafter.Provisioner.PoolMonitor

set_option autoImplicit false

namespace AppRafter.Provisioner

open Lib Application List Option

def Holder.rank : Holder → Nat
  | .claim _ => 1
  | .retained _ _ => 2
  | .shared _ => 3

theorem rank_positive (holder : Holder) : 0 < holder.rank := by
  cases holder with
  | claim key => exact Nat.zero_lt_succ 0
  | retained uid key => exact Nat.zero_lt_succ 1
  | shared key => exact Nat.zero_lt_succ 2

theorem rank_top (holder : Holder) : holder.rank ≤ 3 := by
  cases holder with
  | claim key => exact Nat.le_add_left 1 2
  | retained uid key => exact Nat.le_add_left 2 1
  | shared key => exact Nat.le_refl 3

def PoolMark.slot : PoolMark → Option Slot
  | .holding slot _ _ => some slot
  | .clashing slot _ => some slot
  | _ => none

def PoolMark.sure : PoolMark → Bool
  | .holding _ _ sure => sure
  | .clashing _ sure => sure
  | _ => false

def PoolMark.stage : PoolMark → Nat
  | .holding _ stage _ => stage
  | _ => 0

def watchOf (job : PoolJob) (mark : PoolMark) : Option (Holder × Slot × Nat) :=
  mark.slot.map fun slot => (job.holder, slot, mark.stage)

abbrev PoolBoard := Board poolApi PoolWorld PoolKey PoolJob PoolMark

def PoolWorld.ledger (world : PoolWorld) (watch : PoolKey → Option (Holder × Slot × Nat)) : Ledger Holder Slot PoolKey where
  records holder slot := world.records holder slot = true
  proven holder slot := world.proven holder slot = true
  watch := watch

def watches (mark : PoolKey → Option (PoolJob × PoolMark)) (key : PoolKey) : Option (Holder × Slot × Nat) :=
  (mark key).bind fun running => watchOf running.1 running.2

theorem watches_set (mark : PoolKey → Option (PoolJob × PoolMark)) (key : PoolKey) (set : Option (PoolJob × PoolMark)) :
    watches (Function.update mark key set) =
      Function.update (watches mark) key (set.bind fun running => watchOf running.1 running.2) := by
  funext other
  by_cases same : other = key
  · subst same
    rw [watches, Function.update_self, Function.update_self]
  · rw [watches, Function.update_of_ne same, Function.update_of_ne same]
    rfl

variable {holder : Holder} {before : PoolWorld} {key : ClaimKey}

theorem watches_some {mark : PoolKey → Option (PoolJob × PoolMark)} {key : PoolKey} {slot : Slot}
    {stage : Nat} (watched : watches mark key = some (holder, slot, stage)) :
    ∃ job reached, mark key = some (job, reached) ∧ holder = job.holder ∧ reached.slot = some slot ∧ reached.stage = stage := by
  obtain ⟨⟨job, reached⟩, running, watching⟩ := bind_eq_some_iff.mp watched
  obtain ⟨held, known, same⟩ := map_eq_some_iff.mp watching
  obtain ⟨rfl, rfl, rfl⟩ := same
  exact ⟨job, reached, running, rfl, known, rfl⟩

namespace PoolWorld

variable (world : PoolWorld)

theorem claim_records (key : ClaimKey) (slot : Slot) :
    world.records (.claim key) slot = true ↔ ∃ claim ∈ world.claims, claim.key = key ∧ claim.slot = some slot := by
  simp [records]

theorem retained_records (uid : Nat) (key : ClaimKey) (slot : Slot) : world.records (.retained uid key) slot = true ↔
      ∃ snapshot, (uid, snapshot) ∈ world.retained ∧ snapshot.claimRef = key ∧ snapshot.slot = some slot := by
  simp only [records, List.any_eq_true, Bool.and_eq_true, beq_iff_eq]
  constructor
  · rintro ⟨⟨named, snapshot⟩, member, ⟨rfl, of⟩, at_⟩
    exact ⟨snapshot, member, of, at_⟩
  · rintro ⟨snapshot, member, of, at_⟩
    exact ⟨(uid, snapshot), member, ⟨rfl, of⟩, at_⟩

theorem shared_records (key : ClaimKey) (slot : Slot) :
    world.records (.shared key) slot = true ↔ ∃ sd ∈ world.shared, sd.key = key ∧ sd.slot = some slot := by
  simp [records]

theorem settled_proven (holder : Holder) (slot : Slot) :
    world.settled.proven holder slot = true ↔ world.proven holder slot = true ∧ world.records holder slot = true :=
  Bool.and_eq_true_iff

theorem records_claim_only (after : PoolWorld) (key : ClaimKey) (holder : Holder) (slot : Slot)
    (retained : after.retained = world.retained) (shared : after.shared = world.shared)
    (others : ∀ claim : ResourceClaim, claim.key ≠ key → (claim ∈ after.claims ↔ claim ∈ world.claims))
    (other : holder ≠ .claim key) : after.records holder slot = world.records holder slot := by
  cases holder with
  | claim k =>
    rw [Bool.eq_iff_iff, claim_records, claim_records]
    constructor
    · rintro ⟨claim, member, rfl, held⟩
      exact ⟨claim, (others claim fun same => other (congrArg _ same)).mp member, rfl, held⟩
    · rintro ⟨claim, member, rfl, held⟩
      exact ⟨claim, (others claim fun same => other (congrArg _ same)).mpr member, rfl, held⟩
  | retained uid k => simp only [records, retained]
  | shared k => simp only [records, shared]

theorem records_shared_only (after : PoolWorld) (key : ClaimKey) (holder : Holder) (slot : Slot)
    (retained : after.retained = world.retained) (claims : after.claims = world.claims)
    (others : ∀ sd : SharedDatabase, sd.key ≠ key → (sd ∈ after.shared ↔ sd ∈ world.shared))
    (other : holder ≠ .shared key) : after.records holder slot = world.records holder slot := by
  cases holder with
  | claim k => simp only [records, claims]
  | retained uid k => simp only [records, retained]
  | shared k =>
    rw [Bool.eq_iff_iff, shared_records, shared_records]
    constructor
    · rintro ⟨sd, member, rfl, held⟩
      exact ⟨sd, (others sd fun same => other (congrArg _ same)).mp member, rfl, held⟩
    · rintro ⟨sd, member, rfl, held⟩
      exact ⟨sd, (others sd fun same => other (congrArg _ same)).mpr member, rfl, held⟩

end PoolWorld

theorem mem_map_if {α : Type} (items : List α) (here : α → Prop) [DecidablePred here] (update : α → α) (item : α) :
    (item ∈ items.map fun other => if here other then update other else other) ↔
      (item ∈ items ∧ ¬here item) ∨ ∃ old ∈ items, here old ∧ item = update old := by
  rw [List.mem_map]
  constructor
  · rintro ⟨old, member, rfl⟩
    by_cases chosen : here old
    · rw [if_pos chosen]
      exact .inr ⟨old, member, chosen, rfl⟩
    · rw [if_neg chosen]
      exact .inl ⟨member, chosen⟩
  · rintro (⟨member, spared⟩ | ⟨old, member, chosen, rfl⟩)
    · exact ⟨item, member, if_neg spared⟩
    · exact ⟨old, member, if_pos chosen⟩

structure ClaimStep (before after : PoolWorld) (key : ClaimKey) : Prop where
  others : ∀ claim : ResourceClaim, claim.key ≠ key → (claim ∈ after.claims ↔ claim ∈ before.claims)
  retained : after.retained = before.retained
  shared : after.shared = before.shared
  nextUid : after.nextUid = before.nextUid
  seenRetained : after.seenRetained = before.seenRetained
  proven : after.proven = before.proven

structure SharedStep (before after : PoolWorld) (key : ClaimKey) : Prop where
  others : ∀ sd : SharedDatabase, sd.key ≠ key → (sd ∈ after.shared ↔ sd ∈ before.shared)
  retained : after.retained = before.retained
  claims : after.claims = before.claims
  nextUid : after.nextUid = before.nextUid
  seenRetained : after.seenRetained = before.seenRetained
  proven : after.proven = before.proven

theorem claim_step_records {after : PoolWorld} (step : ClaimStep before after key) (slot : Slot) (other : holder ≠ .claim key) :
    after.records holder slot = before.records holder slot :=
  before.records_claim_only after key holder slot step.retained step.shared step.others other

theorem shared_step_records {after : PoolWorld} (step : SharedStep before after key) (slot : Slot) (other : holder ≠ .shared key) :
    after.records holder slot = before.records holder slot :=
  before.records_shared_only after key holder slot step.retained step.claims step.others other

-- None is lost while it has the finalizer.
structure ClaimRewrite (before after : PoolWorld) (key : ClaimKey) (update : ResourceClaim → ResourceClaim) : Prop
    extends ClaimStep before after key where
  keyed : ∀ claim, (update claim).key = claim.key
  members : ∀ claim ∈ after.claims, claim.key = key → ∃ old ∈ before.claims, old.key = key ∧ claim = update old
  present : ∀ old ∈ before.claims, old.key = key → provisionerFinalizer ∈ (update old).finalizers →
    update old ∈ after.claims

structure SharedRewrite (before after : PoolWorld) (key : ClaimKey) (update : SharedDatabase → SharedDatabase) : Prop
    extends SharedStep before after key where
  keyed : ∀ sd, (update sd).key = sd.key
  members : ∀ sd ∈ after.shared, sd.key = key → ∃ old ∈ before.shared, old.key = key ∧ sd = update old
  present : ∀ old ∈ before.shared, old.key = key → sdFinalizer ∈ (update old).finalizers → update old ∈ after.shared

section Steps

variable (world : PoolWorld) (key : ClaimKey)

theorem mem_set_claim (update : ResourceClaim → ResourceClaim) (claim : ResourceClaim) :
    claim ∈ (world.setClaim key update).claims ↔
      (claim ∈ world.claims ∧ claim.key ≠ key) ∨ ∃ old ∈ world.claims, old.key = key ∧ claim = update old :=
  mem_map_if world.claims (fun other => other.key = key) update claim

variable (update : SharedDatabase → SharedDatabase)

theorem mem_set_shared (sd : SharedDatabase) : sd ∈ (world.setShared key update).shared ↔
      (sd ∈ world.shared ∧ sd.key ≠ key) ∨ ∃ old ∈ world.shared, old.key = key ∧ sd = update old :=
  mem_map_if world.shared (fun other => other.key = key) update sd

theorem set_claim_rewrite (update : ResourceClaim → ResourceClaim) (keyed : ∀ claim, (update claim).key = claim.key) :
    ClaimRewrite world (world.setClaim key update) key update where
  others claim other := by
    rw [mem_set_claim]
    constructor
    · rintro (⟨member, _⟩ | ⟨old, _, same, rfl⟩)
      · exact member
      · exact absurd ((keyed old).trans same) other
    · intro member
      exact .inl ⟨member, other⟩
  retained := rfl
  shared := rfl
  nextUid := rfl
  seenRetained := rfl
  proven := rfl
  keyed := keyed
  members claim member same := by
    rcases (mem_set_claim world key update claim).mp member with ⟨_, other⟩ | rewritten
    · exact absurd same other
    · exact rewritten
  present old member same _ := (mem_set_claim world key update _).mpr (.inr ⟨old, member, same, rfl⟩)

theorem set_shared_rewrite (keyed : ∀ sd, (update sd).key = sd.key) :
    SharedRewrite world (world.setShared key update) key update where
  others sd other := by
    rw [mem_set_shared]
    constructor
    · rintro (⟨member, _⟩ | ⟨old, _, same, rfl⟩)
      · exact member
      · exact absurd ((keyed old).trans same) other
    · intro member
      exact .inl ⟨member, other⟩
  retained := rfl
  claims := rfl
  nextUid := rfl
  seenRetained := rfl
  proven := rfl
  keyed := keyed
  members sd member same := by
    rcases (mem_set_shared world key update sd).mp member with ⟨_, other⟩ | rewritten
    · exact absurd same other
    · exact rewritten
  present old member same _ := (mem_set_shared world key update _).mpr (.inr ⟨old, member, same, rfl⟩)

theorem add_claim_step (claim : ResourceClaim) : ClaimStep world { world with claims := world.claims ++ [claim] } claim.key where
  others other different := by
    constructor
    · intro member
      rcases mem_append.mp member with old | new
      · exact old
      · cases mem_singleton.mp new
        exact absurd rfl different
    · exact mem_append_left _
  retained := rfl
  shared := rfl
  nextUid := rfl
  seenRetained := rfl
  proven := rfl

theorem add_shared_step (sd : SharedDatabase) : SharedStep world { world with shared := world.shared ++ [sd] } sd.key where
  others other different := by
    constructor
    · intro member
      rcases mem_append.mp member with old | new
      · exact old
      · cases mem_singleton.mp new
        exact absurd rfl different
    · exact mem_append_left _
  retained := rfl
  claims := rfl
  nextUid := rfl
  seenRetained := rfl
  proven := rfl

theorem finalized_not_gone {finalizers : List String} {finalizer : String} (member : finalizer ∈ finalizers) :
    finalizers.isEmpty = false := by
  cases finalizers with
  | nil => cases member
  | cons first rest => rfl

theorem remove_claim_rewrite (after : PoolWorld) (update : ResourceClaim → ResourceClaim)
    (rewritten : ClaimRewrite world after key update) : ClaimRewrite world (after.removeClaim key) key update where
  others claim other := by
    rw [← rewritten.others claim other, PoolWorld.removeClaim, mem_filter]
    exact and_iff_left (by simp [other])
  retained := rewritten.retained
  shared := rewritten.shared
  nextUid := rewritten.nextUid
  seenRetained := rewritten.seenRetained
  proven := rewritten.proven
  keyed := rewritten.keyed
  members claim member same := rewritten.members claim (mem_of_mem_filter member) same
  present old member same finalized := by
    apply mem_filter.mpr
    refine ⟨rewritten.present old member same finalized, ?_⟩
    simp [claimGone, finalized_not_gone finalized]

theorem remove_shared_rewrite (after : PoolWorld) (update : SharedDatabase → SharedDatabase)
    (rewritten : SharedRewrite world after key update) : SharedRewrite world (after.removeShared key) key update where
  others sd other := by
    rw [← rewritten.others sd other, PoolWorld.removeShared, mem_filter]
    exact and_iff_left (by simp [other])
  retained := rewritten.retained
  claims := rewritten.claims
  nextUid := rewritten.nextUid
  seenRetained := rewritten.seenRetained
  proven := rewritten.proven
  keyed := rewritten.keyed
  members sd member same := rewritten.members sd (mem_of_mem_filter member) same
  present old member same finalized := by
    apply mem_filter.mpr
    refine ⟨rewritten.present old member same finalized, ?_⟩
    simp [sharedGone, finalized_not_gone finalized]

end Steps

end AppRafter.Provisioner
