import AppRafter.Claim.Lifecycle

set_option autoImplicit false

namespace AppRafter.Claim

open Lib Option
open Provisioner (ClaimKey k8sName)

-- The same claim later, with the same backing and the same record of it.
structure SameReading {Instant : Type} (c d : LiveClaim Instant) : Prop where
  held : d.held = c.held
  finalizer : d.finalizer = c.finalizer
  deletion : c.deletionTimestamp.isSome = true → d.deletionTimestamp.isSome = true
  ready : (readStatus d.writes).ready = (readStatus c.writes).ready
  inst : (readStatus d.writes).inst = (readStatus c.writes).inst
  dbnum : (readStatus d.writes).dbnum = (readStatus c.writes).dbnum
  volumeClaimRef : (readStatus d.writes).volumeClaimRef = (readStatus c.writes).volumeClaimRef

section Definitions

variable {Instant : Type} (key : ClaimKey)

def AsRecorded (c : LiveClaim Instant) : Prop :=
  ∀ backing, c.held = some backing → (readStatus c.writes).ready = some true ∧ recorded (c.object key) backing

def HoldsBack (s : State Instant) (fact : Backing → Prop) : Prop :=
  ∃ c, s.claim = some c ∧ c.finalizer = true ∧ c.deletionTimestamp.isSome = true ∧ ∀ backing, c.held = some backing → fact backing

def Unprovisioned (s : State Instant) : Prop := ∃ c, s.claim = some c ∧ c.finalizer = true ∧ c.held = none

def Underway (s : State Instant) : Stage Instant → Prop
  | .finalizing _ => ∀ c, s.claim = some c → c.held = none
  | .gated _ => Unprovisioned s
  | .provisioning _ _ _ => Unprovisioned s
  | .allocated _ _ _ _ _ => Unprovisioned s
  | .deleting v => v.key = key ∧ HoldsBack s fun backing => recorded v backing
  | .found v _ => v.key = key ∧ HoldsBack s fun backing => recorded v backing
  | .absent payload => s.snapshot = none ∧ HoldsBack s fun backing => describes key payload.spec backing = true
  | .releasing =>
    HoldsBack s fun backing => ∃ snapshot, s.snapshot = some snapshot ∧ describes key snapshot.spec backing = true
  | _ => True

structure Inv (s : State Instant) : Prop where
  asRecorded : ∀ c, s.claim = some c → AsRecorded key c
  loose : ∀ c, s.claim = some c → c.finalizer = false → c.deletionTimestamp.isSome = false → c.held = none
  underway : Underway key s s.stage
  scheduler : ∀ write, s.scheduler = .decided write → write.manager = schedulerManager
  described : Described key s

end Definitions

section Carried

variable {Instant : Type} {key : ClaimKey}

theorem same_recorded {c d : LiveClaim Instant} (same : SameReading c d) {backing : Backing}
    (known : recorded (c.object key) backing) : recorded (d.object key) backing := by
  cases backing with
  | cnpg cluster ns => trivial
  | nats ns app streams consumers => trivial
  | dragonfly inst dbnum =>
    have slot : (c.object key).allocation = some (inst, dbnum) := known
    change (d.object key).allocation = some (inst, dbnum)
    rw [← slot]
    simp only [ResourceClaim.allocation, LiveClaim.object, bind_some, same.inst, same.dbnum]
  | disk pvc =>
    have pointed : (c.object key).volumeClaimRef = pvc := known
    change (d.object key).volumeClaimRef = pvc
    rw [← pointed]
    simp only [ResourceClaim.volumeClaimRef, LiveClaim.object, bind_some, same.volumeClaimRef]

theorem same_as_recorded {c d : LiveClaim Instant} (same : SameReading c d) (known : AsRecorded key c) : AsRecorded key d := by
  intro backing held
  rw [same.held] at held
  obtain ⟨ready, at_⟩ := known backing held
  exact ⟨same.ready.trans ready, same_recorded same at_⟩

theorem foreign_write_same (c : LiveClaim Instant) {write : Write} (other : write.manager ≠ fieldManager) :
    SameReading c { c with writes := write :: c.writes } := by
  have kept := provisioner_field_kept c.writes write other
  have ready := kept .ready (by decide)
  have inst := kept .inst (by decide)
  have dbnum := kept .dbnum (by decide)
  have volumeClaimRef := kept .volumeClaimRef (by decide)
  constructor
  · rfl
  · rfl
  · exact id
  · simp only [readStatus, ready]
  · simp only [readStatus, inst]
  · simp only [readStatus, dbnum]
  · simp only [readStatus, volumeClaimRef]

-- A claim is the one that was, or new; one held by the finalizer stays.
structure Carried (s t : State Instant) : Prop where
  stage : t.stage = s.stage
  snapshot : t.snapshot = s.snapshot
  released : t.released = s.released
  claim : ∀ d, t.claim = some d → d.held = none ∨ ∃ c, s.claim = some c ∧ SameReading c d
  bound : ∀ c, s.claim = some c → c.finalizer = true → ∃ d, t.claim = some d ∧ SameReading c d

variable {s t : State Instant} (carried : Carried s t)

include carried

theorem holds_back_carried {fact : Backing → Prop} (back : HoldsBack s fact) : HoldsBack t fact := by
  obtain ⟨c, claim, finalizer, deletion, holds⟩ := back
  obtain ⟨d, kept, same⟩ := carried.bound c claim finalizer
  exact ⟨d, kept, same.finalizer.trans finalizer, same.deletion deletion, fun backing held => holds backing (same.held ▸ held)⟩

theorem unprovisioned_carried (unprovisioned : Unprovisioned s) : Unprovisioned t := by
  obtain ⟨c, claim, finalizer, none⟩ := unprovisioned
  obtain ⟨d, kept, same⟩ := carried.bound c claim finalizer
  exact ⟨d, kept, same.finalizer.trans finalizer, same.held.trans none⟩

theorem underway_carried {stage : Stage Instant} (underway : Underway key s stage) : Underway key t stage := by
  cases stage with
  | finalizing v =>
    intro d claim
    cases carried.claim d claim with
    | inl none => exact none
    | inr old =>
      obtain ⟨c, before, same⟩ := old
      exact same.held.trans (underway c before)
  | gated | provisioning | allocated => exact unprovisioned_carried carried underway
  | deleting | found => exact ⟨underway.1, holds_back_carried carried underway.2⟩
  | absent payload => exact ⟨carried.snapshot.trans underway.1, holds_back_carried carried underway.2⟩
  | releasing =>
    have back : HoldsBack s fun backing =>
        ∃ snapshot, t.snapshot = some snapshot ∧ describes key snapshot.spec backing = true := carried.snapshot ▸ underway
    exact holds_back_carried carried back
  | _ => trivial

theorem inv_carried (inv : Inv key s) (scheduler : ∀ write, t.scheduler = .decided write → write.manager = schedulerManager) :
    Inv key t where
  asRecorded d claim := by
    cases carried.claim d claim with
    | inl none =>
      intro backing held
      rw [none] at held
      cases held
    | inr old =>
      obtain ⟨c, before, same⟩ := old
      exact same_as_recorded same (inv.asRecorded c before)
  loose d claim finalizer deletion := by
    cases carried.claim d claim with
    | inl none => exact none
    | inr old =>
      obtain ⟨c, before, same⟩ := old
      refine same.held.trans (inv.loose c before (same.finalizer ▸ finalizer) (eq_false_of_ne_true fun deleting => ?_))
      rw [same.deletion deleting] at deletion
      cases deletion
  underway := by
    rw [carried.stage]
    exact underway_carried carried inv.underway
  scheduler := scheduler
  described entry member := inv.described entry (carried.released ▸ member)

end Carried

section Outside

variable {Instant : Type} {s : State Instant}

theorem same_reading_refl (c : LiveClaim Instant) : SameReading c c := ⟨rfl, rfl, id, rfl, rfl, rfl, rfl⟩

theorem carried_claim {t : State Instant} (stage : t.stage = s.stage) (snapshot : t.snapshot = s.snapshot)
    (released : t.released = s.released) (claim : t.claim = s.claim) : Carried s t where
  stage := stage
  snapshot := snapshot
  released := released
  claim d now := .inr ⟨d, claim ▸ now, same_reading_refl d⟩
  bound c before _ := ⟨c, claim.trans before, same_reading_refl c⟩

theorem carried_update {c d : LiveClaim Instant} (before : s.claim = some c) (same : SameReading c d) :
    Carried s { s with claim := some d } where
  stage := rfl
  snapshot := rfl
  released := rfl
  claim e now := .inr ⟨c, before, some.inj now ▸ same⟩
  bound e now _ := by
    obtain rfl := some.inj (before.symm.trans now)
    exact ⟨d, rfl, same⟩

theorem carried_gone (loose : ∀ c, s.claim = some c → c.finalizer = false) {d : Option (LiveClaim Instant)}
    (fresh : ∀ c, d = some c → c.held = none) : Carried s { s with claim := d } where
  stage := rfl
  snapshot := rfl
  released := rfl
  claim c now := .inl (fresh c now)
  bound c before finalizer := by
    rw [loose c before] at finalizer
    cases finalizer

variable {write : Write}

theorem size_foreign (sized : write.manager = sizeFieldManager) : write.manager ≠ fieldManager := by
  rw [sized]
  decide

theorem scheduler_foreign (scheduled : write.manager = schedulerManager) : write.manager ≠ fieldManager := by
  rw [scheduled]
  decide

end Outside

variable {chrono : Chrono} {s t : State chrono.Instant} {action : Action chrono.Instant}

theorem outside_carried (taken : outsideStep chrono s action = some t) : Carried s t ∧ t.scheduler = s.scheduler := by
  cases action with
  | setProviders providers =>
    cases taken
    exact ⟨carried_claim rfl rfl rfl rfl, rfl⟩
  | create spec ownerReferences =>
    simp only [outsideStep] at taken
    split at taken
    · rename_i absent
      cases taken
      refine ⟨carried_gone ?_ ?_, rfl⟩
      · intro c before
        rw [before] at absent
        cases absent
      · intro c now
        cases now
        rfl
    · cases taken
  | delete at_ =>
    obtain ⟨c, before, rfl⟩ := map_eq_some_iff.mp taken
    rw [State.deleted]
    split
    · have same : SameReading c { c with deletionTimestamp := some (c.deletionTimestamp.getD at_) } :=
        ⟨rfl, rfl, fun _ => rfl, rfl, rfl, rfl, rfl⟩
      exact ⟨carried_update before same, rfl⟩
    · rename_i loose
      refine ⟨carried_gone ?_ (fun c now => by cases now), rfl⟩
      intro d same
      obtain rfl := some.inj (before.symm.trans same)
      exact eq_false_of_ne_true loose
  | vanish =>
    obtain ⟨c, before, gone⟩ := bind_eq_some_iff.mp taken
    split at gone
    · rename_i loose
      cases gone
      refine ⟨carried_gone ?_ (fun c now => by cases now), rfl⟩
      intro d same
      obtain rfl := some.inj (before.symm.trans same)
      rw [Bool.and_eq_true, Bool.not_eq_true'] at loose
      exact loose.2
    · cases gone
  | sample write =>
    simp only [outsideStep] at taken
    split at taken
    · rename_i sized
      obtain ⟨c, before, rfl⟩ := map_eq_some_iff.mp taken
      exact ⟨carried_update before (foreign_write_same c (size_foreign sized)), rfl⟩
    · cases taken
  | _ => cases taken

theorem scheduler_carried (decided : ∀ write, s.scheduler = .decided write → write.manager = schedulerManager)
    (taken : schedulerStep chrono s action = some t) :
    Carried s t ∧ ∀ write, t.scheduler = .decided write → write.manager = schedulerManager := by
  unfold schedulerStep at taken
  split at taken
  · obtain ⟨c, before, rfl⟩ := map_eq_some_iff.mp taken
    exact ⟨carried_claim rfl rfl rfl rfl, fun _ same => by cases same⟩
  · cases taken
    refine ⟨carried_claim rfl rfl rfl rfl, ?_⟩
    intro write same
    cases same
    rfl
  · rename_i write stage
    cases taken
    refine ⟨?_, fun _ same => by cases same⟩
    cases before : s.claim with
    | none => exact carried_claim rfl rfl rfl (by rw [State.schedulerPatched, before]; rfl)
    | some c =>
      have same := foreign_write_same c (scheduler_foreign (decided write stage))
      have carried := carried_update before same
      exact ⟨rfl, rfl, rfl, fun d now => carried.claim d (by rw [State.schedulerPatched, before] at now; exact now),
        fun e now bound => by
          rw [State.schedulerPatched, before]
          exact carried.bound e now bound⟩
  · cases taken
    exact ⟨carried_claim rfl rfl rfl rfl, fun _ same => by cases same⟩
  · cases taken

end AppRafter.Claim
