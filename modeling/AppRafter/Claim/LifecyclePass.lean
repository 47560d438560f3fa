import AppRafter.Claim.LifecycleInvariant

set_option autoImplicit false

namespace AppRafter.Claim

open Lib Option
open Provisioner (ClaimKey k8sName)

section Record

variable {Instant : Type}

theorem read_sent (log : List Write) (write : Write) (field : Field) (value : Value) (sent : write.body field = some value) :
    (statusAfter (write :: log)).live field = some value :=
  Applied.apply_sent (statusAfter log) write.manager _ sent

theorem provisioned_recorded (key : ClaimKey) (c : LiveClaim Instant) {v : ResourceClaim Instant} {p : ServiceProvider}
    {path : Path} {slot : Option (String × Nat)} (reason message now pvcRef : String) (sample : Option VolumeSample)
    {backing : Backing} (on : backingOn v p path slot = some backing) :
    AsRecorded key { c with
        writes := readyWrite v "True" reason message now (terminalFields v path slot pvcRef sample) :: c.writes
        held := some backing } := by
  intro same held
  cases held
  have sent := read_sent c.writes (readyWrite v "True" reason message now (terminalFields v path slot pvcRef sample))
  have ready := sent .ready (.flag true) rfl
  refine ⟨by simp only [readStatus, ready]; rfl, ?_⟩
  cases path with
  | bind => cases on
  | sharedDisk => cases on
  | cloudnativepg =>
    cases on
    trivial
  | nats =>
    obtain ⟨view, _, rfl⟩ := map_eq_some_iff.mp on
    trivial
  | dragonfly =>
    obtain ⟨allocated, rfl, rfl⟩ := map_eq_some_iff.mp on
    have inst := sent .inst (.text allocated.1) rfl
    have dbnum := sent .dbnum (.number allocated.2) rfl
    simp only [recorded, ResourceClaim.allocation, LiveClaim.object, readStatus, bind_some, inst, dbnum,
      Value.asText, Value.asNumber, Int.toNat_natCast]
  | disk =>
    cases on
    have pointed := sent .volumeClaimRef (.text (k8sName v.key)) rfl
    have named := k8s_name_named v.key
    simp only [recorded, ResourceClaim.volumeClaimRef, LiveClaim.object, readStatus, bind_some, pointed,
      Value.asText, filter_some, named, ne_eq, not_false_eq_true, decide_true, if_true, getD_some]

end Record

section Kept

variable {Instant : Type} {key : ClaimKey} {s : State Instant} (inv : Inv key s) {snapshot : Option RetainedClaim}

include inv

variable {stage : Stage Instant}

theorem inv_stage (underway : Underway key { s with snapshot := snapshot } stage) :
    Inv key { s with snapshot := snapshot, stage := stage } :=
  { inv with underway := by cases stage <;> exact underway }

theorem inv_claim {d : LiveClaim Instant} (finalizer : d.finalizer = true)
    (known : AsRecorded key d) (underway : Underway key { s with claim := some d, snapshot := snapshot } stage) :
    Inv key { s with claim := some d, snapshot := snapshot, stage := stage } where
  asRecorded c now := some.inj now ▸ known
  loose c now loose := by
    rw [← some.inj now, finalizer] at loose
    cases loose
  underway := by cases stage <;> exact underway
  scheduler := inv.scheduler
  described := inv.described

end Kept

section Writes

variable {Instant : Type} {key : ClaimKey} {s : State Instant} (inv : Inv key s) (snapshot : Option RetainedClaim)

include inv

theorem inv_patched (unprovisioned : Unprovisioned s) {write : Write} {held : Option Backing} {next : Stage Instant}
    (known : ∀ (c : LiveClaim Instant) (backing : Backing), held = some backing →
      AsRecorded key { c with writes := write :: c.writes, held := some backing })
    (underway : ∀ t, (held = none → Unprovisioned t) → Underway key t next) :
    Inv key (({ s with snapshot := snapshot } : State Instant).patchStatus write held next) := by
  obtain ⟨c, claim, finalizer, empty⟩ := unprovisioned
  simp only [State.patchStatus, claim]
  refine inv_claim inv finalizer ?_ (underway _ fun none => ⟨_, rfl, finalizer, by rw [none, empty]; rfl⟩)
  cases held with
  | none =>
    intro backing held
    rw [empty] at held
    cases held
  | some backing => exact known c backing rfl

theorem inv_answered (unprovisioned : Unprovisioned s) (write : Write) :
    Inv key (({ s with snapshot := snapshot } : State Instant).patchStatus write none .idle) :=
  inv_patched inv snapshot unprovisioned (fun c backing none => by cases none) fun _ _ => trivial

theorem inv_conflicted (unprovisioned : Unprovisioned s) (v : ResourceClaim Instant) (inst : String) (dbnum : Nat)
    (reattached : Bool) (message now : String) : Inv key (s.conflicted v inst dbnum reattached message now) := by
  rw [State.conflicted]
  split
  · exact inv_answered inv s.snapshot unprovisioned _
  · split
    · exact inv_answered inv none unprovisioned _
    · exact inv_answered inv s.snapshot unprovisioned _

theorem inv_provisioned (unprovisioned : Unprovisioned s) (v : ResourceClaim Instant) (p : ServiceProvider) (path : Path)
    (slot : Option (String × Nat)) (message now pvcRef : String) (sample : Option VolumeSample) :
    Inv key (s.provisioned v p path slot message now pvcRef sample) := by
  refine inv_patched inv s.snapshot unprovisioned ?_ ?_
  · exact fun c backing on => provisioned_recorded key c _ message now pvcRef sample on
  · intro t _
    split <;> trivial

end Writes

section Begin

variable {Instant : Type} (key : ClaimKey) {s : State Instant}

theorem gate_underway (v : ResourceClaim Instant) (unprovisioned : Unprovisioned s) : Underway key s (gate v) := by
  rw [gate]
  split
  · exact unprovisioned
  · trivial

variable {c : LiveClaim Instant}

theorem ready_not_gated (ready : (readStatus c.writes).ready = some true) : gate (c.object key) = .idle := by
  refine if_neg (Bool.eq_false_iff.mp ?_)
  simp only [LiveClaim.object, getD_some, shouldProvision, ready, if_true]

theorem accountable_for {action : Action Instant} (meets : accountable key s action = true)
    (claim : s.claim = some c) {backing : Backing} (held : c.held = some backing) : accounts key s action backing = true := by
  rw [accountable, claim, bind_some, held] at meets
  exact meets

theorem inv_begun (inv : Inv key s) (claim : s.claim = some c) (stage : s.stage = .idle)
    (meets : accountable key s .begin = true) : Inv key (s.begun key c) := by
  rw [State.begun]
  split
  · rename_i deleting
    split
    · rename_i finalizer
      split
      · rename_i shared
        refine inv_stage inv ⟨c, claim, finalizer, deleting, ?_⟩
        intro backing held
        have holds := accountable_for key meets claim held
        simp only [accounts, stage, claim, any_some, deleting, finalizer, shared, Bool.and_self, Bool.not_true,
          Bool.or_false] at holds
        exact (any_eq_true _ _).mp holds
      · exact inv_stage inv ⟨rfl, c, claim, finalizer, deleting, fun backing held => (inv.asRecorded c claim backing held).2⟩
    · exact inv
  · rename_i living
    split
    · rename_i finalizer
      refine inv_stage inv ?_
      cases held : c.held with
      | none => exact gate_underway key _ ⟨c, claim, finalizer, held⟩
      | some backing =>
        rw [ready_not_gated key (inv.asRecorded c claim backing held).1]
        trivial
    · rename_i loose
      refine inv_stage inv ?_
      intro d same
      obtain rfl := some.inj (claim.symm.trans same)
      exact inv.loose c claim (eq_false_of_ne_true loose) (eq_false_of_ne_true living)

end Begin

section Snapshot

variable {Instant : Type} {key : ClaimKey} {s : State Instant} {provider : Option ServiceProvider} {payload : RetainedClaim}

theorem served_payload {claim : ResourceClaim Instant} (retainUntil : String)
    {backing : Backing} (served : serves claim provider backing = true) : snapshotPayload claim provider retainUntil ≠ none := by
  obtain ⟨p, rfl, placed⟩ := (any_eq_true _ _).mp served
  have same : p.backend = backing.backend := eq_of_beq (Bool.and_eq_true_iff.mp placed).1
  rw [snapshotPayload, map_some, same]
  cases backing <;> exact some_ne_none _

theorem holds_back_mono {t : State Instant} (claim : t.claim = s.claim) {fact other : Backing → Prop} (back : HoldsBack s fact)
    (implies : ∀ c backing, s.claim = some c → c.held = some backing → fact backing → other backing) : HoldsBack t other := by
  obtain ⟨c, before, finalizer, deletion, holds⟩ := back
  exact ⟨c, claim.trans before, finalizer, deletion, fun backing held => implies c backing before held (holds backing held)⟩

theorem snapshot_read_kept (v : ResourceClaim Instant) (provider : Option ServiceProvider) (retainUntil : String)
    (there : s.snapshot.isSome = true) : s.snapshotRead v provider retainUntil = { s with stage := .releasing } := by
  rw [State.snapshotRead]
  split
  · rfl
  · exact if_pos there

theorem inv_snapshot_read (inv : Inv key s) {v : ResourceClaim Instant} {now : Instant}
    (retainUntil : String) (stage : s.stage = .found v provider) (meets : accountable key s (.getSnapshot now) = true) :
    Inv key (s.snapshotRead v provider retainUntil) := by
  have underway := inv.underway
  rw [stage] at underway
  obtain ⟨own, back⟩ := underway
  have held : ∀ c backing, s.claim = some c → c.held = some backing →
      (if s.snapshot.isSome then s.snapshot.any fun rc => describes key rc.spec backing else serves v provider backing) = true := by
    intro c backing claim held
    have holds := accountable_for key meets claim held
    simpa only [accounts, stage] using holds
  cases there : s.snapshot with
  | some rc =>
    rw [snapshot_read_kept v provider retainUntil (isSome_of_eq_some there)]
    refine inv_stage inv (holds_back_mono rfl back ?_)
    intro c backing claim kept _
    have described := held c backing claim kept
    rw [if_pos (isSome_of_eq_some there)] at described
    exact (any_eq_true _ _).mp described
  | none =>
    have served : ∀ c backing, s.claim = some c → c.held = some backing → serves v provider backing = true := by
      intro c backing claim kept
      have served := held c backing claim kept
      rw [if_neg (by rw [there]; exact Bool.false_ne_true)] at served
      exact served
    rw [State.snapshotRead]
    split
    · rename_i unshaped
      refine inv_stage inv (holds_back_mono rfl back ?_)
      intro c backing claim kept _
      exact absurd unshaped (served_payload retainUntil (served c backing claim kept))
    · rename_i payload taken
      rw [if_neg (by rw [there]; exact Bool.false_ne_true)]
      refine inv_stage inv ⟨there, holds_back_mono rfl back ?_⟩
      intro c backing claim kept known
      rw [← own]
      exact (payload_describes_iff taken known).mpr (served c backing claim kept)

theorem inv_created (inv : Inv key s) (stage : s.stage = .absent payload) :
    Inv key { s with snapshot := some (s.snapshot.getD payload), stage := .releasing } := by
  have underway := inv.underway
  rw [stage] at underway
  obtain ⟨absent, back⟩ := underway
  refine inv_stage inv (holds_back_mono rfl back ?_)
  intro c backing claim held described
  exact ⟨payload, by rw [absent]; rfl, described⟩

theorem inv_refused (inv : Inv key s) (stage : s.stage = .absent payload)
    (meets : accountable key s (.createSnapshot .refused) = true) : Inv key { s with stage := .releasing } := by
  have underway := inv.underway
  rw [stage] at underway
  refine inv_stage inv (holds_back_mono rfl underway.2 ?_)
  intro c backing claim held described
  have holds := accountable_for key meets claim held
  simp only [accounts, stage] at holds
  cases holds

theorem inv_unfinalized (inv : Inv key s) (stage : s.stage = .releasing) : Inv key s.unfinalized := by
  have underway := inv.underway
  rw [stage] at underway
  obtain ⟨c, claim, finalizer, deletion, described⟩ := underway
  simp only [State.unfinalized, claim]
  constructor
  · intro d now backing held
    cases now
    exact inv.asRecorded c claim backing held
  · intro d now _ living
    cases now
    rw [deletion] at living
    cases living
  · trivial
  · exact inv.scheduler
  · intro entry member backing held
    cases List.mem_cons.mp member with
    | inl newest =>
      subst newest
      exact described backing held
    | inr earlier => exact inv.described entry earlier backing held

end Snapshot

variable {chrono : Chrono} {key : ClaimKey} {s t : State chrono.Instant} {action : Action chrono.Instant}

theorem provisioner_keeps (inv : Inv key s) (meets : accountable key s action = true)
    (taken : provisionerStep chrono key s action = some t) : Inv key t := by
  have underway := inv.underway
  unfold provisionerStep at taken
  split at taken
  · rename_i stage
    obtain ⟨c, claim, rfl⟩ := map_eq_some_iff.mp taken
    exact inv_begun key inv claim stage meets
  · rename_i v stage
    rw [stage] at underway
    split at taken
    · rename_i c claim
      cases taken
      have empty : c.held = none := underway c claim
      refine inv_claim inv rfl ?_ (gate_underway key v ⟨_, rfl, rfl, empty⟩)
      intro backing held
      rw [empty] at held
      cases held
    · cases taken
      exact inv_stage inv trivial
  · rename_i v stage
    rw [stage] at underway
    split at taken
    · cases taken
      exact inv_stage inv underway
    · cases taken
      exact inv_stage inv trivial
  · rename_i fresh v p stage
    rw [stage] at underway
    cases taken
    exact inv_patched inv s.snapshot underway (fun c backing none => by cases none) fun t unprovisioned =>
      unprovisioned rfl
  · rename_i stage
    rw [stage] at underway
    cases taken
    exact inv_conflicted inv underway _ _ _ _ _ _
  · rename_i stage
    rw [stage] at underway
    split at taken
    · cases taken
    · cases taken
      exact inv_answered inv s.snapshot underway _
  · rename_i stage
    rw [stage] at underway
    split at taken
    · cases taken
    · cases taken
      exact inv_provisioned inv underway _ _ _ _ _ _ _ _
  · rename_i stage
    rw [stage] at underway
    cases taken
    exact inv_provisioned inv underway _ _ _ _ _ _ _ _
  · cases taken
    exact inv_stage inv trivial
  · rename_i v stage
    rw [stage] at underway
    cases taken
    exact inv_stage inv underway
  · rename_i now v provider stage
    cases taken
    exact inv_snapshot_read inv _ stage meets
  · rename_i answer payload stage
    cases answer with
    | done =>
      cases taken
      exact inv_created inv stage
    | refused =>
      cases taken
      exact inv_refused inv stage meets
    | failed =>
      cases taken
      exact inv_stage inv trivial
  · rename_i stage
    cases taken
    exact inv_unfinalized inv stage
  · cases taken
    exact inv_stage inv trivial
  · cases taken

end AppRafter.Claim
