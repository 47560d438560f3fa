import AppRafter.Claim.LifecyclePass

set_option autoImplicit false

namespace AppRafter.Claim

open Lib Option
open Application (ResourceClaimSpec)
open Provisioner (ClaimKey)

def entryDescribed (key : ClaimKey) (entry : Option Backing × Option RetainedClaim) : Bool :=
  entry.1.all fun backing => entry.2.any fun snapshot => describes key snapshot.spec backing

theorem entry_described_iff (key : ClaimKey) (entry : Option Backing × Option RetainedClaim) : entryDescribed key entry = true ↔
      ∀ backing, entry.1 = some backing → ∃ snapshot, entry.2 = some snapshot ∧ describes key snapshot.spec backing = true := by
  rw [entryDescribed, all_eq_true]
  exact forall_congr' fun backing => imp_congr_right fun _ => any_eq_true _ _

theorem described_iff {Instant : Type} (key : ClaimKey) (s : State Instant) :
    Described key s ↔ ∀ entry ∈ s.released, entryDescribed key entry = true :=
  forall_congr' fun entry => imp_congr_right fun _ => (entry_described_iff key entry).symm

section Runs

variable (chrono : Chrono) (key : ClaimKey)

theorem inv_initial (s : State chrono.Instant) (start : (lifecycle chrono key).initial s) : Inv key s := by
  rw [start]
  constructor
  · intro c now
    cases now
  · intro c now
    cases now
  · trivial
  · intro write now
    cases now
  · intro entry member
    cases member

variable {s : State chrono.Instant} {action : Action chrono.Instant}

theorem inv_step {t : State chrono.Instant} (inv : Inv key s)
    (meets : accountable key s action = true) (taken : (lifecycle chrono key).step s action = some t) : Inv key t := by
  have outside : outsideStep chrono s action = some t → Inv key t := by
    intro taken
    obtain ⟨carried, scheduler⟩ := outside_carried taken
    exact inv_carried carried inv fun write now => inv.scheduler write (scheduler.symm.trans now)
  have scheduler : schedulerStep chrono s action = some t → Inv key t := by
    intro taken
    obtain ⟨carried, decided⟩ := scheduler_carried inv.scheduler taken
    exact inv_carried carried inv decided
  cases action with
  | setProviders | create | delete | vanish | sample => exact outside taken
  | schedulerBegin | schedulerList | schedulerPatch | schedulerStop => exact scheduler taken
  | _ => exact provisioner_keeps inv meets taken

theorem inv_reachable (reachable : ((lifecycle chrono key).restrict (accountable key)).Reachable s) : Inv key s := by
  refine System.invariant ((lifecycle chrono key).restrict (accountable key)) (Inv key) (inv_initial chrono key) ?_ s reachable
  intro s action t inv taken
  obtain ⟨meets, stepped⟩ := System.restrict_step (lifecycle chrono key) (accountable key) s t action taken
  exact inv_step chrono key inv meets stepped

theorem release_undescribed (s : State chrono.Instant) (stage : s.stage = .releasing) (c : LiveClaim chrono.Instant)
    (claim : s.claim = some c) (backing : Backing) (held : c.held = some backing)
    (astray : s.snapshot.any (fun snapshot => describes key snapshot.spec backing) = false) :
    ∃ u, (lifecycle chrono key).run s [.release] = some u ∧ ¬ Described key u := by
  refine ⟨s.unfinalized, ?_, ?_⟩
  · have taken : (lifecycle chrono key).step s .release = some s.unfinalized := by
      simp only [lifecycle, provisionerStep, stage]
    rw [System.run, taken]
    rfl
  · intro described
    simp only [State.unfinalized, claim] at described
    have entry := (described_iff key _).mp described (c.held, s.snapshot) List.mem_cons_self
    rw [entryDescribed, held, all_some, astray] at entry
    cases entry

theorem unaccountable_cases (fails : accountable key s action = false) : ∃ c backing, s.claim = some c ∧ c.held = some backing ∧
      ((action = .begin ∧ s.stage = .idle ∧ c.deletionTimestamp.isSome = true ∧ c.finalizer = true ∧
          c.spec.sharedRef.isSome = true ∧ (s.snapshot.any fun snapshot => describes key snapshot.spec backing) = false) ∨
        (∃ now v provider, action = .getSnapshot now ∧ s.stage = .found v provider ∧
          (if s.snapshot.isSome then s.snapshot.any fun snapshot => describes key snapshot.spec backing
            else serves v provider backing) = false) ∨
        ∃ payload, action = .createSnapshot .refused ∧ s.stage = .absent payload) := by
  cases claim : s.claim with
  | none =>
    rw [accountable, claim] at fails
    cases fails
  | some c =>
    cases held : c.held with
    | none =>
      rw [accountable, claim, bind_some, held] at fails
      cases fails
    | some backing =>
      rw [accountable, claim, bind_some, held, all_some] at fails
      refine ⟨c, backing, rfl, held, ?_⟩
      simp only [accounts] at fails
      split at fails
      · rename_i stage
        rw [claim, any_some, Bool.or_eq_false_iff, Bool.not_eq_false', Bool.and_eq_true, Bool.and_eq_true] at fails
        exact .inl ⟨rfl, stage, fails.2.1.1, fails.2.1.2, fails.2.2, fails.1⟩
      · rename_i now v provider stage
        exact .inr (.inl ⟨now, v, provider, rfl, stage, fails⟩)
      · rename_i payload stage
        exact .inr (.inr ⟨payload, rfl, stage⟩)
      · cases fails

theorem unaccountable_undescribed {t : State chrono.Instant} (inv : Inv key s)
    (taken : (lifecycle chrono key).step s action = some t) (fails : accountable key s action = false) :
    ∃ rest u, (lifecycle chrono key).run t rest = some u ∧ ¬ Described key u := by
  obtain ⟨c, backing, claim, held, how⟩ := unaccountable_cases _ key fails
  have underway := inv.underway
  rcases how with ⟨rfl, stage, deleting, finalizer, shared, astray⟩ | ⟨now, v, provider, rfl, stage, astray⟩ |
    ⟨payload, rfl, stage⟩
  · simp only [lifecycle, provisionerStep, stage, claim, map_some] at taken
    cases taken
    rw [State.begun, if_pos deleting, if_pos finalizer, if_pos shared]
    exact ⟨_, release_undescribed _ key _ rfl c claim _ held astray⟩
  · rw [stage] at underway
    simp only [lifecycle, provisionerStep, stage] at taken
    cases taken
    cases there : s.snapshot with
    | some rc =>
      rw [if_pos (isSome_of_eq_some there)] at astray
      rw [snapshot_read_kept v provider _ (isSome_of_eq_some there)]
      exact ⟨_, release_undescribed _ key _ rfl c claim _ held astray⟩
    | none =>
      rw [if_neg (by rw [there]; exact Bool.false_ne_true)] at astray
      rw [State.snapshotRead]
      split
      · refine ⟨_, release_undescribed _ key _ rfl c claim _ held ?_⟩
        rw [there]
        rfl
      · rename_i payload payloadTaken
        rw [if_neg (by rw [there]; exact Bool.false_ne_true)]
        obtain ⟨own, d, now, _, _, known⟩ := underway
        obtain rfl := some.inj (claim.symm.trans now)
        have apart : describes key payload.spec backing = false := by
          have described := payload_describes_iff payloadTaken (known backing held)
          rw [← own, Bool.eq_false_iff, Ne, described, astray]
          exact Bool.false_ne_true
        obtain ⟨u, finished, undescribed⟩ := release_undescribed chrono key
          { s with snapshot := some (s.snapshot.getD payload), stage := .releasing } rfl c claim backing held
          (by rw [there]; exact apart)
        exact ⟨.createSnapshot .done :: [.release], u, finished, undescribed⟩
  · rw [stage] at underway
    simp only [lifecycle, provisionerStep, stage] at taken
    cases taken
    refine ⟨_, release_undescribed _ key _ rfl c claim _ held ?_⟩
    rw [underway.1]
    rfl

-- A step that does not meet the condition can be gone on from to an undescribed release.
theorem snapshots_describe_held (s : State chrono.Instant)
    (reachable : ((lifecycle chrono key).restrict (accountable key)).Reachable s) :
    Described key s ∧ ∀ action t, (lifecycle chrono key).step s action = some t → accountable key s action = false →
        ∃ rest u, (lifecycle chrono key).run t rest = some u ∧ ¬ Described key u := by
  have inv := inv_reachable chrono key reachable
  exact ⟨inv.described, fun action t taken fails => unaccountable_undescribed chrono key inv taken fails⟩

end Runs

def cachesKey : ClaimKey := { ns := "demo", name := "demo-web-redis" }

def redisSpec : ResourceClaimSpec := { type := "redis", selector := Dict.empty }

def redisIntegrated : ServiceProvider := { name := "redis-integrated", type := "redis", backend := "dragonfly" }

def redisReady : List (Action juneClock.Instant) :=
  [.setProviders [redisIntegrated], .create redisSpec [], .schedulerBegin, .schedulerList "2026-06-01T00:00:00+00:00",
    .schedulerPatch, .begin, .setFinalizer, .findProvider, .allocate 3, .provision "" "2026-06-01T00:01:00+00:00" "" none,
    .cancel true]

def redisDeleted : List (Action juneClock.Instant) :=
  [.delete (86400 : Nat), .begin, .findProvider, .getSnapshot (86400 : Nat), .createSnapshot .done, .release]

theorem redis_described : ∃ s, ((lifecycle juneClock cachesKey).restrict (accountable cachesKey)).run {} (redisReady ++ redisDeleted) =
      some s ∧ s.released.map (fun entry => entry.1) = [some (.dragonfly "platform-redis-ephemeral-000" 3)] ∧ Described cachesKey s := by
  obtain ⟨s, finished, released⟩ := map_eq_some_iff.mp
    (show (((lifecycle juneClock cachesKey).restrict (accountable cachesKey)).run {} (redisReady ++ redisDeleted)).map
      (fun s => s.released.map fun entry => entry.1) = some [some (.dragonfly "platform-redis-ephemeral-000" 3)] by decide +kernel)
  have reachable := System.reachable_run _ _ (.initial _ rfl) _ s finished
  exact ⟨s, finished, released, (snapshots_describe_held juneClock cachesKey s reachable).1⟩

-- The provider is deleted before the claim is.
theorem provider_gone_undescribed : ¬ ∀ s, (lifecycle juneClock cachesKey).Reachable s → Described cachesKey s := by
  intro all
  obtain ⟨s, finished, released⟩ := map_eq_some_iff.mp
    (show ((lifecycle juneClock cachesKey).run {} (redisReady ++ .setProviders [] :: redisDeleted)).map
      (fun s => s.released.all (entryDescribed cachesKey)) = some false by decide +kernel)
  have described := (described_iff cachesKey s).mp (all s (System.reachable_run _ _ (.initial _ rfl) _ s finished))
  rw [List.all_eq_true.mpr described] at released
  cases released

end AppRafter.Claim
