import AppRafter.Credential.SweepInvariant

set_option autoImplicit false

namespace AppRafter.Credential

open Lib List Option

def Held (creds : List SourceCredential) (owner : ObjectKey) : Prop :=
  ∃ cred ∈ creds, cred.key = owner ∧ derivedSecretsFinalizer ∈ cred.finalizers

def Released (before after : FleetWorld) (owner : ObjectKey) : Prop := Held before.creds owner ∧ ¬ Held after.creds owner

variable {creds : List SourceCredential} {owner : ObjectKey} {world : FleetWorld}

theorem held_update {key : ObjectKey} {update : SourceCredential → SourceCredential} (keys : ∀ cred, (update cred).key = cred.key)
    (keeps : key = owner → ∀ cred, derivedSecretsFinalizer ∈ cred.finalizers → derivedSecretsFinalizer ∈ (update cred).finalizers)
    (held : Held creds owner) : Held (updateCred creds key update) owner := by
  obtain ⟨cred, member, same, ours⟩ := held
  refine ⟨_, mem_map.mpr ⟨cred, member, rfl⟩, ?_⟩
  split
  · rename_i mine
    exact ⟨(keys cred).trans same, keeps (mine.symm.trans same) cred ours⟩
  · exact ⟨same, ours⟩

theorem held_live (held : Held creds owner) : Held (creds.filter fun cred => !cred.gone) owner := by
  obtain ⟨cred, member, same, ours⟩ := held
  refine ⟨cred, mem_filter.mpr ⟨member, ?_⟩, same, ours⟩
  have some_ : cred.finalizers.isEmpty = false := by
    rw [isEmpty_eq_false_iff]
    exact ne_nil_of_mem ours
  rw [SourceCredential.gone, some_, Bool.and_false, Bool.not_false]

-- Others never take the finalizer away.
theorem change_holds {after : FleetWorld} (change : FleetChange) (changed : changeFleet world change = some after)
    (owner : ObjectKey) (held : Held world.creds owner) : Held after.creds owner := by
  cases change with
  | create ns name uid spec =>
    simp only [changeFleet] at changed
    split at changed
    · cases changed
    · cases some.inj changed
      obtain ⟨cred, member, same⟩ := held
      exact ⟨cred, mem_append_left _ member, same⟩
  | edit key spec =>
    simp only [changeFleet] at changed
    split at changed
    · cases some.inj changed
      exact held_update (fun _ => rfl) (fun _ _ ours => ours) held
    · cases changed
  | delete key timestamp =>
    cases some.inj changed
    exact held_live (held_update (fun _ => rfl) (fun _ _ ours => ours) held)
  | plans plans => exact some.inj changed ▸ held
  | readPull workloadNs credName =>
    obtain ⟨canonical, _, rfl⟩ := map_eq_some_iff.mp changed
    exact held
  | project index =>
    obtain ⟨copy, _, rfl⟩ := map_eq_some_iff.mp changed
    exact held
  | removeSecret | refuse => exact some.inj changed ▸ held

theorem write_cases (fate : FleetFate) (before after : FleetWorld) :
    (writeFleet fate before after).2 = after ∨ (writeFleet fate before after).2 = before := by
  rw [writeFleet]
  split
  · exact .inl rfl
  · exact .inr rfl

theorem patch_cases (fate : FleetFate) (world : FleetWorld) (key : ObjectKey) (after : FleetWorld) :
    (patchCred fate world key after).2 = after ∨ (patchCred fate world key after).2 = world := by
  rw [patchCred]
  split
  · exact write_cases fate world after
  · exact .inr rfl

theorem serve_releases {fate : FleetFate} {request : ScRequest}
    (released : Released world (serveFleet world fate request).2 owner) :
    ∃ finalizers, request = .setFinalizers owner.1 owner.2 finalizers ∧ derivedSecretsFinalizer ∉ finalizers ∧
      (serveFleet world fate request).2.secrets = world.secrets := by
  obtain ⟨held, lost⟩ := released
  have writes : ∀ after : FleetWorld, after.creds = world.creds → Held (writeFleet fate world after).2.creds owner := by
    intro after same
    cases write_cases fate world after with
    | inl made => rwa [made, same]
    | inr none_ => rwa [none_]
  cases request with
  | setFinalizers ns name finalizers =>
    cases patch_cases fate world (ns, name) (world.setFinalizers (ns, name) finalizers) with
    | inr none_ =>
      rw [serveFleet, none_] at lost
      exact absurd held lost
    | inl made =>
      rw [serveFleet, made] at lost ⊢
      by_cases mine : (ns, name) = owner
      · cases mine
        refine ⟨finalizers, rfl, ?_, rfl⟩
        intro ours
        exact lost (held_live (held_update (fun _ => rfl) (fun _ _ _ => ours) held))
      · exact (lost (held_live (held_update (fun _ => rfl) (fun same => absurd same mine) held))).elim
  | applyStatus ns name status =>
    cases patch_cases fate world (ns, name)
        (world.withCreds (updateCred world.creds (ns, name) fun cred => { cred with status := some status })) with
    | inr none_ =>
      rw [serveFleet, none_] at lost
      exact absurd held lost
    | inl made =>
      rw [serveFleet, made] at lost
      exact (lost (held_update (fun _ => rfl) (fun _ _ ours => ours) held)).elim
  | deleteSecret ns name =>
    refine absurd ?_ lost
    rw [serveFleet]
    split
    · exact held
    · exact held
  | deletePlan | applyPlan | applySecret => exact (lost (writes _ rfl)).elim
  | _ => exact absurd held lost

-- Where a run is prudent, a sweep deletes the Secrets of its own credential and no other's.
theorem deletion_revokes (sha256Hex : String → String) (state : FleetState)
    (reachable : ((fleet sha256Hex).obeying prudent).Reachable state) :
    (∀ key one other, (key, one) ∈ state.world.written → (key, other) ∈ state.world.written → one = other) ∧
    (∀ action next, ((fleet sha256Hex).obeying prudent).step state action = some next →
      ∀ owner, Released state.world next.world owner → ∀ owned ∈ next.world.secrets, owned.origin ≠ owner) ∧
    (∀ key pass ns name, state.pass key = some pass → pass.asks = some (.deleteSecret ns name) →
      ∀ owned ∈ state.world.secrets, owned.key = (ns, name) → owned.origin = pass.job.key) := by
  obtain ⟨inv, followed⟩ := fleet_runs reachable
  have marked : ∀ key pass, state.pass key = some pass → (Fleet.board sweepMonitor state).mark pass.job.key =
      some (pass.job, sweepMonitor.reached pass.job pass.history) := by
    intro key pass running
    have named : pass.job.key = key := (followed key pass running).1
    simp only [Fleet.board, named, running, map_some]
  refine ⟨?_, ?_, ?_⟩
  · intro key one other first second
    obtain ⟨named, known⟩ := inv.written _ first
    obtain ⟨namedOther, knownOther⟩ := inv.written _ second
    exact inv.distinct one known other knownOther (derived_name_inj named namedOther)
  · intro action next taken owner released owned member mine
    obtain ⟨moved, _⟩ := Fleet.obeying_step (fleet sha256Hex) prudent state next action taken
    rcases Fleet.step_world (fleet sha256Hex) state next action moved with
      ⟨change, _, changed⟩ | ⟨job, prog, _, begun⟩ | ⟨key, fate, pass, request, rest, _, running, waiting, served⟩ |
        ⟨index, _, job, request, _, late, _⟩ | ⟨_, same⟩
    · exact released.2 (change_holds change changed owner released.1)
    · simp only [fleet] at begun
      split at begun
      · have world : state.world.unswept job.name = next.world := congrArg Prod.fst (some.inj begun)
        rw [← world] at released
        exact released.2 released.1
      · cases begun
    · rw [served] at released member
      obtain ⟨finalizers, rfl, without, secrets⟩ := serve_releases released
      have follows := (followed key pass running).2
      rw [waiting] at follows
      obtain ⟨⟨same, swept, keeps⟩, _⟩ := follows
      have deleting : pass.job.deletionTimestamp.isSome = true := by
        by_contra living
        exact without (keeps (Bool.eq_false_of_not_eq_true living))
      have mark := marked key pass running
      rw [swept deleting] at mark
      have sweeping := inv.sweeps _ _ _ mark
      have left := sweeping.listed owned (secrets ▸ member) (mine.trans same)
      cases left
    · rw [show state.late = [] from inv.late] at late
      cases late
    · rw [same] at released
      exact released.2 released.1
  · intro key pass ns name running asked owned member at_
    obtain ⟨rest, waiting⟩ : ∃ rest, pass.prog = .call (.deleteSecret ns name) rest := by
      obtain ⟨job, history, prog⟩ := pass
      cases prog with
      | call request rest =>
        cases some.inj asked
        exact ⟨rest, rfl⟩
      | done value => cases asked
      | fail error => cases asked
    have follows := (followed key pass running).2
    rw [waiting] at follows
    obtain ⟨⟨_, others, mark⟩, _⟩ := follows
    have found := marked key pass running
    rw [mark] at found
    have sweeping := inv.sweeps _ _ _ found
    have target := sweeping.named (ns, name) mem_cons_self
    have owns := inv.secrets owned member
    rw [← at_] at target
    exact inv.distinct _ owns.known _ (inv.jobs _ _ _ found).2 (derived_name_inj owns.named target)

def emptyCluster : FleetWorld :=
  { creds := []
    plans := []
    secrets := []
    copies := []
    refusing := false
    known := []
    written := []
    swept := [] }

theorem empty_cluster (permits : FleetWorld → FleetEvent → Bool) :
    ((fleet id).obeying permits).Reachable (Fleet.start emptyCluster) :=
  .initial _ ⟨emptyCluster, ⟨rfl, rfl, rfl, rfl, rfl⟩, rfl⟩

def tokenSpec : SourceCredentialSpec :=
  { git := some { backend := { sealedSecretRef := some { name := "hub-git" } }, repoPrefixes := ["github.com/acme/"] } }

def tokenFate : FleetFate :=
  { clock := ⟨"2026-03-01T00:00:00+00:00", 1772323200⟩
    committed := true
    replied := true
    material := some ⟨none, some "ghp_x"⟩
    verdict := (.unverified, "nothing to probe yet") }

variable (ns : String)

def tokenCred : SourceCredential := { name := "hub", ns := ns, spec := tokenSpec }

def tokenMarked : SourceCredential :=
  { tokenCred ns with finalizers := [derivedSecretsFinalizer], deletionTimestamp := some "2026-03-02T00:00:00Z" }

def replies (count : Nat) : List FleetAction := List.replicate count (.reply (ns, "hub") tokenFate)

def deriveRun : List FleetAction :=
  [.change (.create ns "hub" none tokenSpec), .begin (tokenCred ns)] ++ replies ns 5 ++ [.drop (ns, "hub")]

def markRun : List FleetAction :=
  [.change (.delete (ns, "hub") "2026-03-02T00:00:00Z"), .begin (tokenMarked ns)] ++ replies ns 1

def tokenSecret : OwnedSecret :=
  { secret := repoCredPayload "srccred-hub-repo-0" "https://github.com/acme" ⟨"git", "ghp_x"⟩ "hub", origin := (ns, "hub") }

def releases (before after : FleetState) (owner : ObjectKey) : Bool :=
  (before.world.creds.any fun cred => cred.key == owner && cred.finalizers.contains derivedSecretsFinalizer) &&
    !(after.world.creds.any fun cred => cred.key == owner && cred.finalizers.contains derivedSecretsFinalizer)

theorem held_iff (creds : List SourceCredential) (owner : ObjectKey) :
    (creds.any fun cred => cred.key == owner && cred.finalizers.contains derivedSecretsFinalizer) = true ↔ Held creds owner := by
  simp [Held, List.any_eq_true]

theorem releases_released {before after : FleetState} (released : releases before after owner = true) :
    Released before.world after.world owner := by
  obtain ⟨held, lost⟩ := Bool.and_eq_true_iff.mp released
  refine ⟨(held_iff _ owner).mp held, ?_⟩
  intro still
  rw [(held_iff _ owner).mpr still] at lost
  cases lost

theorem hub_revoked :
    ∃ state next, ((fleet id).obeying prudent).Reachable state ∧
      (∃ action, ((fleet id).obeying prudent).step state action = some next) ∧
      Released state.world next.world ("apprafter-system", "hub") ∧
      (argocdNamespace, "srccred-hub-repo-0") ∈ state.world.written.map Prod.fst ∧
      ∀ owned ∈ next.world.secrets, owned.origin ≠ ("apprafter-system", "hub") := by
  have ran : ((((fleet id).obeying prudent).run (Fleet.start emptyCluster)
      (deriveRun "apprafter-system" ++ markRun "apprafter-system" ++ replies "apprafter-system" 1)).any fun state =>
        (((fleet id).obeying prudent).step state (.reply ("apprafter-system", "hub") tokenFate)).any fun next =>
          releases state next ("apprafter-system", "hub") &&
            (state.world.written.map Prod.fst).contains (argocdNamespace, "srccred-hub-repo-0")) = true := by decide +kernel
  obtain ⟨state, finished, stepped⟩ := any_eq_true _ _ |>.mp ran
  obtain ⟨next, taken, checked⟩ := any_eq_true _ _ |>.mp stepped
  obtain ⟨released, wrote⟩ := Bool.and_eq_true_iff.mp checked
  have reachable := ((fleet id).obeying prudent).reachable_run _ (empty_cluster prudent) _ state finished
  have free := releases_released released
  exact ⟨state, next, reachable, ⟨_, taken⟩, free, contains_iff_mem.mp wrote,
    (deletion_revokes id state reachable).2.1 _ next taken _ free⟩

-- A refused DELETE is dropped, and two credentials of one name write one Secret.
theorem revocation_leaks :
    (∃ state next action, (fleet id).system.Reachable state ∧ (fleet id).system.step state action = some next ∧
      Released state.world next.world ("apprafter-system", "hub") ∧
      ∃ owned ∈ next.world.secrets, owned.origin = ("apprafter-system", "hub")) ∧
    ∃ state pass, (fleet id).system.Reachable state ∧ state.pass ("team-a", "hub") = some pass ∧
      (∃ key, (key, ("team-a", "hub")) ∈ state.world.written ∧ (key, ("team-b", "hub")) ∈ state.world.written) ∧
      pass.asks = some (.deleteSecret argocdNamespace "srccred-hub-repo-0") ∧
      ∃ owned ∈ state.world.secrets, owned.key = (argocdNamespace, "srccred-hub-repo-0") ∧
        owned.origin = ("team-b", "hub") := by
  constructor
  · have ran : (((fleet id).system.run (Fleet.start emptyCluster) (deriveRun "apprafter-system" ++ markRun "apprafter-system" ++
        [.change (.refuse true)] ++ replies "apprafter-system" 1)).any fun state =>
          ((fleet id).system.step state (.reply ("apprafter-system", "hub") tokenFate)).any fun next =>
            releases state next ("apprafter-system", "hub") && next.world.secrets.contains (tokenSecret "apprafter-system")) =
              true := by decide +kernel
    obtain ⟨state, finished, stepped⟩ := any_eq_true _ _ |>.mp ran
    obtain ⟨next, taken, checked⟩ := any_eq_true _ _ |>.mp stepped
    obtain ⟨released, left⟩ := Bool.and_eq_true_iff.mp checked
    have reachable := (fleet id).system.reachable_run _ (.initial _ ⟨emptyCluster, ⟨rfl, rfl, rfl, rfl, rfl⟩, rfl⟩) _ state finished
    exact ⟨state, next, _, reachable, taken, releases_released released,
      tokenSecret "apprafter-system", contains_iff_mem.mp left, rfl⟩
  · have ran : (((fleet id).system.run (Fleet.start emptyCluster)
        (deriveRun "team-a" ++ deriveRun "team-b" ++ markRun "team-a")).any fun state =>
          (state.pass ("team-a", "hub")).any fun pass =>
            decide (pass.asks = some (.deleteSecret argocdNamespace "srccred-hub-repo-0")) &&
              (decide (state.world.written = [(tokenSecret "team-a").key, (tokenSecret "team-b").key].zip
                [("team-a", "hub"), ("team-b", "hub")]) && state.world.secrets.contains (tokenSecret "team-b"))) = true := by
      decide +kernel
    obtain ⟨state, finished, running⟩ := any_eq_true _ _ |>.mp ran
    obtain ⟨pass, found, checked⟩ := any_eq_true _ _ |>.mp running
    obtain ⟨asked, rest⟩ := Bool.and_eq_true_iff.mp checked
    obtain ⟨written, left⟩ := Bool.and_eq_true_iff.mp rest
    have reachable := (fleet id).system.reachable_run _ (.initial _ ⟨emptyCluster, ⟨rfl, rfl, rfl, rfl, rfl⟩, rfl⟩) _ state finished
    refine ⟨state, pass, reachable, found, ⟨(argocdNamespace, "srccred-hub-repo-0"), ?_, ?_⟩, of_decide_eq_true asked,
      tokenSecret "team-b", contains_iff_mem.mp left, rfl, rfl⟩
    · rw [of_decide_eq_true written]
      exact mem_cons_self
    · rw [of_decide_eq_true written]
      exact mem_cons_of_mem _ mem_cons_self

end AppRafter.Credential
