import AppRafter.Credential.Gate

set_option autoImplicit false

namespace AppRafter.Credential

open Lib List Option

def DerivedSecret.isRepoCreds (secret : DerivedSecret) : Bool :=
  match secret.content with
  | .repoCreds _ _ _ => true
  | .dockercfg _ => false

def labelled (repo : Bool) (credential : String) (secrets : List DerivedSecret) : List DerivedSecret :=
  secrets.filter fun secret => secret.credential == credential && secret.isRepoCreds == repo

def trailing (credName : String) (count : Nat) (secrets : List DerivedSecret) : List DerivedSecret :=
  secrets.filter fun secret => secret.name ∉ (List.range count).map (repoCredSecretName credName)

def Reported (status : SourceCredentialStatus) (kind : String) : Prop :=
  ∀ condition ∈ status.conditions.getD [], condition.type = kind → condition.status = "True"

theorem repo_creds_keys (credName : String) (prefixes : List String) (login : Login) :
    (repoCreds credName prefixes login).map DerivedSecret.key =
      (List.range prefixes.length).map fun idx => (argocdNamespace, repoCredSecretName credName idx) := by
  refine ext_getElem (by simp [repoCreds]) ?_
  simp [repoCreds, DerivedSecret.key, repoCredPayload]

theorem repo_creds_labelled (credName : String) (prefixes : List String) (login : Login) :
    labelled true credName (repoCreds credName prefixes login) = repoCreds credName prefixes login ∧
      labelled false credName (repoCreds credName prefixes login) = [] := by
  have shape : ∀ secret ∈ repoCreds credName prefixes login, secret.credential = credName ∧ secret.isRepoCreds = true := by
    intro secret derived
    obtain ⟨idx, _, rfl⟩ := mem_mapIdx.mp derived
    exact ⟨rfl, rfl⟩
  constructor
  · refine filter_eq_self.mpr ?_
    intro secret derived
    simp [shape secret derived]
  · refine filter_eq_nil_iff.mpr ?_
    intro secret derived
    simp [shape secret derived]

theorem labelled_upserted (repo : Bool) (credential : String) (start fresh : List DerivedSecret)
    (apart : (fresh.map DerivedSecret.key).Nodup) :
    labelled repo credential (fresh.foldl (Keyed.upsert DerivedSecret.key) start) =
      (labelled repo credential start).filter (fun old => old.key ∉ fresh.map DerivedSecret.key) ++
        labelled repo credential fresh := by
  rw [Keyed.upsert_all _ start fresh apart, labelled, filter_append]
  refine congrArg₂ _ ?_ rfl
  simp only [labelled, List.filter_filter]
  refine List.filter_congr ?_
  intro old _
  rw [Bool.and_comm]
  exact congrArg (· && _) (decide_eq_decide.mpr Iff.rfl)

theorem dockerconfigjson_snoc (earlier : List String) (last : String) (login : Login) :
    dockerconfigjson (earlier ++ [last]) login =
      if ((dockerconfigjson earlier login).get (registryHostname last)).isSome then dockerconfigjson earlier login
      else (dockerconfigjson earlier login).insert (registryHostname last)
        ⟨login.username, login.password, base64 (login.username ++ ":" ++ login.password)⟩ := by
  simp only [dockerconfigjson]
  rw [foldl_append]
  rfl

theorem dockerconfigjson_get (hosts : List String) (login : Login) (host : String) : (dockerconfigjson hosts login).get host =
      if host ∈ hosts.map registryHostname then
        some ⟨login.username, login.password, base64 (login.username ++ ":" ++ login.password)⟩
      else none := by
  induction hosts using List.reverseRecOn generalizing host with
  | nil => rfl
  | append_singleton earlier last ih =>
    rw [dockerconfigjson_snoc, map_append]
    by_cases held : ((dockerconfigjson earlier login).get (registryHostname last)).isSome = true
    · have again : registryHostname last ∈ earlier.map registryHostname := by
        rw [ih] at held
        by_contra fresh
        rw [if_neg fresh] at held
        cases held
      rw [if_pos held, ih]
      by_cases same : host = registryHostname last
      · rw [same, if_pos again, if_pos (mem_append_left _ again)]
      · simp [same]
    · rw [if_neg held, Dict.get_insert, ih]
      by_cases same : host = registryHostname last
      · simp [same]
      · simp [same]

theorem labelled_shaped {cred : SourceCredential} {secrets : List DerivedSecret}
    (shaped : ∀ secret ∈ secrets, secret.credential = cred.name → Shaped cred.name cred.ns secret) (secret : DerivedSecret) :
    (secret ∈ labelled true cred.name secrets → ∃ idx, secret.key = (argocdNamespace, repoCredSecretName cred.name idx)) ∧
      (secret ∈ labelled false cred.name secrets → secret.key = (cred.ns, pullSecretName cred.name)) := by
  constructor
  · intro member
    obtain ⟨inside, marked⟩ := mem_filter.mp member
    simp only [Bool.and_eq_true, beq_iff_eq] at marked
    cases shaped secret inside marked.1 with
    | repo idx url login => exact ⟨idx, rfl⟩
    | pull auths => cases marked.2
  · intro member
    obtain ⟨inside, marked⟩ := mem_filter.mp member
    simp only [Bool.and_eq_true, beq_iff_eq] at marked
    cases shaped secret inside marked.1 with
    | repo idx url login => cases marked.2
    | pull auths => rfl

theorem derived_keys_apart (credName credNs : String) (repos pulls : Nat) (atMost : pulls ≤ 1) :
    ((List.range repos).map (fun idx => (argocdNamespace, repoCredSecretName credName idx)) ++
      List.replicate pulls (credNs, pullSecretName credName)).Nodup := by
  refine nodup_append.mpr ⟨?_, nodup_replicate.mpr atMost, ?_⟩
  · exact nodup_range.map fun one other same => (repo_cred_name_inj (Prod.mk.inj same).2).2
  · intro key repo other pull same
    obtain ⟨idx, _, rfl⟩ := mem_map.mp repo
    rw [eq_of_mem_replicate pull] at same
    exact pull_name_apart credName credName idx (Prod.mk.inj same).2

section Pass

variable {cred : SourceCredential} {history : List (Exchange scApi)}

variable {git registry : Option HalfOutcome} {secrets : List DerivedSecret}

theorem git_half_cases (ran : HalfRan cred history (cred.spec.git.map (gitHalf cred)) git secrets) :
    (∃ login, secrets = repoCreds cred.name (repoPrefixes cred.spec) login ∧
      ∀ half, cred.spec.git = some half → Resolved half.backend cred.ns history (.present login)) ∨
    (secrets = [] ∧ ∃ outcome, git = some outcome ∧ outcome.plan.condition.type = condGitPresent ∧
      outcome.plan.condition.status ≠ "True") := by
  rw [repoPrefixes]
  cases declared : cred.spec.git with
  | none =>
    rw [declared] at ran
    cases ran
    exact .inl ⟨⟨"", ""⟩, rfl, by intro _ absent; cases absent⟩
  | some half =>
    rw [declared] at ran
    cases ran with
    | ran _ material now validity resolved typed =>
      cases material with
      | present login => exact .inl ⟨login, rfl, fun _ same => some.inj same ▸ resolved⟩
      | openBao => exact .inr ⟨rfl, _, rfl, rfl, (by decide : "Unknown" ≠ "True")⟩
      | missing location => exact .inr ⟨rfl, _, rfl, rfl, (by decide : "False" ≠ "True")⟩

variable (ran : HalfRan cred history (cred.spec.registry.map (registryHalf cred)) registry secrets)

include ran in
theorem registry_half_cases :
    (∃ login, secrets = cred.spec.registry.toList.map (fun half => pullSecret cred.name cred.ns half.hosts login) ∧
      ∀ half, cred.spec.registry = some half → Resolved half.backend cred.ns history (.present login)) ∨
    (secrets = [] ∧ ∃ outcome, registry = some outcome ∧ outcome.plan.condition.type = condRegistryPresent ∧
      outcome.plan.condition.status ≠ "True") := by
  cases declared : cred.spec.registry with
  | none =>
    rw [declared] at ran
    cases ran
    exact .inl ⟨⟨"", ""⟩, rfl, fun _ absent => nomatch absent⟩
  | some half =>
    rw [declared] at ran
    cases ran with
    | ran _ material now validity resolved typed =>
      cases material with
      | present login => exact .inl ⟨login, rfl, fun _ same => some.inj same ▸ resolved⟩
      | openBao => exact .inr ⟨rfl, _, rfl, rfl, (by decide : "Unknown" ≠ "True")⟩
      | missing location => exact .inr ⟨rfl, _, rfl, rfl, (by decide : "False" ≠ "True")⟩

theorem git_half_keys (ran : HalfRan cred history (cred.spec.git.map (gitHalf cred)) git secrets) :
    (∃ repos, secrets.map DerivedSecret.key =
      (List.range repos).map fun idx => (argocdNamespace, repoCredSecretName cred.name idx)) ∧
    labelled true cred.name secrets = secrets ∧ labelled false cred.name secrets = [] := by
  cases git_half_cases ran with
  | inl derived =>
    obtain ⟨login, rfl, _⟩ := derived
    exact ⟨⟨_, repo_creds_keys _ _ _⟩, repo_creds_labelled _ _ _⟩
  | inr none_ =>
    obtain ⟨rfl, _⟩ := none_
    exact ⟨⟨0, rfl⟩, rfl, rfl⟩

include ran in
theorem registry_half_keys :
    (∃ pulls, pulls ≤ 1 ∧ secrets.map DerivedSecret.key = List.replicate pulls (cred.ns, pullSecretName cred.name)) ∧
    labelled true cred.name secrets = [] ∧ labelled false cred.name secrets = secrets := by
  cases registry_half_cases ran with
  | inl derived =>
    obtain ⟨login, rfl, _⟩ := derived
    cases cred.spec.registry with
    | none => exact ⟨⟨0, by omega, rfl⟩, rfl, rfl⟩
    | some half => exact ⟨⟨1, le_rfl, rfl⟩, by simp [labelled, pullSecret, dockercfgPayload, DerivedSecret.isRepoCreds],
        by simp [labelled, pullSecret, dockercfgPayload, DerivedSecret.isRepoCreds]⟩
  | inr none_ =>
    obtain ⟨rfl, _⟩ := none_
    exact ⟨⟨0, by omega, rfl⟩, rfl, rfl⟩

section Applied

variable {git registry : Option HalfOutcome} {gitSecrets registrySecrets start : List DerivedSecret}
  (gitRan : HalfRan cred history (cred.spec.git.map (gitHalf cred)) git gitSecrets)
  (registryRan : HalfRan cred history (cred.spec.registry.map (registryHalf cred)) registry registrySecrets)
  (shaped : ∀ secret ∈ start, secret.credential = cred.name → Shaped cred.name cred.ns secret)

include gitRan registryRan

theorem applied_apart : ((gitSecrets ++ registrySecrets).map DerivedSecret.key).Nodup := by
  obtain ⟨⟨repos, gitKeys⟩, _⟩ := git_half_keys gitRan
  obtain ⟨⟨pulls, atMost, registryKeys⟩, _⟩ := registry_half_keys registryRan
  rw [map_append, gitKeys, registryKeys]
  exact derived_keys_apart cred.name cred.ns repos pulls atMost

theorem labelled_applied : labelled true cred.name (gitSecrets ++ registrySecrets) = gitSecrets ∧
      labelled false cred.name (gitSecrets ++ registrySecrets) = registrySecrets := by
  obtain ⟨_, gitRepo, gitPull⟩ := git_half_keys gitRan
  obtain ⟨_, registryRepo, registryPull⟩ := registry_half_keys registryRan
  rw [labelled] at gitRepo gitPull registryRepo registryPull
  constructor
  · rw [labelled, filter_append, gitRepo, registryRepo, append_nil]
  · rw [labelled, filter_append, gitPull, registryPull, nil_append]

include shaped

theorem repo_creds_exact {login : Login} (derived : gitSecrets = repoCreds cred.name (repoPrefixes cred.spec) login) :
    labelled true cred.name ((gitSecrets ++ registrySecrets).foldl (Keyed.upsert DerivedSecret.key) start) =
      trailing cred.name (repoPrefixes cred.spec).length (labelled true cred.name start) ++ gitSecrets := by
  have apart := applied_apart gitRan registryRan
  obtain ⟨⟨pulls, _, registryKeys⟩, _⟩ := registry_half_keys registryRan
  rw [labelled_upserted true cred.name start _ apart, (labelled_applied gitRan registryRan).1]
  refine congrArg₂ _ (filter_congr ?_) rfl
  intro secret member
  obtain ⟨idx, key⟩ := (labelled_shaped shaped secret).1 member
  have named : secret.name = repoCredSecretName cred.name idx := congrArg Prod.snd key
  rw [decide_eq_decide, not_iff_not, key, map_append, registryKeys, derived, repo_creds_keys, named]
  constructor
  · intro overwritten
    cases mem_append.mp overwritten with
    | inl repo =>
      obtain ⟨other, listed, same⟩ := mem_map.mp repo
      exact mem_map.mpr ⟨other, listed, congrArg Prod.snd same⟩
    | inr pull => exact absurd (congrArg Prod.snd (eq_of_mem_replicate pull)) (pull_name_apart cred.name cred.name idx)
  · intro positioned
    obtain ⟨other, listed, same⟩ := mem_map.mp positioned
    exact mem_append_left _ (mem_map.mpr ⟨other, listed, by rw [same]⟩)

theorem dockercfg_exact {pull : DerivedSecret} (derived : registrySecrets = [pull]) :
    labelled false cred.name ((gitSecrets ++ registrySecrets).foldl (Keyed.upsert DerivedSecret.key) start) = [pull] := by
  have apart := applied_apart gitRan registryRan
  obtain ⟨⟨pulls, _, registryKeys⟩, _⟩ := registry_half_keys registryRan
  rw [labelled_upserted false cred.name start _ apart, (labelled_applied gitRan registryRan).2]
  have pullKey : pull.key = (cred.ns, pullSecretName cred.name) := by
    refine eq_of_mem_replicate (n := pulls) ?_
    rw [← registryKeys, derived]
    exact mem_singleton_self _
  have overwritten : (labelled false cred.name start).filter
      (fun old => old.key ∉ (gitSecrets ++ registrySecrets).map DerivedSecret.key) = [] := by
    refine filter_eq_nil_iff.mpr ?_
    intro secret member
    rw [decide_eq_true_eq, not_not, (labelled_shaped shaped secret).2 member, map_append, derived, ← pullKey]
    exact mem_append_right _ mem_cons_self
  rw [overwritten, derived]
  rfl

omit gitRan registryRan in
theorem trailing_past {count : Nat} {secret : DerivedSecret}
    (left : secret ∈ trailing cred.name count (labelled true cred.name start)) :
    ∃ idx, count ≤ idx ∧ secret.name = repoCredSecretName cred.name idx := by
  obtain ⟨member, outside⟩ := mem_filter.mp left
  obtain ⟨idx, key⟩ := (labelled_shaped shaped secret).1 member
  have named : secret.name = repoCredSecretName cred.name idx := congrArg Prod.snd key
  refine ⟨idx, ?_, named⟩
  by_contra before
  rw [decide_eq_true_eq] at outside
  exact outside (mem_map.mpr ⟨idx, mem_range.mpr (by omega), named.symm⟩)

end Applied

end Pass

-- Secrets of positions past the list stay beside those of the spec.
theorem derived_track_spec (sha256Hex : String → String) (state : ScState)
    (reachable : (scMachine sha256Hex).system.Reachable state) (pass : ScPass) (running : state.pass = some pass)
    (ns name : String) (status : SourceCredentialStatus) (asked : pass.asks = some (.applyStatus ns name status))
    (derived : status.phase = none) :
    (Reported status condGitPresent → ∃ login, (∀ git, pass.start.cred.spec.git = some git →
        Resolved git.backend pass.start.cred.ns pass.history (.present login)) ∧
      labelled true pass.start.cred.name state.world.secrets =
        trailing pass.start.cred.name (repoPrefixes pass.start.cred.spec).length
          (labelled true pass.start.cred.name pass.start.secrets) ++
          repoCreds pass.start.cred.name (repoPrefixes pass.start.cred.spec) login ∧
      ∀ secret ∈ trailing pass.start.cred.name (repoPrefixes pass.start.cred.spec).length
          (labelled true pass.start.cred.name pass.start.secrets),
        ∃ idx, (repoPrefixes pass.start.cred.spec).length ≤ idx ∧ secret.name = repoCredSecretName pass.start.cred.name idx) ∧
    (Reported status condRegistryPresent → ∀ registry, pass.start.cred.spec.registry = some registry → ∃ login,
      Resolved registry.backend pass.start.cred.ns pass.history (.present login) ∧
      labelled false pass.start.cred.name state.world.secrets =
        [pullSecret pass.start.cred.name pass.start.cred.ns registry.hosts login] ∧
      ∀ host, ((dockerconfigjson registry.hosts login).get host).isSome = true ↔ host ∈ registry.hosts.map registryHostname) := by
  obtain ⟨_, flight⟩ := credential_runs sha256Hex reachable
  obtain ⟨linked, runs⟩ := flight pass running
  obtain ⟨rest, waiting⟩ := Machine.asks_call asked
  rw [waiting] at runs
  obtain ⟨_, paused | stamps⟩ := runs.1
  · rw [paused.2.phase] at derived
    cases derived
  · obtain ⟨_, git, registry, gitSecrets, registrySecrets, gitRan, registryRan, marked, rfl⟩ := stamps
    rw [(linked.since _ marked).secrets]
    constructor
    · intro reported
      cases git_half_cases gitRan with
      | inl found =>
        obtain ⟨login, same, resolved⟩ := found
        have exact_ := repo_creds_exact gitRan registryRan linked.shaped same
        refine ⟨login, resolved, same ▸ exact_, ?_⟩
        exact fun secret left => trailing_past linked.shaped left
      | inr waits =>
        obtain ⟨_, outcome, rfl, type, status⟩ := waits
        exact absurd (reported _ (mem_append_left _ mem_cons_self) type) status
    · intro reported half declared
      cases registry_half_cases registryRan with
      | inl found =>
        obtain ⟨login, same, resolved⟩ := found
        rw [declared] at same
        have exact_ := dockercfg_exact gitRan registryRan linked.shaped same
        refine ⟨login, resolved half declared, exact_, ?_⟩
        intro host
        rw [dockerconfigjson_get]
        split <;> simp_all
      | inr waits =>
        obtain ⟨_, outcome, rfl, type, status⟩ := waits
        exact absurd (reported _ (mem_append_right _ mem_cons_self) type) status

def statusAsked (pass : ScPass) : Option SourceCredentialStatus :=
  match pass.asks with
  | some (.applyStatus _ _ status) => some status
  | _ => none

theorem status_asked {pass : ScPass} {status : SourceCredentialStatus} (found : statusAsked pass = some status) :
    ∃ ns name, pass.asks = some (.applyStatus ns name status) := by
  unfold statusAsked at found
  split at found
  · rename_i asked
    cases some.inj found
    exact ⟨_, _, asked⟩
  · cases found

structure TrackView where
  phase : Option String
  conditions : List (String × String)
  name : String
  spec : SourceCredentialSpec
  before : List DerivedSecret
  after : List DerivedSecret
deriving DecidableEq

def trackView (state : ScState) : Option TrackView :=
  state.pass.bind fun pass => (statusAsked pass).map fun status =>
    { phase := status.phase
      conditions := (status.conditions.getD []).map fun condition => (condition.type, condition.status)
      name := pass.start.cred.name
      spec := pass.start.cred.spec
      before := pass.start.secrets
      after := state.world.secrets }

theorem track_reached (first : ScWorld) (initial : (scMachine id).initial first) (actions : List ScAction) (view : TrackView)
    (ran : ((scMachine id).system.run ⟨first, none⟩ actions).bind trackView = some view) :
    ∃ state pass ns name status, (scMachine id).system.Reachable state ∧ state.pass = some pass ∧
      pass.asks = some (.applyStatus ns name status) ∧ status.phase = view.phase ∧
      ((status.conditions.getD []).map fun condition => (condition.type, condition.status)) = view.conditions ∧
      pass.start.cred.name = view.name ∧ pass.start.cred.spec = view.spec ∧ pass.start.secrets = view.before ∧
      state.world.secrets = view.after := by
  obtain ⟨state, finished, viewed⟩ := bind_eq_some_iff.mp ran
  obtain ⟨pass, running, found⟩ := bind_eq_some_iff.mp viewed
  obtain ⟨status, asking, rfl⟩ := map_eq_some_iff.mp found
  obtain ⟨ns, name, asked⟩ := status_asked asking
  have reachable := (scMachine id).system.reachable_run ⟨first, none⟩ (.initial _ ⟨initial, rfl⟩) actions state finished
  exact ⟨state, pass, ns, name, status, reachable, running, asked, rfl, rfl, rfl, rfl, rfl, rfl⟩

theorem reported_of (status : SourceCredentialStatus) (kind : String) {conditions : List (String × String)}
    (same : ((status.conditions.getD []).map fun condition => (condition.type, condition.status)) = conditions)
    (all : ∀ condition ∈ conditions, condition.1 = kind → condition.2 = "True") : Reported status kind := by
  intro condition member typed
  exact all (condition.type, condition.status) (same ▸ mem_map.mpr ⟨condition, member, rfl⟩) typed

def hubLogin : Login := ⟨"git", "ghp_x"⟩

def hubSecrets (prefixes : List String) : List DerivedSecret := repoCreds "hub" prefixes hubLogin

def bothView : TrackView :=
  { phase := none
    conditions := [(condGitPresent, "True"), (condGitValid, "Unknown"), (condRegistryPresent, "True"),
      (condRegistryValid, "Unknown")]
    name := "hub"
    spec := hubBoth ["github.com/acme/"]
    before := []
    after := hubSecrets ["github.com/acme/"] ++ [pullSecret "hub" "apprafter-system" ["ghcr.io/acme/"] hubLogin] }

theorem fresh_derivation_tracks :
    ∃ state pass gitLogin registryLogin, (scMachine id).system.Reachable state ∧ state.pass = some pass ∧
      labelled true "hub" state.world.secrets = repoCreds "hub" ["github.com/acme/"] gitLogin ∧
      labelled false "hub" state.world.secrets =
        [pullSecret "hub" pass.start.cred.ns ["ghcr.io/acme/"] registryLogin] := by
  obtain ⟨state, pass, ns, name, status, reachable, running, asked, phase, conditions, named, spec, before, _⟩ :=
    track_reached (hubWorld (hubBoth ["github.com/acme/"])) (hub_initial _) ([.begin] ++ answers 12 hubMaterial) bothView
      (by decide +kernel)
  have tracks := derived_track_spec id state reachable pass running ns name status asked phase
  obtain ⟨gitLogin, _, git, _⟩ := tracks.1 (reported_of status condGitPresent conditions (by decide))
  obtain ⟨registryLogin, _, registry, _⟩ := tracks.2 (reported_of status condRegistryPresent conditions (by decide))
    (hubRegistry ["ghcr.io/acme/"]) (by rw [spec]; rfl)
  rw [before, spec, named] at git
  rw [named] at registry
  exact ⟨state, pass, gitLogin, registryLogin, reachable, running, git, registry⟩

def leftView : TrackView :=
  { phase := none
    conditions := [(condGitPresent, "True"), (condGitValid, "Unknown")]
    name := "hub"
    spec := hubNarrow
    before := hubSecrets ["github.com/acme/", "github.com/tools/"]
    after := (hubSecrets ["github.com/acme/", "github.com/tools/"]).reverse }

-- The narrowing derives what is left and leaves the Secret of the prefix it took away.
theorem narrowed_secret_left :
    ∃ state pass ns name status, (scMachine id).system.Reachable state ∧ state.pass = some pass ∧
      pass.asks = some (.applyStatus ns name status) ∧ status.phase = none ∧ Reported status condGitPresent ∧
      Reported status condRegistryPresent ∧ pass.start.cred.spec = hubNarrow ∧
      (∃ secret ∈ labelled true pass.start.cred.name state.world.secrets,
        secret.content = .repoCreds (normalizeRepoUrl "github.com/tools/") hubLogin.username hubLogin.password) ∧
      ∀ login, ¬ (labelled true pass.start.cred.name state.world.secrets).Perm
        (repoCreds pass.start.cred.name (repoPrefixes pass.start.cred.spec) login) := by
  obtain ⟨state, pass, ns, name, status, reachable, running, asked, phase, conditions, named, spec, _, after⟩ :=
    track_reached (hubWorld hubWide) (hub_initial hubWide) (narrowRun ++ answers 3 hubMaterial) leftView (by decide +kernel)
  refine ⟨state, pass, ns, name, status, reachable, running, asked, phase, reported_of status _ conditions (by decide),
    reported_of status _ conditions (by decide), spec, ?_, ?_⟩
  · rw [named, after]
    exact ⟨repoCredPayload "srccred-hub-repo-1" "https://github.com/tools" hubLogin "hub", by decide +kernel, by decide +kernel⟩
  · intro login same
    have lengths := same.length_eq
    have two : (labelled true pass.start.cred.name state.world.secrets).length = 2 := by
      rw [named, after]
      decide +kernel
    rw [two, spec, repoCreds, length_mapIdx] at lengths
    exact absurd lengths (by decide)

end AppRafter.Credential
