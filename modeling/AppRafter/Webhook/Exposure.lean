import AppRafter.Webhook.Admission

set_option autoImplicit false

namespace AppRafter.Webhook

open Lib Application List Option

theorem apply_override_ok (base : ApplicationBaseSpec) (override : ApplicationEnvOverride) (effective : ApplicationBaseSpec) :
    applyOverride base override = .ok effective ↔ ∃ expose, mergeExpose base.expose override.expose = .ok expose ∧ effective =
        { image := override.image.or base.image
          replicas := override.replicas.or base.replicas
          expose := expose
          env := mergeEnv base.env override.env
          needs := mergeNeeds base.needs override.needs
          imagePolicy := mergeImagePolicy base.imagePolicy override.imagePolicy
          resources := mergeResources base.resources override.resources
          probes := mergeProbes base.probes override.probes } := by
  unfold applyOverride
  cases mergeExpose base.expose override.expose with
  | error why =>
    constructor
    · intro computed
      cases computed
    · rintro ⟨_, exposed, _⟩
      cases exposed
  | ok expose =>
    constructor
    · intro computed
      exact ⟨expose, rfl, (Except.ok.inj computed).symm⟩
    · rintro ⟨_, exposed, rfl⟩
      cases exposed
      rfl

variable (spec : ApplicationSpec)

-- It holds of the base and of the base under each declared override.
theorem effective_specs (good : ApplicationBaseSpec → Prop) :
    (∀ envName effective, effectiveSpec spec envName = .ok effective → good effective) ↔
      good (spec.base.getD {}) ∧ ∀ entry ∈ environmentEntries spec, ∀ effective,
        applyOverride (spec.base.getD {}) entry.2 = .ok effective → good effective := by
  constructor
  · intro all
    refine ⟨all none _ rfl, ?_⟩
    intro entry member effective applied
    apply all (some entry.1)
    rw [effectiveSpec, bind_some, (Dict.get_eq_some _ entry.1 entry.2).mpr member]
    exact applied
  · intro ⟨base, overridden⟩ envName effective computed
    rcases effective_spec_cases computed with rfl | ⟨name, override, _, declared, applied⟩
    · exact base
    · exact overridden (name, override) (entry_scope declared) effective applied

theorem base_scope : Scope.ofBase (spec.base.getD {}) ∈ scopes spec := mem_cons_self

variable {spec : ApplicationSpec} {entry : String × ApplicationEnvOverride} {base : ApplicationExpose} {override : ExposeOverride}

theorem environment_scope (member : entry ∈ environmentEntries spec) : Scope.ofEnvironment entry.1 entry.2 ∈ scopes spec :=
  mem_cons_of_mem _ (mem_map_of_mem member)

def hostnames (hostname : Option (OneOrMany String)) : List String := (hostname.map OneOrMany.intoVec).getD []

structure Routable (hostname : Option (OneOrMany String)) (tls : Option Bool) : Prop where
  named : hostnames hostname ≠ []
  valid : ∀ host ∈ hostnames hostname, isDns1123Subdomain host = true
  secured : tls ≠ some false

def ExposureSound (effective : ApplicationBaseSpec) : Prop :=
  ∀ expose, effective.expose = some expose → expose.network = some "public" → Routable expose.hostname expose.tls

theorem validate_expose_ok {scope : Scope} (exposed : scope.hasExpose = true) : validateExposeScope scope = [] ↔
      scope.exposeNetwork ≠ some "vpn" ∧ if scope.exposeNetwork = some "public" then Routable scope.exposeHostname scope.exposeTls
        else hostnames scope.exposeHostname = [] := by
  rw [validateExposeScope, if_pos exposed]
  rw [append_eq_nil_iff]
  apply and_congr
  · by_cases vpn : scope.exposeNetwork = some "vpn"
    · simp [vpn]
    · simp [vpn]
  · by_cases isPublic : scope.exposeNetwork = some "public"
    · rw [if_pos isPublic, if_pos isPublic, append_eq_nil_iff]
      change (if (hostnames scope.exposeHostname).isEmpty = true then _ else _) = [] ∧ _ ↔ _
      by_cases unnamed : hostnames scope.exposeHostname = []
      · constructor
        · intro ⟨refused, _⟩
          simp [unnamed] at refused
        · intro routable
          exact absurd unnamed routable.named
      · rw [if_neg (by simpa using unnamed), flatMap_eq_nil_iff]
        constructor
        · intro ⟨checked, tls⟩
          refine ⟨unnamed, ?_, ?_⟩
          · intro host member
            by_contra other
            simpa [other] using checked host member
          · intro plain
            simp [plain] at tls
        · intro routable
          refine ⟨?_, ?_⟩
          · intro host member
            rw [if_pos (routable.valid host member)]
          · rw [if_neg routable.secured]
    · rw [if_neg isPublic, if_neg isPublic]
      change (if (hostnames scope.exposeHostname).isEmpty = true then _ else _) = [] ↔ _
      by_cases unnamed : hostnames scope.exposeHostname = []
      · simp [unnamed]
      · simp [unnamed]

theorem admitted_exposes {name : String} (allowed : admitted name spec = true) :
    ∀ scope ∈ scopes spec, validateExposeScope scope = [] := by
  have valid := admitted_valid allowed
  simp only [validateApplicationSpec, append_eq_nil_iff, flatMap_eq_nil_iff] at valid
  obtain ⟨⟨⟨_, exposes⟩, _⟩, _⟩ := valid
  exact exposes

-- It makes public what had no tls, or takes the public route's hostnames or tls.
inductive ExposeClash (base : ApplicationExpose) (override : ExposeOverride) : Prop where
  | madePublic (network : override.network = some "public") (inherited : override.tls = none) (plain : base.tls = some false)
  | unnamed (network : override.network = none) (inherited : base.network = some "public")
      (emptied : ∃ hosts, override.hostname = some hosts ∧ hosts.intoVec = [])
  | plain (network : override.network = none) (inherited : base.network = some "public") (tls : override.tls = some false)

theorem clash_public (clash : ExposeClash base override) : override.network.or base.network = some "public" := by
  cases clash with
  | madePublic network _ _ => rw [network, some_or]
  | unnamed network inherited _ | plain network inherited _ => rw [network, none_or, inherited]

-- It names its hosts; only its tls may come from the base.
theorem own_public_sound (base : ApplicationExpose) (own : override.network = some "public")
    (checked : Routable override.hostname override.tls) :
    Routable (override.hostname.or base.hostname) (override.tls.or base.tls) ↔ ¬ExposeClash base override := by
  obtain ⟨hosts, listed⟩ : ∃ hosts, override.hostname = some hosts := by
    cases given : override.hostname with
    | none => exact absurd (by rw [given]; rfl) checked.named
    | some hosts => exact ⟨hosts, rfl⟩
  have kept : override.hostname.or base.hostname = override.hostname := by rw [listed, some_or]
  constructor
  · intro routable clash
    cases clash with
    | madePublic _ inherited plain => exact routable.secured (by rw [inherited, none_or, plain])
    | unnamed network _ _ | plain network _ _ => simp [own] at network
  · intro apart
    rw [kept]
    refine ⟨checked.named, checked.valid, ?_⟩
    intro plain
    cases given : override.tls with
    | none => exact apart (.madePublic own given (by rw [given] at plain; exact plain))
    | some tls => exact checked.secured (by rw [given, some_or] at plain; rw [given, plain])

-- It keeps the base's route, less what it takes away.
theorem inherited_public_sound (own : override.network = none)
    (inherited : base.network = some "public") (baseChecked : Routable base.hostname base.tls)
    (checked : hostnames override.hostname = []) :
    Routable (override.hostname.or base.hostname) (override.tls.or base.tls) ↔ ¬ExposeClash base override := by
  constructor
  · intro routable clash
    cases clash with
    | madePublic network _ _ => simp [own] at network
    | unnamed _ _ emptied =>
      obtain ⟨hosts, given, empty⟩ := emptied
      apply routable.named
      simp [given, hostnames, empty]
    | plain _ _ tls => exact routable.secured (by rw [tls, some_or])
  · intro apart
    have unset : override.hostname = none := by
      cases given : override.hostname with
      | none => rfl
      | some hosts =>
        rw [given] at checked
        exact absurd (.unnamed own inherited ⟨hosts, given, checked⟩) apart
    rw [unset]
    refine ⟨baseChecked.named, baseChecked.valid, ?_⟩
    intro plain
    cases given : override.tls with
    | none => exact baseChecked.secured (by rw [given] at plain; exact plain)
    | some tls => exact apart (.plain own inherited (by rw [given, some_or] at plain; rw [given, plain]))

theorem merged_sound
    (baseChecked : if base.network = some "public" then Routable base.hostname base.tls else hostnames base.hostname = [])
    (checked : if override.network = some "public" then Routable override.hostname override.tls
      else hostnames override.hostname = []) :
    (override.network.or base.network = some "public" →
        Routable (override.hostname.or base.hostname) (override.tls.or base.tls)) ↔ ¬ExposeClash base override := by
  by_cases isPublic : override.network.or base.network = some "public"
  · rw [forall_prop_of_true isPublic]
    cases own : override.network with
    | some network =>
      have named : override.network = some "public" := by rwa [own, some_or, ← own] at isPublic
      rw [if_pos named] at checked
      exact own_public_sound base named checked
    | none =>
      rw [own, none_or] at isPublic
      rw [if_pos isPublic] at baseChecked
      rw [own] at checked
      exact inherited_public_sound own isPublic baseChecked checked
  · constructor
    · intro _ clash
      exact isPublic (clash_public clash)
    · intro _ made
      exact absurd made isPublic

variable (accepted : ∀ scope ∈ scopes spec, validateExposeScope scope = [])

include accepted in
theorem base_checked (exposed : (spec.base.getD {}).expose = some base) :
    if base.network = some "public" then Routable base.hostname base.tls else hostnames base.hostname = [] := by
  have present : (Scope.ofBase (spec.base.getD {})).hasExpose = true := by
    change (spec.base.getD {}).expose.isSome = true
    rw [exposed]
    rfl
  have checked := ((validate_expose_ok present).mp (accepted _ (base_scope spec))).2
  change if (spec.base.getD {}).expose.bind (·.network) = some "public" then
      Routable ((spec.base.getD {}).expose.bind (·.hostname)) ((spec.base.getD {}).expose.bind (·.tls))
    else hostnames ((spec.base.getD {}).expose.bind (·.hostname)) = [] at checked
  rwa [exposed] at checked

include accepted in
theorem override_checked (member : entry ∈ environmentEntries spec) (exposed : entry.2.expose = some override) :
    if override.network = some "public" then Routable override.hostname override.tls else hostnames override.hostname = [] := by
  have present : (Scope.ofEnvironment entry.1 entry.2).hasExpose = true := by
    change entry.2.expose.isSome = true
    rw [exposed]
    rfl
  have checked := ((validate_expose_ok present).mp (accepted _ (environment_scope member))).2
  change if entry.2.expose.bind (·.network) = some "public" then
      Routable (entry.2.expose.bind (·.hostname)) (entry.2.expose.bind (·.tls))
    else hostnames (entry.2.expose.bind (·.hostname)) = [] at checked
  rwa [exposed] at checked

theorem alone_sound {expose : ApplicationExpose}
    (checked : if expose.network = some "public" then Routable expose.hostname expose.tls else hostnames expose.hostname = [])
    (isPublic : expose.network = some "public") : Routable expose.hostname expose.tls := by
  rwa [if_pos isPublic] at checked

theorem merge_expose_unset (base : Option ApplicationExpose) : mergeExpose base none = .ok base := by
  cases base with
  | none => rfl
  | some expose => rfl

theorem exposure_sound_iff (name : String) (spec : ApplicationSpec) (allowed : admitted name spec = true) :
    (∀ envName effective, effectiveSpec spec envName = .ok effective → ExposureSound effective) ↔
      ∀ entry ∈ environmentEntries spec, ∀ base override, (spec.base.getD {}).expose = some base →
        entry.2.expose = some override → ¬ExposeClash base override := by
  have accepted := admitted_exposes allowed
  rw [effective_specs]
  constructor
  · intro ⟨_, sound⟩ entry member base override baseExposed exposed
    apply (merged_sound (base_checked accepted baseExposed) (override_checked accepted member exposed)).mp
    intro isPublic
    have merged := (apply_override_ok (spec.base.getD {}) entry.2 _).mpr ⟨_, by rw [baseExposed, exposed]; rfl, rfl⟩
    exact sound entry member _ merged _ rfl isPublic
  · intro apart
    refine ⟨fun expose exposed => alone_sound (base_checked accepted exposed), ?_⟩
    intro entry member effective applied expose exposed
    obtain ⟨merged, computed, rfl⟩ := (apply_override_ok _ _ _).mp applied
    obtain rfl : merged = some expose := exposed
    cases own : entry.2.expose with
    | none =>
      rw [own] at computed
      have inherited : (spec.base.getD {}).expose = some expose := by
        rw [merge_expose_unset] at computed
        exact Except.ok.inj computed
      exact alone_sound (base_checked accepted inherited)
    | some override =>
      rw [own] at computed
      have checked := override_checked accepted member own
      cases base : (spec.base.getD {}).expose with
      | none =>
        rw [base] at computed
        cases port : override.port with
        | none =>
          simp [mergeExpose, tryIntoExpose, port, Except.map] at computed
        | some number =>
          simp only [mergeExpose, tryIntoExpose, port, Except.map, Except.ok.injEq, some.injEq] at computed
          subst computed
          exact alone_sound checked
      | some under =>
        rw [base] at computed
        obtain rfl := some.inj (Except.ok.inj computed)
        exact (merged_sound (base_checked accepted base) checked).mpr (apart entry member under override base own)

def publicSpec (override : ExposeOverride) : ApplicationSpec :=
  { base := some
      { image := some "ghcr.io/acme/shop:v1"
        expose := some { port := 8080, network := some "public", hostname := some (.one "shop.acme.dev") } }
    environments := some ⟨[("dev", { expose := some override })], pairwise_singleton _ _⟩ }

theorem other_port_sound :
    admitted "shop" (publicSpec { port := some 9090 }) = true ∧
      ∀ envName effective, effectiveSpec (publicSpec { port := some 9090 }) envName = .ok effective →
        ExposureSound effective := by
  refine ⟨by decide, (exposure_sound_iff "shop" (publicSpec { port := some 9090 }) (by decide)).mpr ?_⟩
  intro entry member base override _ exposed clash
  obtain rfl := mem_singleton.mp member
  cases exposed
  cases clash with
  | madePublic network _ _ => cases network
  | unnamed _ _ emptied =>
    obtain ⟨hosts, given, _⟩ := emptied
    cases given
  | plain _ _ tls => cases tls

-- The environment's own scope is not public, so its tls is never looked at.
theorem plain_public_admitted :
    ∃ spec : ApplicationSpec, admitted "shop" spec = true ∧
      ¬∀ envName effective, effectiveSpec spec envName = .ok effective → ExposureSound effective := by
  refine ⟨publicSpec { tls := some false }, by decide, ?_⟩
  intro sound
  have routable := sound (some "dev") _ rfl _ rfl rfl
  exact routable.secured rfl

end AppRafter.Webhook
