import AppRafter.Webhook.Quantity
import AppRafter.Webhook.Probes

set_option autoImplicit false

namespace AppRafter.Webhook

open Lib Application List Option

def requestsOf (resources : Option AppResources) : Dict String := (resources.bind (·.requests)).getD Dict.empty

def limitsOf (resources : Option AppResources) : Dict String := (resources.bind (·.limits)).getD Dict.empty

def checkQuantities (path kind : String) (quantities : Dict String) : List ValidationError :=
  quantities.entries.flatMap fun entry =>
    if isResourceQuantity entry.2 then []
    else
      [⟨path ++ ".resources." ++ kind ++ "." ++ entry.1, "resources." ++ kind ++ "." ++ entry.1 ++ " value " ++
        Text.debug entry.2 ++ " must be a Kubernetes quantity (e.g. \"256Mi\", \"100m\", \"1Gi\")"⟩]

def checkLimits (path : String) (requests limits : Dict String) : List ValidationError :=
  requests.entries.flatMap fun entry =>
    match limits.get entry.1 with
    | some limit =>
      if quantityLe entry.2 limit then []
      else
        [⟨path ++ ".resources", "requests." ++ entry.1 ++ " " ++ Text.debug entry.2 ++ " > limits." ++ entry.1 ++ " " ++
          Text.debug limit ++ "; a resource request must not exceed its limit"⟩]
    | none => []

def validateResourcesScope (path : String) (resources : Option AppResources) : List ValidationError :=
  checkQuantities path "requests" (requestsOf resources) ++ checkQuantities path "limits" (limitsOf resources) ++
    checkLimits path (requestsOf resources) (limitsOf resources)

def validateResources (spec : ApplicationSpec) : List ValidationError :=
  validateResourcesScope "spec.base" (spec.base.getD {}).resources ++ (environmentEntries spec).flatMap fun entry =>
      validateResourcesScope ("spec.environments." ++ entry.1) entry.2.resources

def admittedWithResources (name : String) (spec : ApplicationSpec) : Bool :=
  admitted name spec && (validateResources spec).isEmpty

def ResourcesSound (effective : ApplicationBaseSpec) : Prop :=
  ∀ key req limit, (requestsOf effective.resources).get key = some req → (limitsOf effective.resources).get key = some limit →
    Fits req limit

structure ResourcesAccepted (resources : Option AppResources) : Prop where
  requests : ∀ key req, (requestsOf resources).get key = some req → (quantityValue req).isSome = true
  limits : ∀ key limit, (limitsOf resources).get key = some limit → (quantityValue limit).isSome = true
  compared : ∀ key req limit, (requestsOf resources).get key = some req → (limitsOf resources).get key = some limit →
    quantityLe req limit = true

variable {path : String}

theorem check_quantities_ok {kind : String} {quantities : Dict String} (accepted : checkQuantities path kind quantities = [])
    (key quantity : String) (listed : quantities.get key = some quantity) : (quantityValue quantity).isSome = true := by
  rw [checkQuantities, flatMap_eq_nil_iff] at accepted
  have checked := accepted (key, quantity) ((Dict.get_eq_some quantities key quantity).mp listed)
  apply resource_quantity_value
  by_contra refused
  rw [if_neg refused] at checked
  cases checked

theorem scope_resources_accepted {resources : Option AppResources}
    (accepted : validateResourcesScope path resources = []) : ResourcesAccepted resources := by
  simp only [validateResourcesScope, append_eq_nil_iff] at accepted
  obtain ⟨⟨requests, limits⟩, compared⟩ := accepted
  refine ⟨check_quantities_ok requests, check_quantities_ok limits, ?_⟩
  intro key req limit requested limited
  rw [checkLimits, flatMap_eq_nil_iff] at compared
  have checked := compared (key, req) ((Dict.get_eq_some _ key req).mp requested)
  rw [limited] at checked
  by_contra refused
  simp [refused] at checked

theorem no_resources_accepted : ResourcesAccepted none := by
  refine ⟨?_, ?_, ?_⟩
  · intro key req requested
    cases requested
  · intro key limit limited
    cases limited
  · intro key req limit requested
    cases requested

theorem merge_map_get (base override : Option (Dict String)) (key : String) : ((mergeMap base override).getD Dict.empty).get key =
      ((override.getD Dict.empty).get key).or ((base.getD Dict.empty).get key) := by
  cases override with
  | none => cases base <;> rfl
  | some own =>
    cases base with
    | none => exact (or_none).symm
    | some under => exact Dict.get_extend under own key

variable (base override : Option AppResources)

theorem merged_requests (key : String) : (requestsOf (mergeResources base override)).get key =
      ((requestsOf override).get key).or ((requestsOf base).get key) := by
  cases override with
  | none => cases base <;> rfl
  | some own =>
    cases base with
    | none => exact (or_none).symm
    | some under => exact merge_map_get under.requests own.requests key

theorem merged_limits (key : String) :
    (limitsOf (mergeResources base override)).get key = ((limitsOf override).get key).or ((limitsOf base).get key) := by
  cases override with
  | none => cases base <;> rfl
  | some own =>
    cases base with
    | none => exact (or_none).symm
    | some under => exact merge_map_get under.limits own.limits key

-- In one scope by no more than the comparison can tell, or across the two scopes.
inductive ResourceClash (base override : Option AppResources) (key : String) : Prop where
  | inBase (req limit : String) (keptRequest : (requestsOf override).get key = none)
      (keptLimit : (limitsOf override).get key = none) (requested : (requestsOf base).get key = some req)
      (limited : (limitsOf base).get key = some limit) (blurred : Blurred req limit) (above : Exceeds req limit)
  | inOverride (req limit : String) (requested : (requestsOf override).get key = some req)
      (limited : (limitsOf override).get key = some limit) (blurred : Blurred req limit) (above : Exceeds req limit)
  | limitLowered (req limit : String) (keptRequest : (requestsOf override).get key = none)
      (requested : (requestsOf base).get key = some req) (limited : (limitsOf override).get key = some limit)
      (above : Exceeds req limit)
  | requestRaised (req limit : String) (keptLimit : (limitsOf override).get key = none)
      (requested : (requestsOf override).get key = some req) (limited : (limitsOf base).get key = some limit)
      (above : Exceeds req limit)

def MergedFits : Prop :=
  ∀ key req limit, (requestsOf (mergeResources base override)).get key = some req →
    (limitsOf (mergeResources base override)).get key = some limit → Fits req limit

theorem or_some_cases {α : Type} {a b : Option α} {value : α} (found : a.or b = some value) :
    a = some value ∨ a = none ∧ b = some value := by
  cases a with
  | none => exact .inr ⟨rfl, by rwa [none_or] at found⟩
  | some own => exact .inl (by rwa [some_or] at found)

theorem merged_fits {base override : Option AppResources} (under : ResourcesAccepted base) (own : ResourcesAccepted override) :
    MergedFits base override ↔ ∀ key, ¬ResourceClash base override key := by
  have value (key : String) (req : String) (found : ((requestsOf override).get key).or ((requestsOf base).get key) = some req) :
      (quantityValue req).isSome = true := by
    rcases or_some_cases found with given | ⟨_, kept⟩
    · exact own.requests key req given
    · exact under.requests key req kept
  have bound (key : String) (limit : String) (found : ((limitsOf override).get key).or ((limitsOf base).get key) = some limit) :
      (quantityValue limit).isSome = true := by
    rcases or_some_cases found with given | ⟨_, kept⟩
    · exact own.limits key limit given
    · exact under.limits key limit kept
  constructor
  · intro sound key clash
    have fits (req limit : String) (requested : ((requestsOf override).get key).or ((requestsOf base).get key) = some req)
        (limited : ((limitsOf override).get key).or ((limitsOf base).get key) = some limit) : ¬Exceeds req limit :=
      (fits_or_exceeds (value key req requested) (bound key limit limited)).mp
        (sound key req limit (by rw [merged_requests, requested]) (by rw [merged_limits, limited]))
    cases clash with
    | inBase req limit keptRequest keptLimit requested limited blurred above =>
      exact fits req limit (by rw [keptRequest, requested]; rfl) (by rw [keptLimit, limited]; rfl) above
    | inOverride req limit requested limited blurred above =>
      exact fits req limit (by rw [requested]; rfl) (by rw [limited]; rfl) above
    | limitLowered req limit keptRequest requested limited above =>
      exact fits req limit (by rw [keptRequest, requested]; rfl) (by rw [limited]; rfl) above
    | requestRaised req limit keptLimit requested limited above =>
      exact fits req limit (by rw [requested]; rfl) (by rw [keptLimit, limited]; rfl) above
  · intro apart key req limit requested limited
    rw [merged_requests] at requested
    rw [merged_limits] at limited
    apply (fits_or_exceeds (value key req requested) (bound key limit limited)).mpr
    intro above
    rcases or_some_cases requested with request | ⟨keptRequest, request⟩
    · rcases or_some_cases limited with cap | ⟨keptLimit, cap⟩
      · exact apart key (.inOverride req limit request cap (le_blurred (own.compared key req limit request cap)) above)
      · exact apart key (.requestRaised req limit keptLimit request cap above)
    · rcases or_some_cases limited with cap | ⟨keptLimit, cap⟩
      · exact apart key (.limitLowered req limit keptRequest request cap above)
      · have blurred := le_blurred (under.compared key req limit request cap)
        exact apart key (.inBase req limit keptRequest keptLimit request cap blurred above)

theorem resources_sound_iff (name : String) (spec : ApplicationSpec) (allowed : admittedWithResources name spec = true) :
    (∀ envName effective, effectiveSpec spec envName = .ok effective → ResourcesSound effective) ↔
      (∀ key, ¬ResourceClash (spec.base.getD {}).resources none key) ∧
        ∀ entry ∈ environmentEntries spec, ∀ key, ¬ResourceClash (spec.base.getD {}).resources entry.2.resources key := by
  rw [admittedWithResources, Bool.and_eq_true, List.isEmpty_iff] at allowed
  obtain ⟨exposed, resources⟩ := allowed
  rw [validateResources, append_eq_nil_iff, flatMap_eq_nil_iff] at resources
  have under := scope_resources_accepted resources.1
  have plain : mergeResources (spec.base.getD {}).resources none = (spec.base.getD {}).resources := by
    cases (spec.base.getD {}).resources with
    | none => rfl
    | some own => rfl
  rw [effective_specs]
  apply and_congr
  · have fits := merged_fits under no_resources_accepted
    rw [MergedFits, plain] at fits
    exact fits
  · apply forall_congr'
    intro entry
    apply forall_congr'
    intro member
    have fits := merged_fits under (scope_resources_accepted (resources.2 entry member))
    constructor
    · intro all
      obtain ⟨expose, computed⟩ := admitted_computes exposed member
      exact fits.mp (all _ ((apply_override_ok (spec.base.getD {}) entry.2 _).mpr ⟨expose, computed, rfl⟩))
    · intro apart effective applied
      obtain ⟨expose, computed, rfl⟩ := (apply_override_ok _ _ _).mp applied
      exact fits.mpr apart

def sizedSpec (request limit : String) : ApplicationSpec :=
  { base := some
      { image := some "ghcr.io/acme/shop:v1"
        resources := some { requests := some ⟨[("cpu", request)], pairwise_singleton _ _⟩ } }
    environments := some ⟨[("dev", { resources := some { limits := some ⟨[("cpu", limit)], pairwise_singleton _ _⟩ } })],
        pairwise_singleton _ _⟩ }

theorem half_core : quantityValue "500m" = some (1 / 2) := by decide +kernel

theorem tenth_core : quantityValue "100m" = some (1 / 10) := by decide +kernel

theorem whole_core : quantityValue "1" = some 1 := by decide +kernel

theorem whole_core_sound :
    admittedWithResources "shop" (sizedSpec "500m" "1") = true ∧
      ∀ envName effective, effectiveSpec (sizedSpec "500m" "1") envName = .ok effective → ResourcesSound effective := by
  refine ⟨by decide +kernel, (resources_sound_iff "shop" _ (by decide +kernel)).mpr ⟨?_, ?_⟩⟩
  · intro key clash
    cases clash with
    | inBase req limit _ _ _ limited _ _ => cases limited
    | inOverride req limit requested _ _ _ => cases requested
    | limitLowered req limit _ _ limited _ => cases limited
    | requestRaised req limit _ requested _ _ => cases requested
  · intro entry member key clash
    obtain rfl := mem_singleton.mp member
    cases clash with
    | inBase req limit _ _ _ limited _ _ => cases limited
    | inOverride req limit requested _ _ _ => cases requested
    | requestRaised req limit _ requested _ _ => cases requested
    | limitLowered req limit _ requested limited above =>
      obtain ⟨r, l, first, second, exceeds⟩ := above
      have half := mem_singleton.mp ((Dict.get_eq_some _ key req).mp requested)
      have whole := mem_singleton.mp ((Dict.get_eq_some _ key limit).mp limited)
      rw [(Prod.mk.inj half).2, half_core] at first
      rw [(Prod.mk.inj whole).2, whole_core] at second
      cases first
      cases second
      exact absurd exceeds (by decide +kernel)

-- The environment lowers the limit below the base's request.
theorem lowered_limit_admitted :
    ∃ spec : ApplicationSpec, admittedWithResources "shop" spec = true ∧
      ¬∀ envName effective, effectiveSpec spec envName = .ok effective → ResourcesSound effective := by
  refine ⟨sizedSpec "500m" "100m", by decide +kernel, ?_⟩
  intro sound
  obtain ⟨r, l, first, second, fits⟩ := sound (some "dev") _ rfl "cpu" "500m" "100m" rfl rfl
  rw [half_core] at first
  rw [tenth_core] at second
  cases first
  cases second
  exact absurd fits (by decide +kernel)

end AppRafter.Webhook
