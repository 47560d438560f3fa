import AppRafter.Application.ClaimIdentity
import AppRafter.Webhook.Resources

set_option autoImplicit false

namespace AppRafter.Webhook

open Lib Application List Option

variable {names : List (Option String)} {needs : Needs} {type name field path : String}

theorem slot_names_entry {slot : Option (OneOrMany ServiceNeed)}
    (declared : slotNames slot = some names) {name : Option String} (listed : name ∈ names) :
    ∃ need ∈ slotEntries slot, need.name = name := by
  cases slot with
  | none => cases declared
  | some entries =>
    cases declared
    exact mem_map.mp listed

theorem mem_service (needs : Needs) (kind : ServiceType) (need : ServiceNeed) :
    .service kind need ∈ needs.entries ↔ need ∈ serviceEntries needs kind := by
  cases kind with
  | pg | jetstream | clickhouse | redis | s3 | notifications => simp [Needs.entries, serviceEntries]

theorem mem_disk (needs : Needs) (disk : DiskClaim) : .disk disk ∈ needs.entries ↔ disk ∈ slotEntries needs.disk := by
  simp [Needs.entries]

theorem declared_name_entry (declared : declaredNeedNames needs type = some names) (filled : name.toList.isEmpty = false)
    (listed : some name ∈ names) : HasEntry needs type (some name) := by
  have entry (kind : ServiceType) (need : ServiceNeed) (named : need.name = some name)
      (member : .service kind need ∈ needs.entries) : HasEntry needs kind.text (some name) :=
    ⟨kind, need, member, rfl, by simp [specName, named, filled]⟩
  unfold declaredNeedNames at declared
  split at declared
  · obtain ⟨need, member, named⟩ := slot_names_entry declared listed
    exact entry .pg need named ((mem_service needs .pg need).mpr member)
  · obtain ⟨need, member, named⟩ := slot_names_entry declared listed
    exact entry .clickhouse need named ((mem_service needs .clickhouse need).mpr member)
  · obtain ⟨need, member, named⟩ := slot_names_entry declared listed
    exact entry .redis need named ((mem_service needs .redis need).mpr member)
  · obtain ⟨need, member, named⟩ := slot_names_entry declared listed
    exact entry .s3 need named ((mem_service needs .s3 need).mpr member)
  · obtain ⟨need, member, named⟩ := slot_names_entry declared listed
    exact entry .notifications need named ((mem_service needs .notifications need).mpr member)
  · obtain ⟨js, _, rfl⟩ := map_eq_some_iff.mp declared
    exact absurd (mem_singleton.mp listed) (by simp)
  · cases declared

-- It leaves out that an unnamed reference has an unnamed entry.
inductive RefAccepted (needs : Needs) (path : String) : Prop where
  | unnamed (type leaf : String) (cut : Text.split '.' path = [type, leaf])
  | named (type name leaf : String) (cut : Text.split '.' path = [type, name, leaf]) (entry : HasEntry needs type (some name))

theorem check_name_entry
    (accepted : checkClaimName field path type name names = []) : some name ∈ names ∧ name.toList.isEmpty = false := by
  unfold checkClaimName at accepted
  by_cases known : ((names.filterMap id).filter fun entry => !entry.toList.isEmpty).contains name = true
  · rw [contains_iff_mem, mem_filter] at known
    refine ⟨?_, by simpa using known.2⟩
    obtain ⟨own, listed, same⟩ := mem_filterMap.mp known.1
    obtain rfl : own = some name := same
    exact listed
  · rw [if_neg known] at accepted
    split at accepted
    · cases accepted
    · split at accepted
      · cases accepted
      · cases accepted

theorem check_parts_name {leaf : String}
    (accepted : checkClaimParts field path type (some name) leaf needs = []) : HasEntry needs type (some name) := by
  unfold checkClaimParts at accepted
  split at accepted
  · cases accepted
  · cases declared : declaredNeedNames needs type with
    | none => simp [declared] at accepted
    | some names =>
      simp only [declared] at accepted
      split at accepted
      · cases accepted
      · obtain ⟨listed, filled⟩ := check_name_entry accepted
        exact declared_name_entry declared filled listed

theorem claim_ref_accepted (accepted : validateClaimRef field path needs = []) : RefAccepted needs path := by
  unfold validateClaimRef at accepted
  split at accepted
  · rename_i type leaf cut
    exact .unnamed type leaf cut
  · rename_i type name leaf cut
    exact .named type name leaf cut (check_parts_name accepted)
  · cases accepted

theorem secret_ref_resolves (accepted : validateSecretRef field path = []) : (Text.splitOnce '/' path.toList).isSome = true := by
  unfold validateSecretRef at accepted
  cases cut : Text.splitOnce '/' path.toList with
  | none =>
    rw [cut] at accepted
    cases accepted
  | some parts => rfl

def ValueAccepted (needs : Needs) : EnvValue → Prop
  | .literal _ => True
  | .ref (.claim path) => RefAccepted needs path
  | .ref (.secret path) => (Text.splitOnce '/' path.toList).isSome = true

theorem scope_env_accepted {base : Option Needs} {scope : Scope} (accepted : validateEnvRefsScope base scope = [])
    {key : String} {value : EnvValue} (listed : (scope.env.getD Dict.empty).get key = some value) :
    ValueAccepted (effectiveNeedsForScope base scope.needs) value := by
  rw [validateEnvRefsScope, flatMap_eq_nil_iff] at accepted
  have checked := accepted (key, value) ((Dict.get_eq_some _ key value).mp listed)
  cases value with
  | literal text => trivial
  | ref target =>
    cases target with
    | claim path => exact claim_ref_accepted checked
    | secret path => exact secret_ref_resolves checked

variable (effective : ApplicationBaseSpec)

def envOf : Dict EnvValue := effective.env.getD Dict.empty

-- With every entry connected, each key of the effective env becomes one entry.
def EnvRenders : Prop :=
  ∀ claims, Connected (effective.needs.getD {}) claims →
    (resolveEnv (envOf effective) (resolveNeedsSecrets claims)).map (·.name) = (envOf effective).keys

def Resolvable (needs : Needs) : EnvValue → Prop
  | .literal _ => True
  | .ref (.claim path) => ∃ type name leaf, claimRefParts path = some (type, name, leaf) ∧ HasEntry needs type name
  | .ref (.secret path) => (Text.splitOnce '/' path.toList).isSome = true

theorem renders_resolvable : EnvRenders effective ↔
      ∀ key value, (envOf effective).get key = some value → Resolvable (effective.needs.getD {}) value := by
  constructor
  · intro renders key value listed
    have resolved := (resolve_env_names _ _).mp (renders _ (entry_views_connected _)) key value listed
    cases value with
    | literal text => trivial
    | ref target =>
      cases target with
      | claim path =>
        obtain ⟨var, found⟩ := isSome_iff_exists.mp resolved
        obtain ⟨parts, cut, secret⟩ := bind_eq_some_iff.mp found
        obtain ⟨own, connected, _⟩ := map_eq_some_iff.mp secret
        exact ⟨parts.1, parts.2.1, parts.2.2, cut, entry_views_entry (by rw [connected]; rfl)⟩
      | secret path =>
        change (Text.splitOnce '/' path.toList).isSome = true
        simpa [resolveEnvValue] using resolved
  · intro resolvable claims connected
    apply (resolve_env_names _ _).mpr
    intro key value listed
    have target := resolvable key value listed
    cases value with
    | literal text => rfl
    | ref ref =>
      cases ref with
      | claim path =>
        obtain ⟨type, name, leaf, cut, entry⟩ := target
        obtain ⟨secret, found⟩ := isSome_iff_exists.mp (connected_found connected entry)
        simp [resolveEnvValue, cut, found]
      | secret path =>
        have cut : (Text.splitOnce '/' path.toList).isSome = true := target
        simpa [resolveEnvValue] using cut

-- No unnamed entry for an unnamed one, or the base's entry gone from the override's list.
inductive EnvClash (needs : Needs) (base override : Dict EnvValue) : Prop where
  | unnamed (key path type leaf : String) (listed : (base.extend override).get key = some (.ref (.claim path)))
      (cut : Text.split '.' path = [type, leaf]) (allNamed : ¬HasEntry needs type none)
  | dropped (key path type name leaf : String) (inherits : override.get key = none)
      (listed : base.get key = some (.ref (.claim path))) (cut : Text.split '.' path = [type, name, leaf])
      (gone : ¬HasEntry needs type (some name))

theorem unnamed_parts {leaf : String} (cut : Text.split '.' path = [type, leaf]) :
    claimRefParts path = some (type, none, leaf) := by
  rw [claimRefParts, cut]

theorem named_parts {leaf : String} (cut : Text.split '.' path = [type, name, leaf]) :
    claimRefParts path = some (type, some name, leaf) := by
  rw [claimRefParts, cut]
  rfl

section Merged

variable {needs under : Needs} {base : Dict EnvValue} (override : Dict EnvValue)
  (baseAccepted : ∀ key value, base.get key = some value → ValueAccepted under value)
  (accepted : ∀ key value, override.get key = some value → ValueAccepted needs value)

include baseAccepted accepted

theorem merged_resolvable :
    (∀ key value, (base.extend override).get key = some value → Resolvable needs value) ↔ ¬EnvClash needs base override := by
  constructor
  · intro all clash
    cases clash with
    | unnamed key path type leaf listed cut allNamed =>
      obtain ⟨other, name, rest, parts, entry⟩ := all key _ listed
      rw [unnamed_parts cut] at parts
      obtain ⟨rfl, tail⟩ := Prod.mk.inj (some.inj parts)
      obtain ⟨rfl, _⟩ := Prod.mk.inj tail
      exact allNamed entry
    | dropped key path type name leaf inherits listed cut gone =>
      have merged : (base.extend override).get key = some (.ref (.claim path)) := by
        rw [Dict.get_extend, inherits, none_or, listed]
      obtain ⟨other, own, rest, parts, entry⟩ := all key _ merged
      rw [named_parts cut] at parts
      obtain ⟨rfl, tail⟩ := Prod.mk.inj (some.inj parts)
      obtain ⟨rfl, _⟩ := Prod.mk.inj tail
      exact gone entry
  · intro apart key value listed
    have place := listed
    rw [Dict.get_extend] at place
    cases value with
    | literal text => trivial
    | ref target =>
      cases target with
      | secret path =>
        rcases or_some_cases place with own | ⟨_, inherited⟩
        · exact accepted key _ own
        · exact baseAccepted key _ inherited
      | claim path =>
        have unnamed (type leaf : String) (cut : Text.split '.' path = [type, leaf]) : Resolvable needs (.ref (.claim path)) := by
          refine ⟨type, none, leaf, unnamed_parts cut, ?_⟩
          by_contra allNamed
          exact apart (.unnamed key path type leaf listed cut allNamed)
        rcases or_some_cases place with own | ⟨inherits, inherited⟩
        · cases accepted key _ own with
          | unnamed type leaf cut => exact unnamed type leaf cut
          | named type name leaf cut entry =>
            exact ⟨type, some name, leaf, named_parts cut, entry⟩
        · cases baseAccepted key _ inherited with
          | unnamed type leaf cut => exact unnamed type leaf cut
          | named type name leaf cut entry =>
            refine ⟨type, some name, leaf, named_parts cut, ?_⟩
            by_contra gone
            exact apart (.dropped key path type name leaf inherits inherited cut gone)

end Merged

theorem admitted_env_refs {spec : ApplicationSpec} (allowed : admitted name spec = true) :
    ∀ scope ∈ scopes spec, validateEnvRefsScope (spec.base.getD {}).needs scope = [] := by
  have valid := admitted_valid allowed
  simp only [validateApplicationSpec, append_eq_nil_iff, flatMap_eq_nil_iff] at valid
  obtain ⟨⟨⟨⟨⟨_, refs⟩, _⟩, _⟩, _⟩, _⟩ := valid
  exact refs

theorem merge_needs_over (base override : Option Needs) :
    (mergeNeeds base override).getD {} = mergeNeedsKeys (base.getD {}) (override.getD {}) := by
  cases override with
  | none => simp [mergeNeeds, mergeNeedsKeys]
  | some own => rfl

theorem merge_env_over (base override : Option (Dict EnvValue)) :
    (mergeEnv base override).getD Dict.empty = (base.getD Dict.empty).extend (override.getD Dict.empty) := by
  cases override with
  | none => rfl
  | some own => rfl

theorem env_renders_iff (name : String) (spec : ApplicationSpec) (allowed : admitted name spec = true) :
    (∀ envName effective, effectiveSpec spec envName = .ok effective → EnvRenders effective) ↔
      ¬EnvClash ((spec.base.getD {}).needs.getD {}) (envOf (spec.base.getD {})) Dict.empty ∧ ∀ entry ∈ environmentEntries spec,
          ¬EnvClash (mergeNeedsKeys ((spec.base.getD {}).needs.getD {}) (entry.2.needs.getD {})) (envOf (spec.base.getD {}))
            (entry.2.env.getD Dict.empty) := by
  have accepted := admitted_env_refs allowed
  have whole (needs : Needs) : mergeNeedsKeys needs needs = needs := by
    simp [mergeNeedsKeys]
  have baseAccepted : ∀ key value, (envOf (spec.base.getD {})).get key = some value →
      ValueAccepted ((spec.base.getD {}).needs.getD {}) value := by
    intro key value listed
    have checked := scope_env_accepted (accepted _ (base_scope spec)) listed
    change ValueAccepted (mergeNeedsKeys ((spec.base.getD {}).needs.getD {}) ((spec.base.getD {}).needs.getD {})) value at checked
    rwa [whole] at checked
  rw [effective_specs]
  apply and_congr
  · rw [renders_resolvable]
    exact merged_resolvable Dict.empty baseAccepted (fun key value listed => by cases listed)
  · apply forall_congr'
    intro entry
    apply forall_congr'
    intro member
    have merged := merged_resolvable (entry.2.env.getD Dict.empty) baseAccepted fun key value listed =>
        scope_env_accepted (accepted _ (environment_scope member)) listed
    have renders (effective : ApplicationBaseSpec) (applied : applyOverride (spec.base.getD {}) entry.2 = .ok effective) :
        EnvRenders effective ↔
          ¬EnvClash (mergeNeedsKeys ((spec.base.getD {}).needs.getD {}) (entry.2.needs.getD {})) (envOf (spec.base.getD {}))
            (entry.2.env.getD Dict.empty) := by
      obtain ⟨expose, computed, rfl⟩ := (apply_override_ok _ _ _).mp applied
      rw [renders_resolvable]
      unfold envOf
      rw [merge_needs_over, merge_env_over]
      exact merged
    constructor
    · intro all
      obtain ⟨expose, computed⟩ := admitted_computes allowed member
      have applied := (apply_override_ok (spec.base.getD {}) entry.2 _).mpr ⟨expose, computed, rfl⟩
      exact (renders _ applied).mp (all _ applied)
    · intro apart effective applied
      exact (renders effective applied).mpr apart

def listedSpec (value : EnvValue) (needs : Needs) : ApplicationSpec :=
  { base := some
      { image := some "ghcr.io/acme/shop:v1"
        env := some ⟨[("DATABASE_URL", value)], pairwise_singleton _ _⟩
        needs := some { pg := some (.many [{ name := some "orders" }]) } }
    environments := some ⟨[("dev", { needs := some needs })], pairwise_singleton _ _⟩ }

theorem named_ref_renders :
    admitted "shop" (listedSpec (.ref (.claim "pg.orders.url")) {}) = true ∧
      ∀ envName effective, effectiveSpec (listedSpec (.ref (.claim "pg.orders.url")) {}) envName = .ok effective →
        EnvRenders effective := by
  have apart (override : Dict EnvValue) (plain : override = Dict.empty) :
      ¬EnvClash { pg := some (.many [{ name := some "orders" }]) }
        ⟨[("DATABASE_URL", .ref (.claim "pg.orders.url"))], pairwise_singleton _ _⟩ override := by
    subst plain
    intro clash
    cases clash with
    | unnamed key path type leaf listed cut _ =>
      have same := mem_singleton.mp ((Dict.get_eq_some _ key _).mp listed)
      obtain rfl := EnvRef.claim.inj (EnvValue.ref.inj (Prod.mk.inj same).2)
      have sizes : 3 = 2 := congrArg List.length cut
      exact absurd sizes (by decide)
    | dropped key path type name leaf _ listed cut gone =>
      have same := mem_singleton.mp ((Dict.get_eq_some _ key _).mp listed)
      obtain rfl := EnvRef.claim.inj (EnvValue.ref.inj (Prod.mk.inj same).2)
      have parts : ["pg", "orders", "url"] = [type, name, leaf] := cut
      obtain ⟨rfl, rest⟩ := List.cons.inj parts
      obtain ⟨rfl, _⟩ := List.cons.inj rest
      exact gone ⟨.pg, { name := some "orders" }, by decide, rfl, by decide⟩
  refine ⟨by decide, (env_renders_iff "shop" _ (by decide)).mpr ⟨apart _ rfl, ?_⟩⟩
  intro entry member
  obtain rfl := mem_singleton.mp member
  exact apart _ rfl

-- The environment replaces the list that the base's reference names an entry of.
theorem replaced_list_admitted :
    ∃ spec : ApplicationSpec, admitted "shop" spec = true ∧
      ¬∀ envName effective, effectiveSpec spec envName = .ok effective → EnvRenders effective := by
  refine ⟨listedSpec (.ref (.claim "pg.orders.url")) { pg := some (.one {}) }, by decide, ?_⟩
  intro renders
  have names := renders (some "dev") _ rfl (entryViews { pg := some (.one {}) }) (entry_views_connected _)
  exact absurd names (by decide)

end AppRafter.Webhook
