import AppRafter.Application.Spec

set_option autoImplicit false

namespace AppRafter.Application

open Lib List

def foldChar (c : Char) : Char := if c.isAlphanum then c.toLower else '-'

def foldText (s : String) : List Char := s.toList.map foldChar

def trimDashes (chars : List Char) : List Char := chars.rdropWhile (· == '-')

def claimName (app type : String) (name : Option String) : String :=
  let raw := match name with
    | some text => if text.toList.isEmpty then app ++ "-" ++ type else app ++ "-" ++ type ++ "-" ++ text
    | none => app ++ "-" ++ type
  String.ofList (trimDashes ((foldText raw).take 63))

structure OwnerReference where
  apiVersion : String
  kind : String
  name : String
  uid : String
  controller : Option Bool
  blockOwnerDeletion : Option Bool
deriving DecidableEq

structure ResourceClaimJetStream where
  dynamicStreams : Bool
  streams : List JetStreamStream
  consume : List JetStreamConsume
deriving DecidableEq

structure ResourceClaimSpec where
  type : String
  selector : Dict String
  name : Option String := none
  size : Option String := none
  persistent : Option Bool := none
  sharedRef : Option String := none
  access : Option String := none
  extensions : Option (List PgExtension) := none
  jetstream : Option ResourceClaimJetStream := none
deriving DecidableEq

structure ClaimPayload where
  name : String
  ns : String
  labels : List (String × String)
  ownerReferences : List OwnerReference
  spec : ResourceClaimSpec
deriving DecidableEq

def defaultIntegratedSelector : Dict String := { entries := [("tier", "integrated")] }

def applicationOwner (appName appUid : String) : OwnerReference :=
  { apiVersion := "apprafter.io/v1alpha1"
    kind := "Application"
    name := appName
    uid := appUid
    controller := some true
    blockOwnerDeletion := some true }

def entryClaimName (appName : String) (entry : NeedEntry) : String :=
  match entry with
  | .disk disk =>
    match disk.reference with
    | some reference => claimName appName "shared-disk" (some reference)
    | none => claimName appName entry.type entry.name
  | .service _ _ => claimName appName entry.type entry.name

def specName (name : Option String) : Option String := name.filter fun text => !text.toList.isEmpty

def diskClaimSpec (disk : DiskClaim) : ResourceClaimSpec :=
  match disk.reference with
  | some _ => { type := "shared-disk", selector := defaultIntegratedSelector }
  | none => { type := "disk", selector := defaultIntegratedSelector, size := disk.size, name := specName disk.name }

variable (spec : ApplicationBaseSpec)

def serviceClaimSpec (type : ServiceType) (need : ServiceNeed) : ResourceClaimSpec :=
  { type := type.text
    selector := need.selector.getD defaultIntegratedSelector
    name := specName need.name
    size := need.size
    persistent := need.persistent
    sharedRef := need.ref
    access := need.access
    extensions := need.extensions.filter fun extensions => !extensions.isEmpty
    jetstream := match type with
      | .jetstream => (spec.needs.bind (·.jetstream)).map fun js => ⟨js.dynamicStreams, js.streams, js.consume⟩
      | _ => none }

def claimSpec : NeedEntry → ResourceClaimSpec
  | .disk disk => diskClaimSpec disk
  | .service type need => serviceClaimSpec spec type need

def claimLabels : NeedEntry → List (String × String)
  | .disk disk => disk.reference.toList.map fun reference => ("apprafter.io/shared-volume", reference)
  | .service _ _ => []

def needEntries : List NeedEntry := (spec.needs.map Needs.entries).getD []

variable (appName appUid ns : String)

def generateResourceClaims : List ClaimPayload :=
  (needEntries spec).map fun entry =>
    { name := entryClaimName appName entry
      ns := ns
      labels := claimLabels entry
      ownerReferences := [applicationOwner appName appUid]
      spec := claimSpec spec entry }

structure LiveClaim where
  name : Option String
  deletionTimestamp : Option String
  ownerReferences : List OwnerReference

def claimsToPrune (live : List LiveClaim) (appUid : String) (desired : List String) : List String :=
  if appUid.toList.isEmpty then []
  else
    ((live.filter fun claim => claim.deletionTimestamp.isNone &&
      claim.ownerReferences.any fun owner => owner.controller.getD false && owner.uid == appUid).filterMap
        (·.name)).filter fun name => !desired.contains name

def desiredClaims : List String :=
  (generateResourceClaims spec appName appUid ns).map (·.name)

def ClaimPayload.live (payload : ClaimPayload) : LiveClaim :=
  { name := some payload.name, deletionTimestamp := none, ownerReferences := payload.ownerReferences }

structure ClaimView where
  name : String
  type : String
  entryName : Option String := none
  ready : Option Bool := none
  connectionSecretRef : Option String := none
  volumeClaimRef : Option String := none
deriving DecidableEq

def ClaimView.isReady (claim : ClaimView) : Bool :=
  claim.ready == some true && (claim.connectionSecretRef.isSome || claim.volumeClaimRef.isSome)

def unreadyClaimNames (claims : List ClaimView) : List String := (claims.filter fun claim => !claim.isReady).map (·.name)

theorem desired_claims_eq :
    desiredClaims spec appName appUid ns = (needEntries spec).map (entryClaimName appName) := by
  simp [desiredClaims, generateResourceClaims]

variable {appUid name : String} {desired : List String}

theorem pruned_not_desired {live : List LiveClaim} (pruned : name ∈ claimsToPrune live appUid desired) : name ∉ desired := by
  unfold claimsToPrune at pruned
  split at pruned
  · exact nomatch pruned
  · have kept := (mem_filter.mp pruned).2
    simpa using kept

theorem generated_pruned {spec : ApplicationBaseSpec} {appName ns : String}
    (identified : appUid.toList.isEmpty = false)
    (generated : name ∈ desiredClaims spec appName appUid ns) (dropped : name ∉ desired) :
    name ∈ claimsToPrune ((generateResourceClaims spec appName appUid ns).map ClaimPayload.live) appUid
      desired := by
  obtain ⟨payload, member, same⟩ := mem_map.mp generated
  obtain ⟨entry, _, built⟩ := mem_map.mp member
  rw [claimsToPrune, identified]
  refine mem_filter.mpr ⟨mem_filterMap.mpr ⟨payload.live, ?_, congrArg some same⟩, by simpa using dropped⟩
  refine mem_filter.mpr ⟨mem_map_of_mem member, ?_⟩
  rw [← built]
  simp [ClaimPayload.live, applicationOwner]

open Option

structure SecretKeySelector where
  name : String
  key : String
  isOptional : Bool := false

structure EnvVar where
  name : String
  value : Option String := none
  secretKeyRef : Option SecretKeySelector := none

-- The map is modelled by its lookups: the last claim inserted under a key is found.
def resolveNeedsSecrets (claims : List ClaimView) (type : String) (name : Option String) : Option String :=
  (claims.filterMap fun claim =>
    claim.connectionSecretRef.map fun secret => ((claim.type, specName claim.entryName), secret)).reverse.lookup (type, name)

def claimRefParts (path : String) : Option (String × Option String × String) :=
  match Text.split '.' path with
  | [type, field] => some (type, none, field)
  | type :: name :: first :: rest => some (type, some name, String.intercalate "." (first :: rest))
  | _ => none

def resolveEnvValue (secrets : String → Option String → Option String) (varName : String) : EnvValue → Option EnvVar
  | .literal text => some { name := varName, value := some text }
  | .ref (.claim path) =>
    (claimRefParts path).bind fun parts =>
      (secrets parts.1 parts.2.1).map fun secret =>
        { name := varName, secretKeyRef := some { name := secret, key := parts.2.2 } }
  | .ref (.secret path) =>
    (Text.splitOnce '/' path.toList).map fun parts =>
      { name := varName, secretKeyRef := some { name := String.ofList parts.1, key := String.ofList parts.2 } }

def resolveEnv (env : Dict EnvValue) (secrets : String → Option String → Option String) : List EnvVar :=
  env.entries.filterMap fun entry => resolveEnvValue secrets entry.1 entry.2

theorem resolved_name {secrets : String → Option String → Option String} {varName : String} {value : EnvValue} {var : EnvVar}
    (resolved : resolveEnvValue secrets varName value = some var) : var.name = varName := by
  cases value with
  | literal text =>
    cases resolved
    rfl
  | ref target =>
    cases target with
    | claim path =>
      obtain ⟨parts, _, found⟩ := bind_eq_some_iff.mp resolved
      obtain ⟨secret, _, rfl⟩ := map_eq_some_iff.mp found
      rfl
    | secret path =>
      obtain ⟨parts, _, rfl⟩ := map_eq_some_iff.mp resolved
      rfl

theorem resolve_env_names (env : Dict EnvValue) (secrets : String → Option String → Option String) :
    (resolveEnv env secrets).map (·.name) = env.keys ↔
      ∀ key value, env.get key = some value → (resolveEnvValue secrets key value).isSome = true := by
  have whole : ∀ entries : List (String × EnvValue),
      (entries.filterMap fun entry => resolveEnvValue secrets entry.1 entry.2).map (·.name) = entries.map Prod.fst ↔
        ∀ entry ∈ entries, (resolveEnvValue secrets entry.1 entry.2).isSome = true := by
    intro entries
    induction entries with
    | nil => exact ⟨nofun, fun _ => rfl⟩
    | cons entry rest ih =>
      rw [forall_mem_cons]
      cases resolved : resolveEnvValue secrets entry.1 entry.2 with
      | some var =>
        simp only [filterMap_cons, resolved]
        rw [map_cons, map_cons, resolved_name resolved, List.cons.injEq, ih]
        simp
      | none =>
        simp only [filterMap_cons, resolved]
        constructor
        · intro same
          have sizes := congrArg List.length same
          have fewer := length_filterMap_le (fun entry => resolveEnvValue secrets entry.1 entry.2) rest
          simp only [length_map, length_cons] at sizes
          omega
        · intro all
          exact absurd all.1 (by simp)
  rw [resolveEnv, Dict.keys, whole]
  constructor
  · intro all key value listed
    exact all (key, value) ((Dict.get_eq_some env key value).mp listed)
  · intro all entry member
    exact all entry.1 entry.2 ((Dict.get_eq_some env entry.1 entry.2).mpr member)

def HasEntry (needs : Needs) (type : String) (name : Option String) : Prop :=
  ∃ kind need, .service kind need ∈ needs.entries ∧ kind.text = type ∧ specName need.name = name

def Connected (needs : Needs) (claims : List ClaimView) : Prop :=
  ∀ kind need, .service kind need ∈ needs.entries →
    ∃ claim ∈ claims, claim.type = kind.text ∧ specName claim.entryName = specName need.name ∧
      claim.connectionSecretRef.isSome = true

theorem secret_found (claims : List ClaimView) (type : String) (name : Option String) :
    (resolveNeedsSecrets claims type name).isSome = true ↔
      ∃ claim ∈ claims, claim.type = type ∧ specName claim.entryName = name ∧ claim.connectionSecretRef.isSome = true := by
  have found : ∀ pairs : List ((String × Option String) × String),
      (pairs.lookup (type, name)).isSome = true ↔ ∃ secret, ((type, name), secret) ∈ pairs := by
    intro pairs
    induction pairs with
    | nil => simp
    | cons pair rest ih =>
      obtain ⟨key, secret⟩ := pair
      rw [lookup_cons]
      by_cases same : (type, name) = key
      · subst same
        simp
      · have different : ((type, name) == key) = false := beq_false_of_ne same
        rw [different]
        simp only [ih, mem_cons, Prod.mk.injEq]
        constructor
        · rintro ⟨secret, member⟩
          exact ⟨secret, .inr member⟩
        · rintro ⟨other, ⟨here, _⟩ | member⟩
          · exact absurd here same
          · exact ⟨other, member⟩
  rw [resolveNeedsSecrets, found]
  constructor
  · rintro ⟨secret, member⟩
    obtain ⟨claim, listed, built⟩ := mem_filterMap.mp (mem_reverse.mp member)
    obtain ⟨own, connected, same⟩ := map_eq_some_iff.mp built
    obtain ⟨key, _⟩ := Prod.mk.inj same
    obtain ⟨types, names⟩ := Prod.mk.inj key
    exact ⟨claim, listed, types, names, by rw [connected]; rfl⟩
  · rintro ⟨claim, listed, rfl, rfl, connected⟩
    obtain ⟨secret, own⟩ := isSome_iff_exists.mp connected
    exact ⟨secret, mem_reverse.mpr (mem_filterMap.mpr ⟨claim, listed, by rw [own]; rfl⟩)⟩

def entryViews (needs : Needs) : List ClaimView :=
  needs.entries.filterMap fun entry =>
    match entry with
    | .service kind need =>
      some { name := kind.text, type := kind.text, entryName := need.name, connectionSecretRef := some kind.text }
    | .disk _ => none

theorem entry_views_connected (needs : Needs) : Connected needs (entryViews needs) := by
  intro kind need listed
  exact ⟨_, mem_filterMap.mpr ⟨.service kind need, listed, rfl⟩, rfl, rfl, rfl⟩

variable {needs : Needs} {type : String} {name : Option String}

theorem entry_views_entry
    (found : (resolveNeedsSecrets (entryViews needs) type name).isSome = true) : HasEntry needs type name := by
  obtain ⟨claim, listed, types, names, _⟩ := (secret_found (entryViews needs) type name).mp found
  obtain ⟨entry, member, built⟩ := mem_filterMap.mp listed
  cases entry with
  | disk disk => cases built
  | service kind need =>
    cases built
    exact ⟨kind, need, member, types, names⟩

theorem connected_found {claims : List ClaimView} (connected : Connected needs claims) (entry : HasEntry needs type name) : (resolveNeedsSecrets claims type name).isSome = true := by
  obtain ⟨kind, need, listed, rfl, rfl⟩ := entry
  exact (secret_found claims _ _).mpr (connected kind need listed)

end AppRafter.Application
