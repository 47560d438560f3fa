import AppRafter.Restore.Suspend

set_option autoImplicit false

namespace AppRafter.Restore

open Lib List

def entryKey (entry : (String × String) × Int) : Key := ⟨applicationsResource, entry.1.1, entry.1.2⟩

def registrationKey (registration : String × String) : Key := ⟨argoResource, registration.1, registration.2⟩

namespace Suspended

def keys (suspended : Suspended) : List Key := suspended.recorded.map entryKey ++ suspended.argo.map registrationKey

end Suspended

def suspendBody (object : Object) : Json :=
  if object.resource = applicationsResource then suspendPatchBody (originalReplicas object.json) else argoAutosyncPatchBody false

def resumeBody (object : Object) : Json :=
  if object.resource = applicationsResource then resumePatchBody (originalReplicas object.json) else argoAutosyncPatchBody true

theorem forall_two_map {First Second : Type} (related wider : First → Second → Prop) (change : Second → Second)
    {firsts : List First} {seconds : List Second} (holds : List.Forall₂ related firsts seconds)
    (each : ∀ first ∈ firsts, ∀ second, related first second → wider first (change second)) :
    List.Forall₂ wider firsts (seconds.map change) :=
  forall₂_map_right_iff.mpr (((forall₂_and_left firsts seconds).mpr ⟨each, holds⟩).imp fun _ second pair => pair.1 second pair.2)

theorem forall_two_imp {First Second : Type} {related wider : First → Second → Prop}
    {firsts : List First} {seconds : List Second} (holds : List.Forall₂ related firsts seconds)
    (each : ∀ first ∈ firsts, ∀ second, related first second → wider first second) : List.Forall₂ wider firsts seconds := by
  have mapped := forall_two_map _ wider id holds each
  rwa [map_id] at mapped

theorem registration_other {object : Object} (registration : IsRegistration object) : object.resource ≠ applicationsResource := by
  rw [registration.1]
  decide

section Scope

variable (original : Cluster) (namespaces : List String)

def Fits (body : Object → Json) (patch : MergePatch) : Prop :=
  ∃ before ∈ original, InScope original namespaces before ∧ patch.key = before.key ∧ patch.body = body before

structure Suspending (keys : List Key) (before now : Object) : Prop where
  drift : Drift original namespaces before now
  down : IsApplication before → before.key ∈ keys → Down before.json now.json
  off : IsRegistration before → before.key ∈ keys → now.json.pointer automatedPath = none

structure Resuming (held back : List Key) (before now : Object) : Prop where
  drift : Drift original namespaces before now
  up : IsApplication before → before.key ∈ back → Up before.json now.json
  off : IsRegistration before → before.key ∈ held →
    now.json.pointer automatedPath = none ∨ now.json.pointer automatedPath = some platformAutosync
  on : IsRegistration before → before.key ∈ back → now.json.pointer automatedPath = some platformAutosync

variable {original namespaces} {keys : List Key} {before now : Object}

theorem suspending_mono {fewer : List Key} (less : ∀ key ∈ fewer, key ∈ keys)
    (suspending : Suspending original namespaces keys before now) : Suspending original namespaces fewer before now where
  drift := suspending.drift
  down := fun app member => suspending.down app (less _ member)
  off := fun argo member => suspending.off argo (less _ member)

theorem resuming_start (suspending : Suspending original namespaces keys before now) :
    Resuming original namespaces keys [] before now where
  drift := suspending.drift
  up := nofun
  off := fun argo member => .inl (suspending.off argo member)
  on := nofun

theorem drift_write {json : Json} (drift : Drift original namespaces before now)
    (within : InScope original namespaces before) (app : IsApplication before → AppDrift before.json json)
    (argo : IsRegistration before → ∀ path, Json.Apart path automatedPath → json.pointer path = before.json.pointer path) :
    Drift original namespaces before { now with json := json } where
  resource := drift.resource
  untouched := fun outside => absurd within outside
  app := app
  argo := argo

section Steps

variable (sound : Sound original) {before now : Object} (member : before ∈ original) {patch : MergePatch}

include sound member

theorem fits_met {body : Object → Json} (fits : Fits original namespaces body patch) (drift : Drift original namespaces before now) :
    (before.key ≠ patch.key ∧ patched patch now = now) ∨ (before.key = patch.key ∧ InScope original namespaces before ∧
        patched patch now = { now with json := now.json.merge (body before) }) := by
  obtain ⟨target, held, within, key, written⟩ := fits
  have same := drift_key _ _ drift
  by_cases met : before.key = patch.key
  · have here : before = target := key_unique original sound before target member held (met.trans key)
    subst here
    refine .inr ⟨met, within, ?_⟩
    rw [patched, if_pos (same.trans met), written]
  · refine .inl ⟨met, ?_⟩
    rw [patched, if_neg fun other => met (same.symm.trans other)]

theorem suspending_step {keys more : List Key} (fits : Fits original namespaces suspendBody patch)
    (added : ∀ key ∈ more, key = patch.key ∨ key ∈ keys) (suspending : Suspending original namespaces keys before now) :
    Suspending original namespaces more before (patched patch now) := by
  rcases fits_met sound member fits suspending.drift with
    ⟨missed, same⟩ | ⟨_, within, written⟩
  · rw [same]
    have less : before.key ∈ more → before.key ∈ keys := fun held => (added _ held).resolve_left missed
    exact ⟨suspending.drift, fun app held => suspending.down app (less held), fun argo held => suspending.off argo (less held)⟩
  · rw [written]
    have body : IsApplication before → suspendBody before = suspendPatchBody (originalReplicas before.json) := fun app => if_pos app
    have autosync : IsRegistration before → suspendBody before = argoAutosyncPatchBody false := fun argo =>
      if_neg (registration_other argo)
    constructor
    case drift =>
      refine drift_write suspending.drift within ?_ ?_
      · intro app
        rw [body app]
        exact (suspended_down (suspending.drift.app app)).1
      · intro argo path apart
        rw [autosync argo, autosync_kept _ false path apart]
        exact suspending.drift.argo argo path apart
    case down =>
      intro app _
      rw [body app]
      exact (suspended_down (suspending.drift.app app)).2
    case off =>
      intro argo _
      rw [autosync argo, autosync_written]
      rfl

theorem resuming_step {held back more : List Key} (fits : Fits original namespaces resumeBody patch) (known : patch.key ∈ held)
    (added : ∀ key ∈ more, key = patch.key ∨ key ∈ back) (resuming : Resuming original namespaces held back before now) :
    Resuming original namespaces held more before (patched patch now) := by
  rcases fits_met sound member fits resuming.drift with
    ⟨missed, same⟩ | ⟨met, within, written⟩
  · rw [same]
    have less : before.key ∈ more → before.key ∈ back := fun held => (added _ held).resolve_left missed
    exact ⟨resuming.drift, fun app member => resuming.up app (less member), resuming.off,
      fun argo member => resuming.on argo (less member)⟩
  · rw [written]
    have body : IsApplication before → resumeBody before = resumePatchBody (originalReplicas before.json) := fun app => if_pos app
    have autosync : IsRegistration before → resumeBody before = argoAutosyncPatchBody true := fun argo =>
      if_neg (registration_other argo)
    have on : IsRegistration before → (now.json.merge (resumeBody before)).pointer automatedPath = some platformAutosync := by
      intro argo
      rw [autosync argo, autosync_written]
      rcases resuming.off argo (met ▸ known) with off | already
      · rw [off]
        rfl
      · rw [already]
        rfl
    constructor
    case drift =>
      refine drift_write resuming.drift within ?_ ?_
      · intro app
        rw [body app]
        exact (resumed_up (resuming.drift.app app)).1
      · intro argo path apart
        rw [autosync argo, autosync_kept _ true path apart]
        exact resuming.drift.argo argo path apart
    case up =>
      intro app _
      rw [body app]
      exact (resumed_up (resuming.drift.app app)).2
    case off => exact fun argo _ => .inr (on argo)
    case on => exact fun argo _ => on argo

end Steps

end Scope

theorem deploys_congr {first second : Json} (name ns : String)
    (resources : first.pointer ["status", "resources"] = second.pointer ["status", "resources"])
    (dest : first.pointer ["spec", "destination", "namespace"] = second.pointer ["spec", "destination", "namespace"]) :
    deploys name ns first = deploys name ns second := by
  rw [deploys, deploys, apprafterAppRefs, apprafterAppRefs, resources, dest]

section Scope

variable (original : Cluster) (namespaces : List String)

structure Quiet (before now : Object) : Prop where
  app : IsApplication before → crNamespace before.json ∈ namespaces →
    baseReplicas now.json = some 0 ∧ ∀ env, envReplicas before.json env = none → effectiveReplicas now.json env = 0
  argo : IsRegistration before → Deployed original namespaces before → now.json.pointer automatedPath = none

structure Recovered (before now : Object) : Prop where
  replicas : IsApplication before → ∀ env, effectiveReplicas now.json env = effectiveReplicas before.json env
  unmarked : IsApplication before → now.json.pointer annotationPath = none
  kept : IsApplication before → ∀ path, Json.Apart path baseReplicasPath → Json.Apart path annotationPath →
    now.json.pointer path = before.json.pointer path
  on : IsRegistration before → Deployed original namespaces before → now.json.pointer automatedPath = some platformAutosync
  keptArgo : IsRegistration before → ∀ path, Json.Apart path automatedPath → now.json.pointer path = before.json.pointer path
  untouched : ¬ InScope original namespaces before → now.json = before.json

def MayAsk (cluster : Cluster) : Request → Prop
  | .loadData => List.Forall₂ (Quiet original namespaces) original cluster
  | _ => True

def Drifts (cluster : Cluster) : Prop := List.Forall₂ (Drift original namespaces) original cluster

variable {original namespaces}

theorem patch_all_safe {related : List Key → Object → Object → Prop} {patches : List MergePatch} {start : List Key}
    {cluster : Cluster} (drifts : ∀ keys before now, related keys before now → Drift original namespaces before now)
    (steps : ∀ patch ∈ patches, ∀ keys more before now, before ∈ original → related keys before now →
      (∀ key ∈ more, key = patch.key ∨ key ∈ keys) → related more before (patched patch now))
    (begun : List.Forall₂ (related start) original cluster) :
    (patchAll patches).Safe serve (Drifts original namespaces) (MayAsk original namespaces)
      (fun later _ => List.Forall₂ (related (start ++ patches.map MergePatch.key)) original later) cluster := by
  have weak : ∀ keys later, List.Forall₂ (related keys) original later → Drifts original namespaces later := fun keys later holds =>
    forall_two_imp holds fun before _ now => drifts keys before now
  refine Prog.safe_fold serve (fun _ patch => patchOne patch)
    (fun done later _ => List.Forall₂ (related (start ++ done.map MergePatch.key)) original later) patches () cluster ?_
    (fun done later _ holds => weak _ later holds) ?_
  · intro done patch member later _ holds
    have stepped : List.Forall₂ (related (start ++ (done ++ [patch]).map MergePatch.key)) original (patchObject later patch) := by
      refine forall_two_map _ _ (patched patch) holds ?_
      intro before held now pair
      refine steps patch member _ _ before now held pair ?_
      intro key isKey
      rw [map_append, ← append_assoc] at isKey
      rcases mem_append.mp isKey with earlier | last
      · exact .inr earlier
      · exact .inl (mem_singleton.mp last)
    exact ⟨weak _ later holds, trivial, weak _ _ stepped, stepped⟩
  · rw [map_nil, append_nil]
    exact begun

theorem drift_application {before now : Object} (drift : Drift original namespaces before now) :
    IsApplication now ↔ IsApplication before := by
  rw [IsApplication, IsApplication, drift.resource]

theorem drift_names {before now : Object} (drift : Drift original namespaces before now) :
    crNamespace now.json = crNamespace before.json ∧ crName now.json = crName before.json := by
  obtain ⟨placed, named⟩ := drift_name _ _ drift
  exact ⟨cr_string_congr _ placed, cr_string_congr _ named⟩

theorem app_ref_own (sound : Sound original) {object : Object} (member : object ∈ original) :
    argoAppRef object.json = some (crNamespace object.json, crName object.json) := by
  obtain ⟨ns, placed⟩ := sound.placed object member
  obtain ⟨name, named, _⟩ := sound.named object member
  simp [argoAppRef, crNamespace, crName, crString, placed, named, Json.asStr]

section Listings

variable (sound : Sound original) {cluster : Cluster} (drifts : Drifts original namespaces cluster)

include sound drifts

theorem applications_found (ns : String) :
    (∀ app ∈ applicationsIn cluster ns, ∃ before ∈ original, IsApplication before ∧ crNamespace before.json = ns ∧
      crName app = crName before.json ∧ (suspendDecision app).replicas = originalReplicas before.json) ∧
      ∀ before ∈ original, IsApplication before → crNamespace before.json = ns →
        ∃ app ∈ applicationsIn cluster ns, crName app = crName before.json := by
  have forth := forall_two_mem drifts
  have back := forall_two_mem drifts.flip
  constructor
  · intro app member
    obtain ⟨now, held, rfl⟩ := mem_map.mp member
    obtain ⟨inCluster, listed⟩ := mem_filter.mp held
    obtain ⟨application, placed⟩ := of_decide_eq_true listed
    obtain ⟨before, origin, drift⟩ := back now inCluster
    obtain ⟨sameNs, sameName⟩ := drift_names drift
    have wasApp : IsApplication before := (drift_application drift).mp application
    exact ⟨before, origin, wasApp, sameNs.symm.trans placed, sameName,
      decided_count (drift.app wasApp) (sound.counted before origin wasApp)⟩
  · intro before origin application placed
    obtain ⟨now, held, drift⟩ := forth before origin
    obtain ⟨sameNs, sameName⟩ := drift_names drift
    have isApp := (drift_application drift).mpr application
    refine ⟨now.json, mem_map.mpr ⟨now, mem_filter.mpr ⟨held, ?_⟩, rfl⟩, sameName⟩
    exact decide_eq_true ⟨isApp, sameNs.trans placed⟩

theorem registrations_found (name ns : String) (registration : String × String) :
    registration ∈ argoAppsForCr name ns (registrationsIn cluster) ↔
      ∃ before ∈ original, IsRegistration before ∧ deploys name ns before.json = true ∧
        registration = (crNamespace before.json, crName before.json) := by
  have forth := forall_two_mem drifts
  have back := forall_two_mem drifts.flip
  have same : ∀ before now, before ∈ original → Drift original namespaces before now → IsRegistration before →
      deploys name ns now.json = deploys name ns before.json ∧ argoAppRef now.json = argoAppRef before.json := by
    intro before now _ drift argo
    obtain ⟨placed, named⟩ := drift_name _ _ drift
    constructor
    · exact deploys_congr name ns (drift.argo argo _ (by decide)) (drift.argo argo _ (by decide))
    · rw [argoAppRef, argoAppRef, placed, named]
  have kind : ∀ before now, Drift original namespaces before now →
      ((now.resource = argoResource ∧ crNamespace now.json = argocdNamespace) ↔ IsRegistration before) := by
    intro before now drift
    rw [IsRegistration, drift.resource, (drift_names drift).1]
  constructor
  · intro member
    obtain ⟨json, deploying, ref⟩ := mem_filterMap.mp member
    obtain ⟨listed, matched⟩ := mem_filter.mp deploying
    obtain ⟨now, held, rfl⟩ := mem_map.mp listed
    obtain ⟨inCluster, isArgo⟩ := mem_filter.mp held
    obtain ⟨before, origin, drift⟩ := back now inCluster
    have argo := (kind before now drift).mp (of_decide_eq_true isArgo)
    obtain ⟨sameDeploys, sameRef⟩ := same before now origin drift argo
    refine ⟨before, origin, argo, sameDeploys ▸ matched, ?_⟩
    rw [sameRef, app_ref_own sound origin] at ref
    exact (Option.some.inj ref).symm
  · rintro ⟨before, origin, argo, matched, rfl⟩
    obtain ⟨now, held, drift⟩ := forth before origin
    obtain ⟨sameDeploys, sameRef⟩ := same before now origin drift argo
    refine mem_filterMap.mpr ⟨now.json, mem_filter.mpr ⟨mem_map.mpr ⟨now, mem_filter.mpr ⟨held, ?_⟩, rfl⟩, ?_⟩, ?_⟩
    · exact decide_eq_true ((kind before now drift).mpr argo)
    · rw [sameDeploys]
      exact matched
    · rw [sameRef, app_ref_own sound origin]

end Listings

end Scope

end AppRafter.Restore
