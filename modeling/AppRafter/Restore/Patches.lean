import AppRafter.Restore.Workloads

set_option autoImplicit false

namespace AppRafter.Restore

open Lib List Option

def applicationsResource : String := "applications.apprafter.io"

def argoResource : String := "applications.argoproj.io"

def sharedVolumesResource : String := "sharedvolumes.apprafter.io"

def namespacePath : List String := ["metadata", "namespace"]

def namePath : List String := ["metadata", "name"]

def crNamespace (cr : Json) : String := crString cr namespacePath ""

def crName (cr : Json) : String := crString cr namePath ""

structure Key where
  resource : String
  namespace_ : String
  name : String
deriving DecidableEq

structure Object where
  resource : String
  json : Json

namespace Object

def key (object : Object) : Key := ⟨object.resource, crNamespace object.json, crName object.json⟩

end Object

abbrev Cluster := List Object

def live (cluster : Cluster) (key : Key) : Option Json := (cluster.find? fun object => object.key = key).map Object.json

structure MergePatch where
  resource : String
  namespace_ : String
  name : String
  body : Json

namespace MergePatch

def key (patch : MergePatch) : Key := ⟨patch.resource, patch.namespace_, patch.name⟩

def Keeps (patch : MergePatch) : Prop := Json.Misses patch.body namespacePath ∧ Json.Misses patch.body namePath

end MergePatch

-- A server-side apply to an object that no other manager owns fields of.
def applyObject (cluster : Cluster) (object : Object) : Cluster := cluster.filter (fun held => held.key ≠ object.key) ++ [object]

def patched (patch : MergePatch) (object : Object) : Object :=
  if object.key = patch.key then { object with json := object.json.merge patch.body } else object

def patchObject (cluster : Cluster) (patch : MergePatch) : Cluster := cluster.map (patched patch)

theorem cr_string_congr {first second : Json} {path : List String} (default_ : String)
    (same : first.pointer path = second.pointer path) : crString first path default_ = crString second path default_ := by
  rw [crString, crString, same]

theorem key_congr (resource : String) {first second : Json} (at_ : first.pointer namespacePath = second.pointer namespacePath)
    (named : first.pointer namePath = second.pointer namePath) : Object.key ⟨resource, first⟩ = Object.key ⟨resource, second⟩ := by
  rw [Object.key, crNamespace, crName, cr_string_congr "" at_, cr_string_congr "" named]
  rfl

variable {patch : MergePatch} {objects : List Object} {key : Key} {patches : List MergePatch}

theorem patched_key (keeps : patch.Keeps) (object : Object) : (patched patch object).key = object.key := by
  by_cases met : object.key = patch.key
  · rw [patched, if_pos met]
    exact key_congr object.resource (Json.merge_misses _ _ keeps.1) (Json.merge_misses _ _ keeps.2)
  · rw [patched, if_neg met]

variable (cluster : Cluster)

theorem live_patch (keeps : patch.Keeps) (key : Key) : live (patchObject cluster patch) key =
      if key = patch.key then (live cluster key).map fun held => held.merge patch.body else live cluster key := by
  rw [live, live, patchObject, find?_map]
  have same : (fun object : Object => decide (object.key = key)) ∘ patched patch = fun object => decide (object.key = key) :=
    funext fun object => by
      change decide ((patched patch object).key = key) = _
      rw [patched_key keeps]
  rw [same]
  cases found : cluster.find? fun object => object.key = key with
  | none => rw [map_none, map_none, map_none, ite_self]
  | some object =>
    have here : object.key = key := by simpa using find?_some found
    rw [map_some, map_some, map_some]
    by_cases met : key = patch.key
    · rw [if_pos met, patched, if_pos (here.trans met)]
      rfl
    · rw [if_neg met, patched, if_neg fun same => met (here.symm.trans same)]

theorem live_apply (object : Object) (key : Key) :
    live (applyObject cluster object) key = if key = object.key then some object.json else live cluster key := by
  rw [live, live, applyObject, find?_append]
  by_cases met : key = object.key
  · have gone : (cluster.filter fun held => held.key ≠ object.key).find? (fun held => held.key = key) = none := by
      rw [find?_eq_none]
      intro held member
      have apart := (mem_filter.mp member).2
      simpa [met] using apart
    rw [gone, met]
    simp
  · have kept : (cluster.filter fun held => held.key ≠ object.key).find? (fun held => held.key = key) =
        cluster.find? fun held => held.key = key := by
      rw [find?_filter]
      congr 1
      funext held
      by_cases here : held.key = key
      · simp [here, met]
      · simp [here]
    rw [kept, if_neg met]
    simp [Ne.symm met]

theorem live_apply_all (absent : ∀ object ∈ objects, object.key ≠ key) :
    live (objects.foldl applyObject cluster) key = live cluster key := by
  induction objects generalizing cluster with
  | nil => rfl
  | cons object rest ih =>
    rw [foldl_cons, ih _ fun other member => absent other (mem_cons_of_mem _ member), live_apply,
      if_neg (Ne.symm (absent object mem_cons_self))]

theorem live_applied (distinct : (objects.map Object.key).Nodup) {object : Object}
    (member : object ∈ objects) : live (objects.foldl applyObject cluster) object.key = some object.json := by
  induction objects generalizing cluster with
  | nil => cases member
  | cons first rest ih =>
    obtain ⟨apart, others⟩ := nodup_cons.mp distinct
    rw [foldl_cons]
    rcases mem_cons.mp member with here | later
    · subst here
      have absent : ∀ other ∈ rest, other.key ≠ object.key := fun other held same =>
        apart (mem_map.mpr ⟨other, held, same⟩)
      rw [live_apply_all _ absent, live_apply, if_pos rfl]
    · exact ih _ others later

theorem live_patch_all (keeps : ∀ patch ∈ patches, patch.Keeps)
    (absent : ∀ patch ∈ patches, patch.key ≠ key) : live (patches.foldl patchObject cluster) key = live cluster key := by
  induction patches generalizing cluster with
  | nil => rfl
  | cons patch rest ih =>
    rw [foldl_cons, ih _ (fun other member => keeps other (mem_cons_of_mem _ member))
      (fun other member => absent other (mem_cons_of_mem _ member)), live_patch _ (keeps patch mem_cons_self),
      if_neg (Ne.symm (absent patch mem_cons_self))]

theorem live_patched (keeps : ∀ patch ∈ patches, patch.Keeps)
    (distinct : (patches.map MergePatch.key).Nodup) (member : patch ∈ patches) :
    live (patches.foldl patchObject cluster) patch.key = (live cluster patch.key).map fun held => held.merge patch.body := by
  induction patches generalizing cluster with
  | nil => cases member
  | cons first rest ih =>
    obtain ⟨apart, others⟩ := nodup_cons.mp distinct
    have keepsRest : ∀ other ∈ rest, other.Keeps := fun other held => keeps other (mem_cons_of_mem _ held)
    rw [foldl_cons]
    rcases mem_cons.mp member with here | later
    · subst here
      have absent : ∀ other ∈ rest, other.key ≠ patch.key := fun other held same =>
        apart (mem_map.mpr ⟨other, held, same⟩)
      rw [live_patch_all _ keepsRest absent, live_patch _ (keeps patch mem_cons_self), if_pos rfl]
    · have other : patch.key ≠ first.key := fun same => apart (mem_map.mpr ⟨patch, later, same⟩)
      rw [ih _ keepsRest others later, live_patch _ (keeps first mem_cons_self), if_neg other]

end AppRafter.Restore

namespace AppRafter.Restore

open Lib List

def countPatchBody (record : Json) (replicas : Int) : Json :=
  .obj [("metadata", .nest ["annotations", preRestoreReplicasAnnotation] record), ("spec", .nest ["base", "replicas"] (.num replicas))]

def resumePatchBody (replicas : Int) : Json := countPatchBody .null replicas

def suspendPatchBody (preRestoreReplicas : Int) : Json := countPatchBody (.str (toString preRestoreReplicas)) 0

def platformAutosync : Json := .obj [("prune", .bool true), ("selfHeal", .bool true)]

def argoAutosyncPatchBody (enabled : Bool) : Json := .nest automatedPath (if enabled then platformAutosync else .null)

def argoAutosyncPatch (enabled : Bool) (registration : String × String) : MergePatch :=
  ⟨argoResource, registration.1, registration.2, argoAutosyncPatchBody enabled⟩

def resumePatch (app : (String × String) × Int) : MergePatch := ⟨applicationsResource, app.1.1, app.1.2, resumePatchBody app.2⟩

def resumePatches (appReplicas : List ((String × String) × Int)) (suspendedArgo : List (String × String)) : List MergePatch :=
  appReplicas.map resumePatch ++ suspendedArgo.map (argoAutosyncPatch true)

def suspendPatches (ns name : String) (argo : List (String × String)) (replicas : Int) : List MergePatch :=
  argo.map (argoAutosyncPatch false) ++ [⟨applicationsResource, ns, name, suspendPatchBody replicas⟩]

theorem pair_lawful : LawfulBEq (String × String) := inferInstance

attribute [local instance] pair_lawful

def recordSuspendedArgo (into found : List (String × String)) : List (String × String) :=
  found.foldl (fun into entry => if entry ∈ into then into else into ++ [entry]) into

theorem count_distinct : ["metadata", "spec"].Nodup := by decide

variable {path : List String}

variable (record : Json)

variable (replicas : Int)

theorem count_misses (marked : Json.Apart path annotationPath)
    (counted : Json.Apart path baseReplicasPath) : Json.Misses (countPatchBody record replicas) path := by
  cases path with
  | nil => exact absurd marked (Json.not_apart_nil _)
  | cons key rest =>
    refine ⟨count_distinct, ?_⟩
    by_cases metadata : key = "metadata"
    · subst metadata
      exact Json.nest_misses _ rest record ((Json.apart_cons _ _ _ _).mp marked rfl)
    · rw [Json.lookup_other _ _ metadata]
      by_cases spec : key = "spec"
      · subst spec
        exact Json.nest_misses _ rest (.num replicas) ((Json.apart_cons _ _ _ _).mp counted rfl)
      · rw [Json.lookup_other _ _ spec]
        trivial

theorem count_reaches_base : Json.Reaches (countPatchBody record replicas) baseReplicasPath (.num replicas) := by
  refine ⟨count_distinct, ?_⟩
  exact Json.nest_reaches _ _

theorem count_reaches_record : Json.Reaches (countPatchBody record replicas) annotationPath record := by
  refine ⟨count_distinct, ?_⟩
  exact Json.nest_reaches _ _

theorem autosync_misses (enabled : Bool) (apart : Json.Apart path automatedPath) :
    Json.Misses (argoAutosyncPatchBody enabled) path := Json.nest_misses _ path _ apart

theorem count_keeps (resource ns name : String) (record : Json) (replicas : Int) :
    MergePatch.Keeps ⟨resource, ns, name, countPatchBody record replicas⟩ := by
  constructor
  · exact count_misses record replicas (by decide) (by decide)
  · exact count_misses record replicas (by decide) (by decide)

theorem autosync_keeps (enabled : Bool) (registration : String × String) : (argoAutosyncPatch enabled registration).Keeps := by
  constructor
  · exact autosync_misses enabled (by decide)
  · exact autosync_misses enabled (by decide)

theorem resume_patches_keep {appReplicas : List ((String × String) × Int)} {suspendedArgo : List (String × String)}
    (patch : MergePatch) (member : patch ∈ resumePatches appReplicas suspendedArgo) : patch.Keeps := by
  rcases mem_append.mp member with app | argo
  · obtain ⟨app, _, rfl⟩ := mem_map.mp app
    exact count_keeps _ _ _ _ _
  · obtain ⟨registration, _, rfl⟩ := mem_map.mp argo
    exact autosync_keeps true registration

section Counted

variable (app record : Json) (replicas : Int)

theorem counted_base (fits : Json.fitsI64 replicas) : baseReplicas (app.merge (countPatchBody record replicas)) = some replicas := by
  have written := Json.merge_reaches app _ _ _ _ (count_reaches_base record replicas)
  rw [baseReplicas, baseReplicasPath, written]
  exact Json.as_i64_num _ fits

theorem counted_kept {path : List String} (marked : Json.Apart path annotationPath) (counted : Json.Apart path baseReplicasPath) :
    (app.merge (countPatchBody record replicas)).pointer path = app.pointer path :=
  Json.merge_misses app _ (count_misses record replicas marked counted)

theorem env_path_apart (env : String) : Json.Apart (envReplicasPath env) annotationPath ∧
    Json.Apart (envReplicasPath env) baseReplicasPath := by
  constructor
  · exact (Json.apart_cons _ _ _ _).mpr fun same => absurd same (by decide)
  · exact (Json.apart_cons _ _ _ _).mpr fun _ => (Json.apart_cons _ _ _ _).mpr fun same => absurd same (by decide)

theorem counted_env (env : String) : envReplicas (app.merge (countPatchBody record replicas)) env = envReplicas app env := by
  rw [envReplicas, envReplicas, counted_kept app record replicas (env_path_apart env).1 (env_path_apart env).2]

theorem counted_record : (app.merge (countPatchBody record replicas)).pointer annotationPath =
    Json.patched (app.pointer annotationPath) record :=
  Json.merge_reaches app _ _ _ _ (count_reaches_record record replicas)

end Counted

theorem autosync_written (argo : Json) (enabled : Bool) : (argo.merge (argoAutosyncPatchBody enabled)).pointer automatedPath =
    Json.patched (argo.pointer automatedPath) (if enabled then platformAutosync else .null) :=
  Json.merge_reaches argo _ _ _ _ (Json.nest_reaches _ _)

theorem autosync_kept (argo : Json) (enabled : Bool) (path : List String) (apart : Json.Apart path automatedPath) :
    (argo.merge (argoAutosyncPatchBody enabled)).pointer path = argo.pointer path :=
  Json.merge_misses argo _ (autosync_misses enabled apart)

section Recorded

variable (into found : List (String × String))

theorem mem_record_suspended (entry : String × String) : entry ∈ recordSuspendedArgo into found ↔ entry ∈ into ∨ entry ∈ found := by
  induction found generalizing into with
  | nil => simp [recordSuspendedArgo]
  | cons first rest ih =>
    have step : recordSuspendedArgo into (first :: rest) =
      recordSuspendedArgo (if first ∈ into then into else into ++ [first]) rest := rfl
    rw [step, ih]
    by_cases known : first ∈ into
    · rw [if_pos known]
      constructor
      · rintro (held | later)
        · exact .inl held
        · exact .inr (mem_cons_of_mem _ later)
      · rintro (held | later)
        · exact .inl held
        · rcases mem_cons.mp later with rfl | later
          · exact .inl known
          · exact .inr later
    · rw [if_neg known]
      simp [or_assoc]

theorem recorded_distinct (distinct : into.Nodup) : (recordSuspendedArgo into found).Nodup := by
  induction found generalizing into with
  | nil => exact distinct
  | cons first rest ih =>
    have step : recordSuspendedArgo into (first :: rest) =
      recordSuspendedArgo (if first ∈ into then into else into ++ [first]) rest := rfl
    rw [step]
    by_cases known : first ∈ into
    · rw [if_pos known]
      exact ih into distinct
    · rw [if_neg known]
      refine ih _ ?_
      exact nodup_append.mpr ⟨distinct, nodup_singleton _, fun held member other last same =>
        known (mem_singleton.mp last ▸ same ▸ member)⟩

end Recorded

end AppRafter.Restore
