import AppRafter.Restore.Patches

set_option autoImplicit false

namespace AppRafter.Restore

open Lib List Option

structure LoadedCr where
  kind : String
  cr : Json

namespace LoadedCr

def identity (loaded : LoadedCr) : String × String × String := (loaded.kind, crNamespace loaded.cr, crName loaded.cr)

end LoadedCr

def ofKind (kind : String) (crs : List LoadedCr) : List LoadedCr := crs.filter fun loaded => loaded.kind = kind

structure GatedApplyPlan where
  objects : List Object
  appReplicas : List ((String × String) × Int)
  argoApps : List (String × String)

def originalReplicas (app : Json) : Int := (baseReplicas app).getD 1

-- `none` where an application's `spec` or `base` is there and is no object.
def gatedApplyPlan (crs : List LoadedCr) : Option GatedApplyPlan := do
  let gated ← (ofKind "Application" crs).mapM fun app => zeroReplicas app.cr
  return {
    objects := (ofKind "SharedVolume" crs).map (fun volume => ⟨sharedVolumesResource, volume.cr⟩) ++
      gated.map (fun app => ⟨applicationsResource, app⟩) ++
      (ofKind "ArgoApplication" crs).map (fun argo => ⟨argoResource, stripArgoAutomated argo.cr⟩)
    appReplicas := (ofKind "Application" crs).map fun app => ((crNamespace app.cr, crName app.cr), originalReplicas app.cr)
    argoApps := (ofKind "ArgoApplication" crs).map fun argo => (crString argo.cr namespacePath "argocd", crName argo.cr) }

def applyAppsGated (plan : GatedApplyPlan) (cluster : Cluster) : Cluster := plan.objects.foldl applyObject cluster

def resumeWorkloads (appReplicas : List ((String × String) × Int)) (suspendedArgo : List (String × String)) (cluster : Cluster) :
    Cluster :=
  (resumePatches appReplicas suspendedArgo).foldl patchObject cluster

def Shaped (app : Json) : Prop :=
  (∀ spec, app.get "spec" = some spec → ∃ fields, spec = .obj fields) ∧
    ∀ spec base, app.get "spec" = some spec → spec.get "base" = some base → ∃ fields, base = .obj fields

-- Each names itself, its kind's schema holds, and no two of a kind share a name.
structure Captured (crs : List LoadedCr) : Prop where
  placed : ∀ loaded ∈ crs, ∃ text, loaded.cr.pointer namespacePath = some (.str text)
  shaped : ∀ loaded ∈ crs, loaded.kind = "Application" → Shaped loaded.cr
  distinct : (crs.map LoadedCr.identity).Nodup

structure GatedAs (captured gated : Json) : Prop where
  down : ∀ env, effectiveReplicas gated env = 0
  kept : ∀ path, Json.Apart path baseReplicasPath → (∀ env, Json.Apart path (envReplicasPath env)) →
    gated.pointer path = captured.pointer path

structure StrippedAs (captured stripped : Json) : Prop where
  off : stripped.pointer automatedPath = none
  kept : ∀ path, Json.Apart path automatedPath → stripped.pointer path = captured.pointer path

structure ResumedAs (captured resumed : Json) : Prop where
  base : baseReplicas resumed = some (originalReplicas captured)
  unlisted : ∀ env, captured.pointer (envPath env) = none →
    effectiveReplicas resumed env = effectiveReplicas captured env
  unmarked : resumed.pointer annotationPath = none
  kept : ∀ path, Json.Apart path baseReplicasPath → (∀ env, Json.Apart path (envReplicasPath env)) →
    Json.Apart path annotationPath → resumed.pointer path = captured.pointer path

structure ReattachedAs (captured reattached : Json) : Prop where
  on : reattached.pointer automatedPath = some platformAutosync
  kept : ∀ path, Json.Apart path automatedPath → reattached.pointer path = captured.pointer path

variable {key : String} {crs : List LoadedCr}

theorem ensure_shaped {fields : List (String × Json)}
    (shaped : ∀ held, fields.lookup key = some held → ∃ inner, held = .obj inner) : ∃ child, ensureChildObject fields key = some child := by
  rw [ensureChildObject]
  cases found : fields.lookup key with
  | none => exact ⟨[], rfl⟩
  | some held =>
    obtain ⟨inner, rfl⟩ := shaped held found
    exact ⟨inner, rfl⟩

theorem zero_shaped {app : Json} (shaped : Shaped app) : ∃ gated, zeroReplicas app = some gated := by
  obtain ⟨spec, heldSpec⟩ := ensure_shaped shaped.1
  have shapedBase : ∀ held, spec.lookup "base" = some held → ∃ inner, held = .obj inner := by
    intro held found
    have through := ensure_child_get heldSpec "base"
    change spec.lookup "base" = (app.get "spec").bind _ at through
    rw [found] at through
    obtain ⟨inner, at_, below⟩ := bind_eq_some_iff.mp through.symm
    exact shaped.2 inner held at_ below
  obtain ⟨base, heldBase⟩ := ensure_shaped shapedBase
  refine ⟨app.set "spec" (zeroEnvs ((Json.obj spec).set "base" ((Json.obj base).set "replicas" (.num 0)))), ?_⟩
  rw [zeroReplicas, heldSpec, bind_eq_bind, bind_some, heldBase]
  rfl

theorem zero_gated {app gated : Json} (zeroed : zeroReplicas app = some gated) : GatedAs app gated where
  down := gated_down zeroed
  kept := gated_kept zeroed

theorem policy_get (spec : Json) (other : key ≠ "syncPolicy") : (stripPolicy spec).get key = spec.get key := by
  rw [stripPolicy]
  cases spec.get "syncPolicy" with
  | none => rfl
  | some policy =>
    cases policy with
    | obj policy => rw [Json.get_set, if_neg other]
    | _ => rfl

theorem policy_below (spec : Json) (key : String) (rest : List String) :
    (stripPolicy spec).pointer ("syncPolicy" :: key :: rest) =
      if key = "automated" then none else spec.pointer ("syncPolicy" :: key :: rest) := by
  rw [stripPolicy]
  cases held : spec.get "syncPolicy" with
  | none => simp [Json.pointer_cons, held]
  | some policy =>
    cases policy with
    | obj policy =>
      simp only [Json.pointer_cons, Json.get_set, if_true, bind_some, Json.get_drop, held]
      by_cases automated : key = "automated"
      · rw [if_pos automated, if_pos automated]
        rfl
      · rw [if_neg automated, if_neg automated]
    | _ =>
      have scalar : spec.pointer ("syncPolicy" :: key :: rest) = none := by
        rw [Json.pointer_cons, held]
        rfl
      rw [scalar, ite_self]

theorem strip_stripped (argo : Json) : StrippedAs argo (stripArgoAutomated argo) := by
  constructor
  case off =>
    rw [stripArgoAutomated, automatedPath, Json.pointer_cons]
    cases held : argo.get "spec" with
    | none => rw [held]; rfl
    | some spec => rw [Json.get_set, if_pos rfl, bind_some, policy_below, if_pos rfl]
  case kept =>
    intro path apart
    rw [stripArgoAutomated]
    cases held : argo.get "spec" with
    | none => rfl
    | some spec =>
      cases path with
      | nil => exact absurd apart (Json.not_apart_nil _)
      | cons key rest =>
        rw [Json.pointer_cons, Json.pointer_cons, Json.get_set]
        by_cases top : key = "spec"
        · subst top
          rw [if_pos rfl, held, bind_some, bind_some]
          have inside := (Json.apart_cons _ _ _ _).mp apart rfl
          cases rest with
          | nil => exact absurd inside (Json.not_apart_nil _)
          | cons key rest =>
            by_cases policy : key = "syncPolicy"
            · subst policy
              have below := (Json.apart_cons _ _ _ _).mp inside rfl
              cases rest with
              | nil => exact absurd below (Json.not_apart_nil _)
              | cons key rest =>
                have other : key ≠ "automated" := fun same =>
                  Json.not_apart_end _ ((Json.apart_cons _ _ _ _).mp below same)
                rw [policy_below, if_neg other]
            · rw [Json.pointer_cons, Json.pointer_cons, policy_get spec policy]
        · rw [if_neg top]

theorem original_fits (app : Json) : Json.fitsI64 (originalReplicas app) := by
  rw [originalReplicas]
  cases read : baseReplicas app with
  | none => decide
  | some count =>
    obtain ⟨held, _, number⟩ := bind_eq_some_iff.mp read
    exact Json.as_i64_fits number

theorem resume_resumed {captured gated : Json} (zeroed : zeroReplicas captured = some gated) :
    ResumedAs captured (gated.merge (resumePatchBody (originalReplicas captured))) where
  base := counted_base gated .null _ (original_fits captured)
  unlisted := by
    intro env absent
    have before : envReplicas captured env = none := by
      rw [env_replicas_below, absent]
      rfl
    have after : envReplicas gated env = none := by
      rw [env_replicas_below, gated_env zeroed, absent]
      rfl
    rw [effectiveReplicas, effectiveReplicas, resumePatchBody, counted_env, after, before,
      counted_base gated .null _ (original_fits captured)]
    rfl
  unmarked := counted_record gated .null _
  kept := fun path counted envs marked =>
    (counted_kept gated .null _ marked counted).trans (gated_kept zeroed path counted envs)

theorem strip_reattached (captured : Json) :
    ReattachedAs captured ((stripArgoAutomated captured).merge (argoAutosyncPatchBody true)) where
  on := by
    rw [autosync_written, (strip_stripped captured).off]
    rfl
  kept := fun path apart => (autosync_kept _ true path apart).trans ((strip_stripped captured).kept path apart)

theorem map_m_pure {m : Type → Type} [Monad m] [LawfulMonad m] {Item Result : Type} {items : List Item}
    {run : Item → m Result} {value : Item → Result} (each : ∀ item ∈ items, run item = pure (value item)) :
    items.mapM run = pure (items.map value) := by
  induction items with
  | nil => rfl
  | cons item rest ih =>
    rw [mapM_cons, each item mem_cons_self, ih fun other member => each other (mem_cons_of_mem _ member), pure_bind, pure_bind,
      map_cons]

def objectKey (resource : String) (loaded : LoadedCr) : Key := ⟨resource, crNamespace loaded.cr, crName loaded.cr⟩

theorem of_kind_mem {kind : String} {loaded : LoadedCr} (member : loaded ∈ ofKind kind crs) :
    loaded ∈ crs ∧ loaded.kind = kind := by simpa [ofKind] using member

theorem keys_distinct (kind resource : String) (distinct : (crs.map LoadedCr.identity).Nodup) :
    ((ofKind kind crs).map (objectKey resource)).Nodup := by
  have some_ : ((ofKind kind crs).map LoadedCr.identity).Nodup := distinct.sublist (filter_sublist.map _)
  refine List.Nodup.map_on ?_ (List.Nodup.of_map _ some_)
  intro first member second other same
  have firstKind := (of_kind_mem member).2
  have secondKind := (of_kind_mem other).2
  refine inj_on_of_nodup_map some_ member other ?_
  rw [objectKey, objectKey, Key.mk.injEq] at same
  rw [LoadedCr.identity, LoadedCr.identity, firstKind, secondKind, same.2.1, same.2.2]

def gatedCr (app : LoadedCr) : Json := (zeroReplicas app.cr).getD app.cr

section Planned

variable (crs : List LoadedCr) (captured : Captured crs)

include captured

theorem gated_cr (app : LoadedCr) (member : app ∈ ofKind "Application" crs) : zeroReplicas app.cr = some (gatedCr app) := by
  obtain ⟨held, kind⟩ := of_kind_mem member
  obtain ⟨gated, zeroed⟩ := zero_shaped (captured.shaped app held kind)
  rw [gatedCr, zeroed]
  rfl

def plannedObjects : List Object :=
  (ofKind "SharedVolume" crs).map (fun volume => ⟨sharedVolumesResource, volume.cr⟩) ++
    ((ofKind "Application" crs).map gatedCr).map (fun app => ⟨applicationsResource, app⟩) ++
    (ofKind "ArgoApplication" crs).map (fun argo => ⟨argoResource, stripArgoAutomated argo.cr⟩)

theorem planned : ∃ plan, gatedApplyPlan crs = some plan ∧ plan.objects = plannedObjects crs ∧
    plan.appReplicas = (ofKind "Application" crs).map (fun app => ((crNamespace app.cr, crName app.cr), originalReplicas app.cr)) ∧
    plan.argoApps = (ofKind "ArgoApplication" crs).map (fun argo => (crNamespace argo.cr, crName argo.cr)) := by
  have gated := map_m_pure (gated_cr crs captured)
  rw [gatedApplyPlan, gated]
  refine ⟨_, rfl, rfl, rfl, ?_⟩
  apply map_congr_left
  intro argo member
  obtain ⟨text, placed⟩ := captured.placed argo (of_kind_mem member).1
  simp [crString, crNamespace, placed, Json.asStr]

theorem gated_key {app : LoadedCr} (member : app ∈ ofKind "Application" crs) :
    Object.key ⟨applicationsResource, gatedCr app⟩ = objectKey applicationsResource app := by
  have kept := (zero_gated (gated_cr crs captured app member)).kept
  have outside : ∀ env, Json.Apart namespacePath (envReplicasPath env) ∧ Json.Apart namePath (envReplicasPath env) := fun _ =>
    ⟨(Json.apart_cons _ _ _ _).mpr fun same => absurd same (by decide),
      (Json.apart_cons _ _ _ _).mpr fun same => absurd same (by decide)⟩
  exact key_congr applicationsResource (kept namespacePath (by decide) fun env => (outside env).1)
    (kept namePath (by decide) fun env => (outside env).2)

omit captured in
theorem stripped_key (argo : LoadedCr) : Object.key ⟨argoResource, stripArgoAutomated argo.cr⟩ = objectKey argoResource argo := by
  have kept := (strip_stripped argo.cr).kept
  exact key_congr argoResource (kept namespacePath (by decide)) (kept namePath (by decide))

theorem planned_distinct : ((plannedObjects crs).map Object.key).Nodup := by
  have keys : (plannedObjects crs).map Object.key = (ofKind "SharedVolume" crs).map (objectKey sharedVolumesResource) ++
      (ofKind "Application" crs).map (objectKey applicationsResource) ++
      (ofKind "ArgoApplication" crs).map (objectKey argoResource) := by
    rw [plannedObjects, List.map_append, List.map_append, List.map_map, List.map_map, List.map_map, List.map_map]
    congr 1
    · congr 1
      exact map_congr_left fun app member => gated_key crs captured member
    · exact map_congr_left fun argo _ => stripped_key argo
  have resource : ∀ (resource : String) (loaded : List LoadedCr) (key : Key), key ∈ loaded.map (objectKey resource) →
      key.resource = resource := by
    intro resource loaded key member
    obtain ⟨held, _, rfl⟩ := mem_map.mp member
    rfl
  rw [keys, nodup_append, nodup_append]
  refine ⟨⟨keys_distinct _ _ captured.distinct, keys_distinct _ _ captured.distinct, ?_⟩, keys_distinct _ _ captured.distinct, ?_⟩
  · intro volume isVolume app isApp same
    have mixed := (resource _ _ volume isVolume).symm.trans ((congrArg Key.resource same).trans (resource _ _ app isApp))
    exact absurd mixed (by decide)
  · intro first isFirst argo isArgo same
    have isRegistration := (congrArg Key.resource same).trans (resource _ _ argo isArgo)
    rcases mem_append.mp isFirst with volume | app
    · exact absurd ((resource _ _ first volume).symm.trans isRegistration) (by decide)
    · exact absurd ((resource _ _ first app).symm.trans isRegistration) (by decide)

end Planned

section Resumed

variable {appReplicas : List ((String × String) × Int)} {suspendedArgo : List (String × String)}

theorem resume_distinct (apps : (appReplicas.map Prod.fst).Nodup) (argo : suspendedArgo.Nodup) :
    ((resumePatches appReplicas suspendedArgo).map MergePatch.key).Nodup := by
  rw [resumePatches, List.map_append, List.map_map, List.map_map, List.nodup_append]
  refine ⟨?_, ?_, ?_⟩
  · refine List.Nodup.map_on ?_ (List.Nodup.of_map _ apps)
    intro first member second other same
    refine inj_on_of_nodup_map apps member other ?_
    have fields := Key.mk.inj same
    exact Prod.ext fields.2.1 fields.2.2
  · refine List.Nodup.map ?_ argo
    intro first second same
    have fields := Key.mk.inj same
    exact Prod.ext fields.2.1 fields.2.2
  · intro app isApp registration isRegistration same
    obtain ⟨held, _, rfl⟩ := mem_map.mp isApp
    obtain ⟨other, _, rfl⟩ := mem_map.mp isRegistration
    have mixed : applicationsResource = argoResource := congrArg Key.resource same
    exact absurd mixed (by decide)

variable {cluster : Cluster} (apps : (appReplicas.map Prod.fst).Nodup) (argo : suspendedArgo.Nodup)

include apps argo

theorem resumed_live (patch : MergePatch) (member : patch ∈ resumePatches appReplicas suspendedArgo) (held : Json)
    (before : live cluster patch.key = some held) :
    live (resumeWorkloads appReplicas suspendedArgo cluster) patch.key = some (held.merge patch.body) := by
  rw [resumeWorkloads, live_patched cluster resume_patches_keep (resume_distinct apps argo) member, before]
  rfl

end Resumed

-- Gate, then resume, over everything the backup captured.
theorem gate_then_resume (crs : List LoadedCr) (cluster : Cluster) (captured : Captured crs) :
    ∃ plan, gatedApplyPlan crs = some plan ∧ (∀ app ∈ ofKind "Application" crs, ∃ gated resumed,
        live (applyAppsGated plan cluster) (objectKey applicationsResource app) = some gated ∧ GatedAs app.cr gated ∧
          live (resumeWorkloads plan.appReplicas (recordSuspendedArgo [] plan.argoApps) (applyAppsGated plan cluster))
            (objectKey applicationsResource app) = some resumed ∧ ResumedAs app.cr resumed) ∧
      ∀ argo ∈ ofKind "ArgoApplication" crs, ∃ stripped reattached,
        live (applyAppsGated plan cluster) (objectKey argoResource argo) = some stripped ∧ StrippedAs argo.cr stripped ∧
          live (resumeWorkloads plan.appReplicas (recordSuspendedArgo [] plan.argoApps) (applyAppsGated plan cluster))
            (objectKey argoResource argo) = some reattached ∧ ReattachedAs argo.cr reattached := by
  obtain ⟨plan, made, objects, replicas, registrations⟩ := planned crs captured
  have applied : ∀ object ∈ plannedObjects crs, live (applyAppsGated plan cluster) object.key = some object.json := by
    rw [applyAppsGated, objects]
    exact fun object member => live_applied cluster (planned_distinct crs captured) member
  have appsDistinct : (plan.appReplicas.map Prod.fst).Nodup := by
    have keys := keys_distinct "Application" applicationsResource captured.distinct
    rw [replicas, List.map_map]
    refine List.Nodup.map_on ?_ (List.Nodup.of_map _ keys)
    intro first member second other same
    refine inj_on_of_nodup_map keys member other ?_
    have fields := Prod.mk.inj same
    rw [objectKey, objectKey, fields.1, fields.2]
  have argoDistinct := recorded_distinct [] plan.argoApps nodup_nil
  refine ⟨plan, made, ?_, ?_⟩
  · intro app member
    have zeroed := gated_cr crs captured app member
    have gated : live (applyAppsGated plan cluster) (objectKey applicationsResource app) = some (gatedCr app) := by
      rw [← gated_key crs captured member]
      refine applied ⟨applicationsResource, gatedCr app⟩ ?_
      simp only [plannedObjects, mem_append, List.mem_map]
      exact .inl (.inr ⟨_, ⟨app, member, rfl⟩, rfl⟩)
    refine ⟨gatedCr app, _, gated, zero_gated zeroed, ?_, resume_resumed zeroed⟩
    refine resumed_live appsDistinct argoDistinct
      (resumePatch ((crNamespace app.cr, crName app.cr), originalReplicas app.cr)) ?_ (gatedCr app) gated
    refine mem_append_left _ (mem_map.mpr ⟨_, ?_, rfl⟩)
    rw [replicas]
    exact mem_map.mpr ⟨app, member, rfl⟩
  · intro argo member
    have stripped : live (applyAppsGated plan cluster) (objectKey argoResource argo) = some (stripArgoAutomated argo.cr) := by
      rw [← stripped_key argo]
      refine applied ⟨argoResource, stripArgoAutomated argo.cr⟩ ?_
      simp only [plannedObjects, mem_append, List.mem_map]
      exact .inr ⟨argo, member, rfl⟩
    refine ⟨_, _, stripped, strip_stripped argo.cr, ?_, strip_reattached argo.cr⟩
    refine resumed_live appsDistinct argoDistinct (argoAutosyncPatch true (crNamespace argo.cr, crName argo.cr)) ?_ _ stripped
    refine mem_append_right _ (mem_map.mpr ⟨_, ?_, rfl⟩)
    rw [mem_record_suspended, registrations]
    exact .inr (mem_map.mpr ⟨argo, member, rfl⟩)

def named (ns name : String) (spec : Json) : Json :=
  .obj [("metadata", .obj [("namespace", .str ns), ("name", .str name)]), ("spec", spec)]

def shopApi : Json :=
  named "shop" "api" (.obj [("base", .obj [("replicas", .num 3)]),
  ("environments", .obj [("prod", .obj [])])])

def shopRegistration : Json := named "argocd" "shop" (.nest ["syncPolicy", "automated"] (.obj [("prune", .bool true)]))

def shopBackup : List LoadedCr := [⟨"Application", shopApi⟩, ⟨"ArgoApplication", shopRegistration⟩]

theorem shop_captured : Captured shopBackup where
  placed := by
    intro loaded member
    rcases mem_cons.mp member with rfl | later
    · exact ⟨"shop", rfl⟩
    · rw [mem_singleton.mp later]
      exact ⟨"argocd", rfl⟩
  shaped := by
    intro loaded member application
    rcases mem_cons.mp member with rfl | later
    · constructor
      · intro spec held
        exact ⟨_, (some.inj held).symm⟩
      · intro spec base held below
        cases held
        exact ⟨_, (some.inj below).symm⟩
    · rw [mem_singleton.mp later] at application
      exact absurd application (by decide)
  distinct := by decide

theorem gate_then_resume_shop : ∃ plan resumed, gatedApplyPlan shopBackup = some plan ∧
    live (resumeWorkloads plan.appReplicas (recordSuspendedArgo [] plan.argoApps) (applyAppsGated plan []))
      ⟨applicationsResource, "shop", "api"⟩ = some resumed ∧ baseReplicas resumed = some 3 := by
  obtain ⟨plan, made, apps, _⟩ := gate_then_resume shopBackup [] shop_captured
  obtain ⟨_, resumed, _, _, up, resumedAs⟩ := apps ⟨"Application", shopApi⟩ (by simp [ofKind, shopBackup])
  exact ⟨plan, resumed, made, up, resumedAs.base⟩

theorem autosync_not_as_captured : ∃ plan reattached, gatedApplyPlan shopBackup = some plan ∧
    live (resumeWorkloads plan.appReplicas (recordSuspendedArgo [] plan.argoApps) (applyAppsGated plan []))
      ⟨argoResource, "argocd", "shop"⟩ = some reattached ∧
    reattached.pointer automatedPath ≠ shopRegistration.pointer automatedPath := by
  refine ⟨_, _, rfl, rfl, ?_⟩
  intro same
  have policies : some platformAutosync = some (Json.obj [("prune", .bool true)]) := same
  simp [platformAutosync] at policies

end AppRafter.Restore
