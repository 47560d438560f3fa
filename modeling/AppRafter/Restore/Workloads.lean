import AppRafter.Lib.Json

set_option autoImplicit false

namespace AppRafter.Restore

open Lib Option

def preRestoreReplicasAnnotation : String := "apprafter.io/pre-restore-replicas"

def baseReplicasPath : List String := ["spec", "base", "replicas"]

def envReplicasPath (env : String) : List String := ["spec", "environments", env, "replicas"]

def envPath (env : String) : List String := ["spec", "environments", env]

def annotationPath : List String := ["metadata", "annotations", preRestoreReplicasAnnotation]

def automatedPath : List String := ["spec", "syncPolicy", "automated"]

def baseReplicas (app : Json) : Option Int := (app.pointer baseReplicasPath).bind Json.asI64

def envReplicas (app : Json) (env : String) : Option Int := (app.pointer (envReplicasPath env)).bind Json.asI64

-- A count nobody sets renders as one.
def effectiveReplicas (app : Json) (env : String) : Int := ((envReplicas app env).or (baseReplicas app)).getD 1

def crString (cr : Json) (path : List String) (default_ : String) : String := ((cr.pointer path).bind Json.asStr).getD default_

-- `none` where the source panics: the field is there and no object.
def ensureChildObject (fields : List (String × Json)) (key : String) : Option (List (String × Json)) :=
  match fields.lookup key with
  | none => some []
  | some (.obj child) => some child
  | some _ => none

def zeroEnv : Json → Json
  | .obj env => .obj (Json.setField "replicas" (.num 0) env)
  | env => env

def zeroAllEnvs : Json → Json
  | .obj envs => .obj (envs.map fun env => (env.1, zeroEnv env.2))
  | envs => envs

def zeroEnvs (spec : Json) : Json :=
  match spec.get "environments" with
  | some envs => spec.set "environments" (zeroAllEnvs envs)
  | none => spec

def zeroReplicas (appCr : Json) : Option Json := do
  let spec ← ensureChildObject appCr.fieldsOf "spec"
  let base ← ensureChildObject spec "base"
  return appCr.set "spec" (zeroEnvs ((Json.obj spec).set "base" ((Json.obj base).set "replicas" (.num 0))))

def stripPolicy (spec : Json) : Json :=
  match spec.get "syncPolicy" with
  | some (.obj policy) => spec.set "syncPolicy" ((Json.obj policy).drop "automated")
  | _ => spec

def stripArgoAutomated (argo : Json) : Json :=
  match argo.get "spec" with
  | some spec => argo.set "spec" (stripPolicy spec)
  | none => argo

variable {key : String} {app gated : Json}

theorem ensure_child_get {fields child : List (String × Json)} (held : ensureChildObject fields key = some child)
    (other : String) : (Json.obj child).get other = ((Json.obj fields).get key).bind fun inner => inner.get other := by
  rw [ensureChildObject] at held
  change _ = (fields.lookup key).bind _
  cases found : fields.lookup key with
  | none =>
    rw [found] at held
    cases held
    rfl
  | some inner =>
    rw [found] at held
    cases inner with
    | obj inner =>
      cases held
      rfl
    | _ => cases held

theorem zero_envs_get (spec : Json) (key : String) :
    (zeroEnvs spec).get key = if key = "environments" then (spec.get key).map zeroAllEnvs else spec.get key := by
  rw [zeroEnvs]
  by_cases same : key = "environments"
  · subst same
    cases held : spec.get "environments" with
    | none => exact held
    | some envs => simp
  · rw [if_neg same]
    cases spec.get "environments" with
    | none => rfl
    | some envs => simp [same]

theorem zero_all_envs_get (envs : Json) (env : String) : (zeroAllEnvs envs).get env = (envs.get env).map zeroEnv := by
  cases envs with
  | obj fields => exact Json.lookup_map env zeroEnv fields
  | _ => rfl

theorem zero_env_get (env : Json) (other : key ≠ "replicas") : (zeroEnv env).get key = env.get key := by
  cases env with
  | obj fields => exact (Json.get_set (.obj fields) (.num 0) "replicas" key).trans (if_neg other)
  | _ => rfl

theorem zero_env_replicas {env : Json} {count : Int} (held : ((zeroEnv env).get "replicas").bind Json.asI64 = some count) :
    count = 0 := by
  cases env with
  | obj fields =>
    have zeroed : (zeroEnv (.obj fields)).get "replicas" = some (.num 0) :=
      (Json.get_set (.obj fields) (.num 0) "replicas" "replicas").trans (if_pos rfl)
    rw [zeroed, bind_some] at held
    exact (some.inj held).symm
  | _ => cases held

theorem zero_replicas_get (app gated : Json) (zeroed : zeroReplicas app = some gated) :
    (∀ key, key ≠ "spec" → gated.get key = app.get key) ∧
      ∃ spec base, ensureChildObject app.fieldsOf "spec" = some spec ∧ ensureChildObject spec "base" = some base ∧
        gated.get "spec" = some (zeroEnvs ((Json.obj spec).set "base" ((Json.obj base).set "replicas" (.num 0)))) := by
  obtain ⟨spec, heldSpec, zeroed⟩ := bind_eq_some_iff.mp zeroed
  obtain ⟨base, heldBase, zeroed⟩ := bind_eq_some_iff.mp zeroed
  cases zeroed
  refine ⟨?_, spec, base, heldSpec, heldBase, ?_⟩
  · intro key other
    rw [Json.get_set, if_neg other]
  · rw [Json.get_set, if_pos rfl]

variable (zeroed : zeroReplicas app = some gated)

include zeroed in
theorem gated_base : baseReplicas gated = some 0 := by
  obtain ⟨_, spec, base, _, _, held⟩ := zero_replicas_get app gated zeroed
  simp [baseReplicas, baseReplicasPath, Json.pointer, held, zero_envs_get, Json.as_i64_num 0 (by decide)]

include zeroed in
theorem gated_env (env : String) : gated.pointer (envPath env) = (app.pointer (envPath env)).map zeroEnv := by
  obtain ⟨_, spec, base, heldSpec, _, held⟩ := zero_replicas_get app gated zeroed
  have listed : (Json.obj spec).get "environments" = (app.get "spec").bind fun inner => inner.get "environments" :=
    ensure_child_get heldSpec "environments"
  have original : app.pointer (envPath env) = ((Json.obj spec).get "environments").bind fun envs => (envs.get env).bind some := by
    rw [listed, Option.bind_assoc]
    rfl
  rw [original, envPath, Json.pointer_cons, held, bind_some, Json.pointer_cons, zero_envs_get, if_pos rfl, Json.get_set,
    if_neg (by decide)]
  cases (Json.obj spec).get "environments" with
  | none => rfl
  | some envs =>
    rw [map_some, bind_some, bind_some, Json.pointer_cons, zero_all_envs_get]
    cases envs.get env with
    | none => rfl
    | some inner => rfl

theorem env_replicas_below (app : Json) (env : String) :
    envReplicas app env = (app.pointer (envPath env)).bind fun inner => (inner.get "replicas").bind Json.asI64 := by
  have split : envReplicasPath env = envPath env ++ ["replicas"] := rfl
  rw [envReplicas, split, Json.pointer_append, Option.bind_assoc]
  congr 1
  funext inner
  rw [Json.pointer_cons]
  cases inner.get "replicas" with
  | none => rfl
  | some held => rfl

include zeroed in
theorem gated_down (env : String) : effectiveReplicas gated env = 0 := by
  rw [effectiveReplicas, gated_base zeroed]
  cases own : envReplicas gated env with
  | none => rfl
  | some count =>
    rw [env_replicas_below, gated_env zeroed] at own
    obtain ⟨inner, listed, read⟩ := bind_eq_some_iff.mp own
    obtain ⟨held, _, rfl⟩ := map_eq_some_iff.mp listed
    have zero : count = 0 := zero_env_replicas read
    rw [zero]
    rfl

include zeroed in
theorem gated_kept (path : List String)
    (base : Json.Apart path baseReplicasPath) (envs : ∀ env, Json.Apart path (envReplicasPath env)) :
    gated.pointer path = app.pointer path := by
  obtain ⟨others, spec, inner, heldSpec, heldBase, held⟩ := zero_replicas_get app gated zeroed
  cases path with
  | nil => exact absurd base (Json.not_apart_nil _)
  | cons key rest =>
    by_cases top : key = "spec"
    · subst top
      have baseRest := (Json.apart_cons _ _ _ _).mp base rfl
      have envRest := fun env => (Json.apart_cons _ _ _ _).mp (envs env) rfl
      cases rest with
      | nil => exact absurd baseRest (Json.not_apart_nil _)
      | cons key rest =>
        have original : (app.get "spec").bind (fun child => child.pointer (key :: rest)) =
            ((Json.obj spec).get key).bind fun child => child.pointer rest := by
          rw [ensure_child_get heldSpec key, Option.bind_assoc]
          rfl
        rw [Json.pointer_cons, held, bind_some, Json.pointer_cons app, original, Json.pointer_cons, zero_envs_get]
        by_cases isBase : key = "base"
        · subst isBase
          rw [if_neg (by decide), Json.get_set, if_pos rfl, bind_some]
          have inside := (Json.apart_cons _ _ _ _).mp baseRest rfl
          cases rest with
          | nil => exact absurd inside (Json.not_apart_nil _)
          | cons key rest =>
            have other : key ≠ "replicas" := fun same =>
              Json.not_apart_end _ ((Json.apart_cons _ _ _ _).mp inside same)
            rw [Json.pointer_cons, Json.get_set, if_neg other, ensure_child_get heldBase key, Option.bind_assoc]
            rfl
        · by_cases isEnvs : key = "environments"
          · subst isEnvs
            have inEnvs := fun env => (Json.apart_cons _ _ _ _).mp (envRest env) rfl
            rw [if_pos rfl, Json.get_set, if_neg isBase]
            cases rest with
            | nil => exact absurd (inEnvs "") (Json.not_apart_nil _)
            | cons env rest =>
              have inEnv := (Json.apart_cons _ _ _ _).mp (inEnvs env) rfl
              cases rest with
              | nil => exact absurd inEnv (Json.not_apart_nil _)
              | cons key rest =>
                have other : key ≠ "replicas" := fun same =>
                  Json.not_apart_end _ ((Json.apart_cons _ _ _ _).mp inEnv same)
                cases (Json.obj spec).get "environments" with
                | none => rfl
                | some all =>
                  rw [map_some, bind_some, bind_some, Json.pointer_cons, Json.pointer_cons,
                    zero_all_envs_get]
                  cases all.get env with
                  | none => rfl
                  | some held =>
                    rw [map_some, bind_some, bind_some, Json.pointer_cons, Json.pointer_cons,
                      zero_env_get held other]
          · rw [if_neg isEnvs, Json.get_set, if_neg isBase]
    · rw [Json.pointer_cons, Json.pointer_cons, others key top]

end AppRafter.Restore
