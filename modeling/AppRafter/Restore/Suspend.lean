import Mathlib.Data.List.Dedup
import Mathlib.Data.List.Sort
import AppRafter.Lib.Play
import AppRafter.Restore.Gate

set_option autoImplicit false

namespace AppRafter.Restore

open Lib Option

inductive ReplicaSource where
  | live
  | annotation
  | unusableAnnotation (raw : Json)

structure SuspendDecision where
  name : String
  replicas : Int
  source : ReplicaSource

def parseDigits (digits : List Char) : Option Int :=
  if ¬ digits = [] ∧ digits.all Char.isDigit = true then some ↑(Nat.ofDigitChars 10 digits 0) else none

def parseSigned : List Char → Option Int
  | '-' :: digits => (parseDigits digits).map fun value => -value
  | '+' :: digits => parseDigits digits
  | digits => parseDigits digits

def parseI64 (text : String) : Option Int := (parseSigned text.toList).filter fun value => Json.fitsI64 value

def usableCount (text : String) : Option Int := (parseI64 (Text.trim text)).filter fun value => 0 ≤ value

-- `none` where there is no annotation, and its raw value where it is no count.
def recordedReplicas (app : Json) : Option (Except Json Int) :=
  (app.pointer annotationPath).map fun raw =>
    match raw.asStr.bind usableCount with
    | some count => .ok count
    | none => .error raw

def suspendDecision (app : Json) : SuspendDecision :=
  match recordedReplicas app with
  | none => ⟨crName app, originalReplicas app, .live⟩
  | some (.ok count) => ⟨crName app, count, ReplicaSource.annotation⟩
  | some (.error raw) => ⟨crName app, originalReplicas app, ReplicaSource.unusableAnnotation raw⟩

attribute [local instance] pair_lawful

def suspendOnce (ns : String) (alreadyRecorded : List ((String × String) × Int)) (out : List SuspendDecision) (app : Json) :
    List SuspendDecision :=
  if crName app = "" ∨ (ns, crName app) ∈ alreadyRecorded.map Prod.fst ∨ crName app ∈ out.map SuspendDecision.name then out
  else out ++ [suspendDecision app]

def appsToSuspend (apps : List Json) (ns : String) (alreadyRecorded : List ((String × String) × Int)) : List SuspendDecision :=
  apps.foldl (suspendOnce ns alreadyRecorded) []

structure CrRef where
  namespace_ : Option String
  name : String

def isApprafterWorkload (entry : Json) : Bool :=
  decide ((entry.get "group").bind Json.asStr = some "apprafter.io" ∧ (entry.get "kind").bind Json.asStr = some "Application")

def nonEmptyStr (json : Option Json) : Option String := (json.bind Json.asStr).filter fun text => text ≠ ""

def crRef (dest : Option String) (entry : Json) : Option CrRef :=
  ((entry.get "name").bind Json.asStr).map fun name => ⟨(nonEmptyStr (entry.get "namespace")).or dest, name⟩

def apprafterAppRefs (argocdApp : Json) : List CrRef :=
  ((((argocdApp.pointer ["status", "resources"]).bind Json.asArr).getD []).filter isApprafterWorkload).filterMap
    (crRef (nonEmptyStr (argocdApp.pointer ["spec", "destination", "namespace"])))

-- A ref whose namespace is unknown matches nothing.
def deploys (name ns : String) (argo : Json) : Bool :=
  (apprafterAppRefs argo).any fun ref : CrRef => ref.name = name ∧ ref.namespace_ = some ns

def argoAppRef (argo : Json) : Option (String × String) := do
  let ns ← (argo.pointer namespacePath).bind Json.asStr
  let name ← (argo.pointer namePath).bind Json.asStr
  return (ns, name)

def argoAppsForCr (name ns : String) (argo : List Json) : List (String × String) :=
  (argo.filter (deploys name ns)).filterMap argoAppRef

-- A request refused or unanswered ends the run, as a cut does.
inductive Request where
  | applications (ns : String)
  | registrations
  | patch (patch : MergePatch)
  | loadData

def clusterApi : Api where
  Request := Request
  Response := fun
    | .applications _ => List Json
    | .registrations => List Json
    | .patch _ => Unit
    | .loadData => Unit

def applicationsIn (cluster : Cluster) (ns : String) : List Json :=
  (cluster.filter fun object => object.resource = applicationsResource ∧ crNamespace object.json = ns).map Object.json

def argocdNamespace : String := "argocd"

def registrationsIn (cluster : Cluster) : List Json :=
  (cluster.filter fun object => object.resource = argoResource ∧ crNamespace object.json = argocdNamespace).map Object.json

def serve (cluster : Cluster) : (request : clusterApi.Request) → clusterApi.Response request × Cluster
  | Request.applications ns => (applicationsIn cluster ns, cluster)
  | Request.registrations => (registrationsIn cluster, cluster)
  | Request.patch patch => ((), patchObject cluster patch)
  | Request.loadData => ((), cluster)

abbrev Run := Prog clusterApi Empty

def patchOne (patch : MergePatch) : Run Unit := .call (.patch patch) .done

def patchAll (patches : List MergePatch) : Run Unit := patches.foldlM (fun _ patch => patchOne patch) ()

structure Suspended where
  argo : List (String × String)
  recorded : List ((String × String) × Int)

def Suspended.note (suspended : Suspended) (ns : String) (decision : SuspendDecision) (argo : List (String × String)) : Suspended where
  argo := recordSuspendedArgo suspended.argo argo
  recorded := suspended.recorded ++ [((ns, decision.name), decision.replicas)]

def suspendApp (ns : String) (suspended : Suspended) (decision : SuspendDecision) : Run Suspended := do
  let registrations : List Json ← .call .registrations .done
  patchAll (suspendPatches ns decision.name (argoAppsForCr decision.name ns registrations) decision.replicas)
  return suspended.note ns decision (argoAppsForCr decision.name ns registrations)

def suspendNamespace (suspended : Suspended) (ns : String) : Run Suspended := do
  let apps : List Json ← .call (.applications ns) .done
  (appsToSuspend apps ns suspended.recorded).foldlM (suspendApp ns) suspended

def suspendWorkloads (namespaces : List String) : Run Suspended := namespaces.foldlM suspendNamespace ⟨[], []⟩

structure ResourceRef where
  kind : String
  namespace_ : String
  name : String

def claimNamespaces (resources : List ResourceRef) : List String :=
  (((resources.filter fun ref : ResourceRef => ref.kind = "ResourceClaim").map ResourceRef.namespace_).insertionSort (· ≤ ·)).dedup

-- The steps of a `--data-only` restore that touch the cluster.
def dataOnly (resources : List ResourceRef) : Run Unit := do
  let suspended ← suspendWorkloads (claimNamespaces resources)
  let _ : Unit ← .call .loadData .done
  patchAll (resumePatches suspended.recorded suspended.argo)

theorem count_digits (count : Nat) : ∀ c ∈ (toString (count : Int)).toList, c.isDigit = true := by
  intro c member
  have text : toString (count : Int) = toString count := rfl
  rw [text, Nat.toString_eq_repr, Nat.toList_repr] at member
  exact Nat.isDigit_of_mem_toDigits (by omega) (by omega) member

theorem parse_count (count : Nat) : parseSigned (toString (count : Int)).toList = some (count : Int) := by
  have plain := count_digits count
  have text : (toString (count : Int)).toList = Nat.toDigits 10 count := by
    change (toString count).toList = _
    rw [Nat.toString_eq_repr, Nat.toList_repr]
  rw [text] at plain ⊢
  have digits : parseDigits (Nat.toDigits 10 count) = some (count : Int) := by
    rw [parseDigits, if_pos ⟨Nat.toDigits_ne_nil, List.all_eq_true.mpr plain⟩, Nat.ofDigitChars_ten_toDigits]
  cases shape : Nat.toDigits 10 count with
  | nil => exact absurd shape Nat.toDigits_ne_nil
  | cons first rest =>
    rw [shape] at plain digits
    obtain ⟨_, _, minus, plus⟩ := Text.digit_clean (plain first List.mem_cons_self)
    rw [← digits]
    simp [parseSigned, minus, plus]

theorem usable_written {count : Int} (positive : 0 ≤ count) (fits : Json.fitsI64 count) :
    usableCount (toString count) = some count := by
  obtain ⟨size, rfl⟩ := Int.eq_ofNat_of_zero_le positive
  have clean := Text.trim_clean (toString (size : Int)) fun c member => (Text.digit_clean (count_digits size c member)).2.1
  rw [usableCount, clean, parseI64, parse_count, filter_some, if_pos (decide_eq_true fits), filter_some,
    if_pos (decide_eq_true positive)]

open List

-- Distinct names, no record on an application, and counts as the schema has them.
structure Sound (cluster : Cluster) : Prop where
  distinct : (cluster.map Object.key).Nodup
  placed : ∀ object ∈ cluster, ∃ text, object.json.pointer namespacePath = some (.str text)
  named : ∀ object ∈ cluster, ∃ text, object.json.pointer namePath = some (.str text) ∧ text ≠ ""
  unmarked : ∀ object ∈ cluster, object.resource = applicationsResource → object.json.pointer annotationPath = none
  counted : ∀ object ∈ cluster, object.resource = applicationsResource → 0 ≤ originalReplicas object.json

structure Up (before now : Json) : Prop where
  same : originalReplicas now = originalReplicas before
  unmarked : now.pointer annotationPath = none

structure Down (before now : Json) : Prop where
  zero : baseReplicas now = some 0
  marked : now.pointer annotationPath = some (.str (toString (originalReplicas before)))

-- Its count is the one it had, or is written down beside a zero.
structure AppDrift (before now : Json) : Prop where
  kept : ∀ path, Json.Apart path baseReplicasPath → Json.Apart path annotationPath → now.pointer path = before.pointer path
  count : Up before now ∨ Down before now

section Counts

variable {before now : Json} (drift : AppDrift before now)

include drift

theorem suspended_down : AppDrift before (now.merge (suspendPatchBody (originalReplicas before))) ∧
    Down before (now.merge (suspendPatchBody (originalReplicas before))) := by
  have down : Down before (now.merge (suspendPatchBody (originalReplicas before))) :=
    ⟨counted_base now _ 0 (by decide), counted_record now _ 0⟩
  exact ⟨⟨fun path counted marked => (counted_kept now _ 0 marked counted).trans (drift.kept path counted marked),
    .inr down⟩, down⟩

theorem resumed_up : AppDrift before (now.merge (resumePatchBody (originalReplicas before))) ∧
    Up before (now.merge (resumePatchBody (originalReplicas before))) := by
  have base := counted_base now .null _ (original_fits before)
  have up : Up before (now.merge (resumePatchBody (originalReplicas before))) := by
    constructor
    · rw [originalReplicas, resumePatchBody, base]
      rfl
    · exact counted_record now .null _
  exact ⟨⟨fun path counted marked => (counted_kept now .null _ marked counted).trans (drift.kept path counted marked),
    .inl up⟩, up⟩

theorem env_drift (env : String) : envReplicas now env = envReplicas before env := by
  rw [envReplicas, envReplicas, drift.kept _ (env_path_apart env).2 (env_path_apart env).1]

-- Whichever run wrote it, the count a suspend decides on is the first one.
theorem decided_count (positive : 0 ≤ originalReplicas before) : (suspendDecision now).replicas = originalReplicas before := by
  rcases drift.count with up | down
  · have unread : recordedReplicas now = none := by
      rw [recordedReplicas, up.unmarked]
      rfl
    rw [suspendDecision, unread]
    exact up.same
  · have usable : (Json.str (toString (originalReplicas before))).asStr.bind usableCount = some (originalReplicas before) := by
      rw [Json.asStr, bind_some]
      exact usable_written positive (original_fits before)
    have read : recordedReplicas now = some (.ok (originalReplicas before)) := by
      rw [recordedReplicas, down.marked, map_some, usable]
    rw [suspendDecision, read]

end Counts

section Scope

variable (original : Cluster) (namespaces : List String)

def IsApplication (object : Object) : Prop := object.resource = applicationsResource

def IsRegistration (object : Object) : Prop := object.resource = argoResource ∧ crNamespace object.json = argocdNamespace

def Deployed (registration : Object) : Prop :=
  ∃ app ∈ original, IsApplication app ∧ crNamespace app.json ∈ namespaces ∧
    deploys (crName app.json) (crNamespace app.json) registration.json = true

def InScope (object : Object) : Prop :=
  IsApplication object ∧ crNamespace object.json ∈ namespaces ∨ IsRegistration object ∧ Deployed original namespaces object

structure Drift (before now : Object) : Prop where
  resource : now.resource = before.resource
  untouched : ¬ InScope original namespaces before → now.json = before.json
  app : IsApplication before → AppDrift before.json now.json
  argo : IsRegistration before → ∀ path, Json.Apart path automatedPath → now.json.pointer path = before.json.pointer path

theorem drift_name {before now : Object} (drift : Drift original namespaces before now) :
    now.json.pointer namespacePath = before.json.pointer namespacePath ∧
      now.json.pointer namePath = before.json.pointer namePath := by
  by_cases within : InScope original namespaces before
  · rcases within with ⟨app, _⟩ | ⟨argo, _⟩
    · exact ⟨(drift.app app).kept _ (by decide) (by decide), (drift.app app).kept _ (by decide) (by decide)⟩
    · exact ⟨drift.argo argo _ (by decide), drift.argo argo _ (by decide)⟩
  · rw [drift.untouched within]
    exact ⟨rfl, rfl⟩

theorem drift_key {before now : Object} (drift : Drift original namespaces before now) : now.key = before.key := by
  obtain ⟨placed, named⟩ := drift_name _ _ drift
  obtain ⟨resource, json⟩ := now
  have same : resource = before.resource := drift.resource
  subst same
  exact key_congr before.resource placed named

theorem drift_start (sound : Sound original) : List.Forall₂ (Drift original namespaces) original original := by
  rw [forall₂_same]
  intro object member
  refine ⟨rfl, fun _ => rfl, fun app => ⟨fun _ _ _ => rfl, .inl ⟨rfl, sound.unmarked object member app⟩⟩, fun _ _ _ => rfl⟩

theorem key_unique (sound : Sound original) (first second : Object) (member : first ∈ original) (other : second ∈ original)
    (same : first.key = second.key) : first = second :=
  inj_on_of_nodup_map sound.distinct member other same

theorem forall_two_mem {First Second : Type} {related : First → Second → Prop} {firsts : List First} {seconds : List Second}
    (holds : List.Forall₂ related firsts seconds) : ∀ first ∈ firsts, ∃ second ∈ seconds, related first second := by
  induction holds with
  | nil => nofun
  | cons pair _ ih =>
    intro first member
    rcases mem_cons.mp member with rfl | later
    · exact ⟨_, mem_cons_self, pair⟩
    · obtain ⟨second, held, related⟩ := ih first later
      exact ⟨second, mem_cons_of_mem _ held, related⟩

end Scope

theorem decision_name (app : Json) : (suspendDecision app).name = crName app := by
  rw [suspendDecision]
  cases recordedReplicas app with
  | none => rfl
  | some read =>
    cases read with
    | ok count => rfl
    | error raw => rfl

-- Every named application has a decision or was recorded before.
theorem apps_to_suspend_spec (apps : List Json) (ns : String) (already : List ((String × String) × Int)) :
    (∀ decision ∈ appsToSuspend apps ns already, ∃ app ∈ apps, decision = suspendDecision app) ∧
      ∀ app ∈ apps, crName app ≠ "" → (ns, crName app) ∈ already.map Prod.fst ∨
        ∃ decision ∈ appsToSuspend apps ns already, decision.name = crName app := by
  suffices general : ∀ (rest done : List Json) (out : List SuspendDecision), (∀ app ∈ rest, app ∈ apps) →
      (∀ decision ∈ out, ∃ app ∈ apps, decision = suspendDecision app) →
      (∀ app ∈ done, crName app ≠ "" → (ns, crName app) ∈ already.map Prod.fst ∨ ∃ decision ∈ out, decision.name = crName app) →
      (∀ decision ∈ rest.foldl (suspendOnce ns already) out, ∃ app ∈ apps, decision = suspendDecision app) ∧
        ∀ app ∈ done ++ rest, crName app ≠ "" → (ns, crName app) ∈ already.map Prod.fst ∨
          ∃ decision ∈ rest.foldl (suspendOnce ns already) out, decision.name = crName app from
    general apps [] [] (fun _ => id) (nofun)
      nofun
  intro rest
  induction rest with
  | nil =>
    intro done out _ made covered
    rw [append_nil]
    exact ⟨made, covered⟩
  | cons first rest ih =>
    intro done out among made covered
    rw [foldl_cons, append_cons done first rest]
    have later : ∀ app ∈ rest, app ∈ apps := fun app member => among app (mem_cons_of_mem _ member)
    by_cases skipped : crName first = "" ∨ (ns, crName first) ∈ already.map Prod.fst ∨ crName first ∈ out.map SuspendDecision.name
    · rw [suspendOnce, if_pos skipped]
      refine ih (done ++ [first]) out later made ?_
      intro app member named
      rcases mem_append.mp member with earlier | last
      · exact covered app earlier named
      · rw [mem_singleton.mp last] at named ⊢
        rcases skipped with empty | recorded | decided
        · exact absurd empty named
        · exact .inl recorded
        · exact .inr (mem_map.mp decided)
    · rw [suspendOnce, if_neg skipped]
      refine ih (done ++ [first]) (out ++ [suspendDecision first]) later ?_ ?_
      · intro decision member
        rcases mem_append.mp member with earlier | last
        · exact made decision earlier
        · exact ⟨first, among first mem_cons_self, mem_singleton.mp last⟩
      · intro app member named
        rcases mem_append.mp member with earlier | last
        · rcases covered app earlier named with recorded | ⟨decision, held, same⟩
          · exact .inl recorded
          · exact .inr ⟨decision, mem_append_left _ held, same⟩
        · rw [mem_singleton.mp last]
          exact .inr ⟨suspendDecision first, mem_append_right _ (mem_singleton_self _), decision_name first⟩

end AppRafter.Restore
