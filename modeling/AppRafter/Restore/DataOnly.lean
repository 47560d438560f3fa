import AppRafter.Restore.Phases

set_option autoImplicit false

namespace AppRafter.Restore

open Lib List

section Scope

variable (original : Cluster) (namespaces : List String)

structure Books (suspended : Suspended) : Prop where
  entries : ∀ entry ∈ suspended.recorded, ∃ before ∈ original, IsApplication before ∧ InScope original namespaces before ∧
    entryKey entry = before.key ∧ entry.2 = originalReplicas before.json
  registrations : ∀ registration ∈ suspended.argo, ∃ before ∈ original, IsRegistration before ∧ InScope original namespaces before ∧
    registrationKey registration = before.key
  deployed : ∀ entry ∈ suspended.recorded, ∀ before ∈ original, IsRegistration before →
    deploys entry.1.2 entry.1.1 before.json = true → (crNamespace before.json, crName before.json) ∈ suspended.argo

structure Halfway (cluster : Cluster) (suspended : Suspended) : Prop where
  books : Books original namespaces suspended
  objects : List.Forall₂ (Suspending original namespaces suspended.keys) original cluster

def Decides (ns : String) (decision : SuspendDecision) : Prop :=
  ∃ before ∈ original, IsApplication before ∧ crNamespace before.json = ns ∧ decision.name = crName before.json ∧
    decision.replicas = originalReplicas before.json

def Covers (recorded : List ((String × String) × Int)) (place : String × String) : Prop := place ∈ recorded.map Prod.fst

theorem books_start : Books original namespaces ⟨[], []⟩ where
  entries := nofun
  registrations := nofun
  deployed := nofun

variable {namespaces} {cluster : Cluster} {suspended : Suspended} {before : Object} {ns : String}

theorem halfway_start (drifts : Drifts original namespaces cluster) : Halfway original namespaces cluster ⟨[], []⟩ where
  books := books_start original namespaces
  objects := forall_two_imp drifts fun _ _ _ drift =>
    ⟨drift, nofun, nofun⟩

theorem halfway_drifts (cluster : Cluster) (suspended : Suspended) (halfway : Halfway original namespaces cluster suspended) :
    Drifts original namespaces cluster :=
  forall_two_imp halfway.objects fun _ _ _ pair => pair.drift

def AllCovered (recorded : List ((String × String) × Int)) (ns : String) : Prop :=
  ∀ before ∈ original, IsApplication before → crNamespace before.json = ns → Covers recorded (ns, crName before.json)

theorem covered_keys (books : Books original namespaces suspended)
    (covered : ∀ ns ∈ namespaces, AllCovered original suspended.recorded ns) (there : before ∈ original)
    (within : InScope original namespaces before) : before.key ∈ suspended.keys := by
  rcases within with ⟨application, placed⟩ | ⟨argo, app, origin, application, placed, matched⟩
  · obtain ⟨entry, member, same⟩ := mem_map.mp (covered _ placed before there application rfl)
    refine mem_append_left _ (mem_map.mpr ⟨entry, member, ?_⟩)
    rw [entryKey, same, Object.key, application]
  · obtain ⟨entry, member, same⟩ := mem_map.mp (covered _ placed app origin application rfl)
    have deployed := books.deployed entry member before there argo (by rw [same]; exact matched)
    refine mem_append_right _ (mem_map.mpr ⟨_, deployed, ?_⟩)
    rw [registrationKey, Object.key, argo.1]

theorem quiet_halfway (halfway : Halfway original namespaces cluster suspended)
    (covered : ∀ ns ∈ namespaces, AllCovered original suspended.recorded ns) :
    List.Forall₂ (Quiet original namespaces) original cluster := by
  refine forall_two_imp halfway.objects ?_
  intro before there now pair
  have noted := covered_keys _ halfway.books covered there
  constructor
  case app =>
    intro application placed
    have down := pair.down application (noted (.inl ⟨application, placed⟩))
    refine ⟨down.zero, ?_⟩
    intro env own
    rw [effectiveReplicas, env_drift (pair.drift.app application) env, own, down.zero]
    rfl
  case argo =>
    intro argo deployed
    exact pair.off argo (noted (.inr ⟨argo, deployed⟩))

theorem resume_fits (books : Books original namespaces suspended) {patch : MergePatch}
    (member : patch ∈ resumePatches suspended.recorded suspended.argo) :
    Fits original namespaces resumeBody patch ∧ patch.key ∈ suspended.keys := by
  rcases mem_append.mp member with app | argo
  · obtain ⟨entry, held, rfl⟩ := mem_map.mp app
    obtain ⟨before, there, application, within, key, counted⟩ := books.entries entry held
    refine ⟨⟨before, there, within, key, ?_⟩, mem_append_left _ (mem_map.mpr ⟨entry, held, rfl⟩)⟩
    have isApp : before.resource = applicationsResource := application
    rw [resumeBody, if_pos isApp, ← counted]
    rfl
  · obtain ⟨ref, held, rfl⟩ := mem_map.mp argo
    obtain ⟨before, there, registration, within, key⟩ := books.registrations ref held
    refine ⟨⟨before, there, within, key, ?_⟩, mem_append_right _ (mem_map.mpr ⟨ref, held, rfl⟩)⟩
    exact (if_neg (registration_other registration)).symm

theorem resume_keys {key : Key} (member : key ∈ suspended.keys) :
    key ∈ (resumePatches suspended.recorded suspended.argo).map MergePatch.key := by
  rw [resumePatches, map_append, map_map, map_map]
  exact member

variable (sound : Sound original)

include sound

theorem suspend_app_safe (within : ns ∈ namespaces) {decision : SuspendDecision}
    (decides : Decides original ns decision) (halfway : Halfway original namespaces cluster suspended) :
    (suspendApp ns suspended decision).Safe serve (Drifts original namespaces) (MayAsk original namespaces)
      (fun later next => Halfway original namespaces later next ∧
        next.recorded = suspended.recorded ++ [((ns, decision.name), decision.replicas)]) cluster := by
  have drifts := halfway_drifts _ _ _ halfway
  obtain ⟨app, origin, application, placed, named, counted⟩ := decides
  have found := registrations_found sound drifts decision.name ns
  have scopeApp : InScope original namespaces app := .inl ⟨application, placed ▸ within⟩
  have appKey : app.key = ⟨applicationsResource, ns, decision.name⟩ := by
    rw [Object.key, placed, named, application]
  have deployed : ∀ before, IsRegistration before → deploys decision.name ns before.json = true →
      InScope original namespaces before := by
    intro before argo matched
    refine .inr ⟨argo, app, origin, application, placed ▸ within, ?_⟩
    rw [placed, ← named]
    exact matched
  generalize listed : argoAppsForCr decision.name ns (registrationsIn cluster) = argo at found
  have fits : ∀ patch ∈ suspendPatches ns decision.name argo decision.replicas, Fits original namespaces suspendBody patch := by
    intro patch member
    rcases mem_append.mp member with registration | own
    · obtain ⟨ref, held, rfl⟩ := mem_map.mp registration
      obtain ⟨before, there, isArgo, matched, rfl⟩ := (found ref).mp held
      refine ⟨before, there, deployed before isArgo matched, ?_, ?_⟩
      · rw [Object.key, isArgo.1]
        rfl
      · exact (if_neg (registration_other isArgo)).symm
    · rw [mem_singleton.mp own]
      refine ⟨app, origin, scopeApp, appKey.symm, ?_⟩
      rw [counted]
      exact (if_pos application).symm
  have keys : ∀ key ∈ (suspended.note ns decision argo).keys,
      key ∈ suspended.keys ++ (suspendPatches ns decision.name argo decision.replicas).map MergePatch.key := by
    intro key member
    rw [mem_append]
    rcases mem_append.mp member with entry | registration
    · rw [Suspended.note, map_append] at entry
      rcases mem_append.mp entry with earlier | last
      · exact .inl (mem_append_left _ earlier)
      · refine .inr (mem_map.mpr ⟨_, mem_append_right _ (mem_singleton_self _), ?_⟩)
        exact (mem_singleton.mp last).symm
    · obtain ⟨ref, held, rfl⟩ := mem_map.mp registration
      rcases (mem_record_suspended _ _ ref).mp held with earlier | added
      · exact .inl (mem_append_right _ (mem_map.mpr ⟨ref, earlier, rfl⟩))
      · exact .inr (mem_map.mpr ⟨_, mem_append_left _ (mem_map.mpr ⟨ref, added, rfl⟩), rfl⟩)
  have books : Books original namespaces (suspended.note ns decision argo) := by
    constructor
    case entries =>
      intro entry member
      rcases mem_append.mp member with earlier | last
      · exact halfway.books.entries entry earlier
      · rw [mem_singleton.mp last]
        exact ⟨app, origin, application, scopeApp, appKey.symm, counted⟩
    case registrations =>
      intro ref member
      rcases (mem_record_suspended _ _ ref).mp member with earlier | added
      · exact halfway.books.registrations ref earlier
      · obtain ⟨before, there, isArgo, matched, rfl⟩ := (found ref).mp added
        refine ⟨before, there, isArgo, deployed before isArgo matched, ?_⟩
        rw [Object.key, isArgo.1]
        rfl
    case deployed =>
      intro entry member before there isArgo matched
      rw [Suspended.note, mem_record_suspended]
      rcases mem_append.mp member with earlier | last
      · exact .inl (halfway.books.deployed entry earlier before there isArgo matched)
      · rw [mem_singleton.mp last] at matched
        exact .inr ((found _).mpr ⟨before, there, isArgo, matched, rfl⟩)
  change Drifts original namespaces cluster ∧ MayAsk original namespaces cluster Request.registrations ∧
    Prog.Safe serve (Drifts original namespaces) (MayAsk original namespaces) _ (patchAll (suspendPatches ns decision.name
      (argoAppsForCr decision.name ns (registrationsIn cluster)) decision.replicas) >>= fun _ =>
        pure (suspended.note ns decision (argoAppsForCr decision.name ns (registrationsIn cluster)))) cluster
  rw [listed]
  refine ⟨drifts, trivial, ?_⟩
  refine Prog.safe_bind serve _ _ _ _ _ cluster ?_
  refine Prog.safe_mono serve _ _ _ _ _ cluster ?_ (patch_all_safe (fun _ _ _ pair => pair.drift) ?_ halfway.objects)
  · intro later _ drifted objects
    refine Prog.safe_pure serve _ drifted ⟨⟨books, ?_⟩, rfl⟩
    exact forall_two_imp objects fun before _ now pair =>
      suspending_mono keys pair
  · intro patch member keys more before now there pair added
    exact suspending_step sound there (fits patch member) added pair

theorem suspend_namespace_safe (within : ns ∈ namespaces) (halfway : Halfway original namespaces cluster suspended) :
    (suspendNamespace suspended ns).Safe serve (Drifts original namespaces) (MayAsk original namespaces)
      (fun later next => Halfway original namespaces later next ∧ (∀ place, Covers suspended.recorded place → Covers next.recorded place) ∧
        AllCovered original next.recorded ns) cluster := by
  have drifts := halfway_drifts _ _ _ halfway
  obtain ⟨listedFrom, listedAll⟩ := applications_found sound drifts ns
  obtain ⟨decided, all⟩ := apps_to_suspend_spec (applicationsIn cluster ns) ns suspended.recorded
  have decides : ∀ decision ∈ appsToSuspend (applicationsIn cluster ns) ns suspended.recorded, Decides original ns decision := by
    intro decision member
    obtain ⟨app, listed, rfl⟩ := decided decision member
    obtain ⟨before, there, application, placed, named, counted⟩ := listedFrom app listed
    exact ⟨before, there, application, placed, (decision_name app).trans named, counted⟩
  let reached : List SuspendDecision → Cluster → Suspended → Prop := fun done later next =>
    Halfway original namespaces later next ∧ (∀ place, Covers suspended.recorded place → Covers next.recorded place) ∧
      ∀ decision ∈ done, Covers next.recorded (ns, decision.name)
  have folded : ((appsToSuspend (applicationsIn cluster ns) ns suspended.recorded).foldlM (suspendApp ns) suspended).Safe serve
      (Drifts original namespaces) (MayAsk original namespaces)
      (reached (appsToSuspend (applicationsIn cluster ns) ns suspended.recorded)) cluster := by
    refine Prog.safe_fold serve (suspendApp ns) reached _ suspended cluster ?_
      (fun _ later next met => halfway_drifts _ later next met.1) ?_
    · intro done decision member later next met
      refine Prog.safe_mono serve _ _ _ _ _ later ?_ (suspend_app_safe _ sound within (decides decision member) met.1)
      intro final value _ ended
      have grown : ∀ place, Covers next.recorded place → Covers value.recorded place := by
        intro place covered
        rw [Covers, ended.2, map_append]
        exact mem_append_left _ covered
      refine ⟨ended.1, fun place covered => grown place (met.2.1 place covered), ?_⟩
      intro other isDone
      rcases mem_append.mp isDone with earlier | last
      · exact grown _ (met.2.2 other earlier)
      · rw [mem_singleton.mp last, Covers, ended.2, map_append]
        exact mem_append_right _ (mem_singleton_self _)
    · exact ⟨halfway, fun _ covered => covered, nofun⟩
  refine ⟨drifts, trivial, Prog.safe_mono serve _ _ _ _ _ cluster ?_ folded⟩
  intro later next _ met
  refine ⟨met.1, met.2.1, ?_⟩
  intro before there application placed
  obtain ⟨app, listed, named⟩ := listedAll before there application placed
  obtain ⟨name, text, filled⟩ := sound.named before there
  have own : crName before.json = name := by rw [crName, crString, text]; rfl
  rcases all app listed (by rw [named, own]; exact filled) with already | ⟨decision, member, same⟩
  · rw [← named]
    exact met.2.1 _ already
  · rw [← named, ← same]
    exact met.2.2 decision member

theorem suspend_workloads_safe (drifts : Drifts original namespaces cluster) :
    (suspendWorkloads namespaces).Safe serve (Drifts original namespaces) (MayAsk original namespaces)
      (fun later next => Halfway original namespaces later next ∧ ∀ ns ∈ namespaces, AllCovered original next.recorded ns) cluster := by
  refine Prog.safe_fold serve suspendNamespace
    (fun done later next => Halfway original namespaces later next ∧ ∀ ns ∈ done, AllCovered original next.recorded ns)
    namespaces ⟨[], []⟩ cluster ?_ (fun _ later next met => halfway_drifts _ later next met.1) ?_
  · intro done ns member later next met
    refine Prog.safe_mono serve _ _ _ _ _ later ?_ (suspend_namespace_safe _ sound member met.1)
    intro final value _ ended
    refine ⟨ended.1, ?_⟩
    intro other isDone before there application placed
    rcases mem_append.mp isDone with earlier | last
    · exact ended.2.1 _ (met.2 other earlier before there application placed)
    · have here : other = ns := mem_singleton.mp last
      subst here
      exact ended.2.2 before there application placed
  · exact ⟨halfway_start _ drifts, nofun⟩

theorem recovered_resumed {keys : List Key} {now : Object} (there : before ∈ original)
    (noted : InScope original namespaces before → before.key ∈ keys)
    (resumed : Resuming original namespaces keys keys before now) : Recovered original namespaces before now := by
  have up : IsApplication before → Up before.json now.json := by
    intro application
    by_cases within : InScope original namespaces before
    · exact resumed.up application (noted within)
    · rw [resumed.drift.untouched within]
      exact ⟨rfl, sound.unmarked before there application⟩
  constructor
  case replicas =>
    intro application env
    have same := (up application).same
    rw [effectiveReplicas, effectiveReplicas, env_drift (resumed.drift.app application) env]
    cases envReplicas before.json env with
    | some own => rfl
    | none => exact same
  case unmarked => exact fun application => (up application).unmarked
  case kept => exact fun application => (resumed.drift.app application).kept
  case on => exact fun argo deployed => resumed.on argo (noted (.inr ⟨argo, deployed⟩))
  case keptArgo => exact resumed.drift.argo
  case untouched => exact resumed.drift.untouched

theorem resume_safe (halfway : Halfway original namespaces cluster suspended)
    (covered : ∀ ns ∈ namespaces, AllCovered original suspended.recorded ns) :
    (patchAll (resumePatches suspended.recorded suspended.argo)).Safe serve (Drifts original namespaces) (MayAsk original namespaces)
      (fun later _ => List.Forall₂ (Recovered original namespaces) original later) cluster := by
  have begun : List.Forall₂ (Resuming original namespaces suspended.keys []) original cluster :=
    forall_two_imp halfway.objects fun before _ now pair =>
      resuming_start pair
  refine Prog.safe_mono serve _ _ _ _ _ cluster ?_ (patch_all_safe (fun _ _ _ pair => pair.drift) ?_ begun)
  · intro later _ _ objects
    refine forall_two_imp objects ?_
    intro before there now pair
    refine recovered_resumed _ sound there (covered_keys _ halfway.books covered there) ?_
    exact ⟨pair.drift, fun app member => pair.up app (resume_keys member), pair.off,
      fun argo member => pair.on argo (resume_keys member)⟩
  · intro patch member keys more before now there pair added
    obtain ⟨fits, known⟩ := resume_fits _ halfway.books member
    exact resuming_step sound there fits known added pair

end Scope

section Runs

variable {original : Cluster} {resources : List ResourceRef} (sound : Sound original)

include sound

theorem data_only_safe {cluster : Cluster} (drifts : Drifts original (claimNamespaces resources) cluster) :
    (dataOnly resources).Safe serve (Drifts original (claimNamespaces resources)) (MayAsk original (claimNamespaces resources))
      (fun later _ => List.Forall₂ (Recovered original (claimNamespaces resources)) original later) cluster := by
  refine Prog.safe_bind serve _ _ _ _ _ cluster ?_
  refine Prog.safe_mono serve _ _ _ _ _ cluster ?_ (suspend_workloads_safe _ sound drifts)
  intro later suspended drifted met
  exact ⟨drifted, quiet_halfway _ met.1 met.2, resume_safe _ sound met.1 met.2⟩

end Runs

def interrupted (resources : List ResourceRef) (cuts : List Nat) (cluster : Cluster) : Cluster :=
  cuts.foldl (fun held stop => (dataOnly resources).cut serve stop held) cluster

def Recorded (before now : Object) : Prop :=
  IsApplication before → baseReplicas now.json = some 0 →
    originalReplicas before.json = 0 ∨ now.json.pointer annotationPath = some (.str (toString (originalReplicas before.json)))

theorem interrupted_drifts (original : Cluster) (resources : List ResourceRef) (sound : Sound original) (cuts : List Nat)
    (cluster : Cluster) (drifts : Drifts original (claimNamespaces resources) cluster) :
    Drifts original (claimNamespaces resources) (interrupted resources cuts cluster) := by
  induction cuts generalizing cluster with
  | nil => exact drifts
  | cons stop rest ih =>
    exact ih _ (Prog.safe_cut serve _ _ _ _ _ (data_only_safe sound drifts) stop)

theorem recorded_drift {before now : Object} {original : Cluster} {namespaces : List String}
    (drift : Drift original namespaces before now) : Recorded before now := by
  intro application zero
  rcases (drift.app application).count with up | down
  · have same := up.same
    rw [originalReplicas, zero] at same
    exact .inl same.symm
  · exact .inr down.marked

theorem interrupted_restores_recover (original : Cluster) (resources : List ResourceRef) (sound : Sound original)
    (cuts : List Nat) :
    (∀ stop, (dataOnly resources).asked serve stop (interrupted resources cuts original) = some Request.loadData →
      List.Forall₂ (Quiet original (claimNamespaces resources)) original
        ((dataOnly resources).cut serve stop (interrupted resources cuts original))) ∧
      List.Forall₂ Recorded original (interrupted resources cuts original) ∧
      List.Forall₂ (Recovered original (claimNamespaces resources)) original
        ((dataOnly resources).play serve (interrupted resources cuts original)).2 := by
  have drifts := interrupted_drifts original resources sound cuts original (drift_start original _ sound)
  have safe := data_only_safe sound drifts
  refine ⟨?_, ?_, ?_⟩
  · intro stop asks
    exact Prog.safe_asked serve _ _ _ _ _ safe stop Request.loadData asks
  · exact forall_two_imp drifts fun before _ now drift => recorded_drift drift
  · cases played : (dataOnly resources).play serve (interrupted resources cuts original) with
    | mk ended final =>
      cases ended with
      | error error => exact error.elim
      | ok value => exact (Prog.safe_play serve _ _ _ _ _ safe value final played).2

def deploying (ns name : String) : Json → Json
  | .obj fields => .obj (fields ++ [("status", .obj [("resources", .arr [.obj [("group", .str "apprafter.io"),
      ("kind", .str "Application"), ("namespace", .str ns), ("name", .str name)]])])])
  | json => json

def shopCluster : Cluster := [⟨applicationsResource, shopApi⟩, ⟨argoResource, deploying "shop" "api" shopRegistration⟩]

def shopClaims : List ResourceRef := [⟨"ResourceClaim", "shop", "api-db"⟩]

theorem shop_sound : Sound shopCluster where
  distinct := by decide
  placed := by
    intro object member
    rcases mem_cons.mp member with rfl | later
    · exact ⟨"shop", rfl⟩
    · rw [mem_singleton.mp later]
      exact ⟨"argocd", rfl⟩
  named := by
    intro object member
    rcases mem_cons.mp member with rfl | later
    · exact ⟨"api", rfl, by decide⟩
    · rw [mem_singleton.mp later]
      exact ⟨"shop", rfl, by decide⟩
  unmarked := by
    intro object member _
    rcases mem_cons.mp member with rfl | later
    · rfl
    · rw [mem_singleton.mp later]
      rfl
  counted := by
    intro object member application
    rcases mem_cons.mp member with rfl | later
    · decide
    · rw [mem_singleton.mp later] at application
      exact absurd application (by decide)

-- Cut with the application down, then with it up and the registration off.
theorem interrupted_shop_recovers : List.Forall₂ (Recovered shopCluster (claimNamespaces shopClaims)) shopCluster
    ((dataOnly shopClaims).play serve (interrupted shopClaims [4, 6] shopCluster)).2 :=
  (interrupted_restores_recover shopCluster shopClaims shop_sound [4, 6]).2.2

theorem finished_autosync_differs : ∃ registration,
    live ((dataOnly shopClaims).play serve shopCluster).2 ⟨argoResource, "argocd", "shop"⟩ = some registration ∧
      registration.pointer automatedPath ≠ shopRegistration.pointer automatedPath := by
  refine ⟨_, rfl, ?_⟩
  intro same
  have policies : some platformAutosync = some (Json.obj [("prune", .bool true)]) := same
  simp [platformAutosync] at policies

end AppRafter.Restore
