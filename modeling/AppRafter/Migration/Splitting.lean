import AppRafter.Lib.System
import AppRafter.Migration.Detect
import AppRafter.Webhook.Admission

set_option autoImplicit false

namespace AppRafter.Migration

open Lib Application List Option

section Detectors

variable (old new : ApplicationBaseSpec) (appName : String)

theorem network_escalation_quiet : detectNetworkEscalation old new = [] ↔ (network new = "public" → network old = "public") := by
  simp only [detectNetworkEscalation]
  by_cases was : network old = "public" <;> by_cases now : network new = "public" <;> simp [was, now]

theorem network_change_quiet : detectNetworkChange old new = [] ↔ (network old = "public" → network new = "public") := by
  simp only [detectNetworkChange]
  by_cases was : network old = "public" <;> by_cases now : network new = "public" <;> simp [was, now]

theorem hostname_add_quiet : detectHostnameAdd old new = [] ↔
      (network new = "public" → ∀ host ∈ allHostnames new, host ∈ allHostnames old) := by
  simp only [detectHostnameAdd]
  by_cases now : network new = "public"
  · simp [now, addedHosts, filter_eq_nil_iff]
  · simp [now]

theorem public_expose {spec : ApplicationBaseSpec} (isPublic : network spec = "public") :
    ∃ expose, spec.expose = some expose := by
  cases declared : spec.expose with
  | none =>
    simp only [network, declared, bind_none, getD_none] at isPublic
    exact absurd isPublic (by decide)
  | some expose => exact ⟨expose, rfl⟩

theorem port_retarget_quiet (was : network new = "public" → network old = "public") : detectPortRetarget old new = [] ↔
      (network new = "public" → old.expose.map (·.port) = new.expose.map (·.port)) := by
  simp only [detectPortRetarget]
  by_cases now : network new = "public"
  · obtain ⟨oldExpose, oldDeclared⟩ := public_expose (was now)
    obtain ⟨newExpose, newDeclared⟩ := public_expose now
    by_cases same : oldExpose.port = newExpose.port <;> simp [now, oldDeclared, newDeclared, same]
  · simp [now]

theorem env_value_quiet (key : String) (held : Option EnvValue) (value : EnvValue) : detectEnvValue key held value = [] ↔
      (∀ target, value = .ref (.secret target) → held = some (.ref (.secret target))) ∧
      (∀ target, held = some (.ref target) → ∃ kept, value = .ref kept) := by
  rcases held with _ | (_ | (_ | _)) <;> rcases value with _ | (_ | _) <;> simp [detectEnvValue]

theorem env_refs_quiet : detectEnvRefs old new = [] ↔ (∀ key target, (envOf new).get key = some (.ref (.secret target)) →
        (envOf old).get key = some (.ref (.secret target))) ∧
      (∀ key value target, (envOf new).get key = some value → (envOf old).get key = some (.ref target) →
        ∃ kept, value = .ref kept) := by
  simp only [detectEnvRefs]
  rw [flatMap_eq_nil_iff]
  constructor
  · intro quiet
    refine ⟨?_, ?_⟩
    · intro key target held
      have entry := (Dict.get_eq_some (envOf new) key _).mp held
      exact ((env_value_quiet key _ _).mp (quiet _ entry)).1 target rfl
    · intro key value target held reference
      have entry := (Dict.get_eq_some (envOf new) key value).mp held
      exact ((env_value_quiet key _ _).mp (quiet _ entry)).2 target reference
  · intro ⟨secrets, references⟩ ⟨key, value⟩ entry
    have held := (Dict.get_eq_some (envOf new) key value).mpr entry
    rw [env_value_quiet]
    refine ⟨?_, ?_⟩
    · intro target same
      exact secrets key target (same ▸ held)
    · intro target reference
      exact references key value _ held reference

theorem env_removal_quiet (quiet : detectEnvRefRemovals old new = []) {key : String} {target : EnvRef}
    (held : (envOf old).get key = some (.ref target)) : ∃ value, (envOf new).get key = some value := by
  have entry := (Dict.get_eq_some (envOf old) key _).mp held
  have silent := flatMap_eq_nil_iff.mp quiet _ entry
  by_cases kept : key ∈ (envOf new).keys
  · obtain ⟨⟨name, value⟩, member, same⟩ := mem_map.mp kept
    exact ⟨value, (Dict.get_eq_some (envOf new) key value).mpr (same ▸ member)⟩
  · simp [kept] at silent

theorem consume_add_quiet : detectConsumeAdd old new appName = [] ↔
      ∀ share ∈ foreignConsumeShares (jetstream new) appName, share ∈ foreignConsumeShares (jetstream old) appName := by
  simp only [detectConsumeAdd]
  rw [flatMap_eq_nil_iff]
  apply forall₂_congr
  intro share member
  by_cases held : share ∈ foreignConsumeShares (jetstream old) appName <;> simp [held]

def Bound (held : List DatabaseBind) (bind : DatabaseBind) : Prop :=
  ∃ access, (held.find? (sameDatabase bind)).map DatabaseBind.access = some access ∧ (bind.access = .rw → access = .rw)

theorem bind_quiet (held : List DatabaseBind) (bind : DatabaseBind) : detectBind held bind = [] ↔ Bound held bind := by
  simp only [detectBind, Bound]
  cases found : (held.find? (sameDatabase bind)).map DatabaseBind.access with
  | none => simp
  | some access =>
    cases access with
    | rw => simp
    | ro => simp

theorem shared_databases_quiet :
    detectSharedDatabases old new = [] ↔ ∀ bind ∈ sharedDatabaseBinds new, Bound (sharedDatabaseBinds old) bind := by
  simp only [detectSharedDatabases]
  rw [flatMap_eq_nil_iff]
  apply forall₂_congr
  intro bind member
  exact bind_quiet (sharedDatabaseBinds old) bind

theorem dynamic_streams_quiet : detectDynamicStreams old new = [] ↔ (dynamicStreams new = true → dynamicStreams old = true) := by
  simp only [detectDynamicStreams]
  cases was : dynamicStreams old <;> cases now : dynamicStreams new <;> simp

def Collected (held : Option JetStreamStream) (stream : JetStreamStream) : Prop :=
  ∀ subject ∈ stream.subjects, isForeignSubject subject appName = true →
    carriesSubject held subject = true ∧ (stream.allowPurge = true → (held.map (·.allowPurge)).getD false = true)

theorem foreign_stream_quiet (held : Option JetStreamStream) (stream : JetStreamStream) :
    detectForeignSubjects held stream appName ++ detectForeignPurge held stream appName = [] ↔ Collected appName held stream := by
  have subjects : detectForeignSubjects held stream appName = [] ↔
      ∀ subject ∈ stream.subjects, isForeignSubject subject appName = true → carriesSubject held subject = true := by
    simp [detectForeignSubjects, addedForeign]
  have purge : detectForeignPurge held stream appName = [] ↔
      ∀ subject ∈ stream.subjects, isForeignSubject subject appName = true → stream.allowPurge = true →
        (held.map (·.allowPurge)).getD false = true := by
    simp only [detectForeignPurge]
    cases may : stream.allowPurge <;> cases might : (held.map (·.allowPurge)).getD false <;> simp
  rw [append_eq_nil_iff, subjects, purge]
  constructor
  · intro ⟨carried, purged⟩ subject member foreign
    exact ⟨carried subject member foreign, purged subject member foreign⟩
  · intro collected
    exact ⟨fun subject member foreign => (collected subject member foreign).1,
      fun subject member foreign => (collected subject member foreign).2⟩

theorem streams_quiet : detectStreams old new appName = [] ↔
      ∀ stream ∈ streamsOf new, Collected appName (streamNamed (streamsOf old) stream.name) stream := by
  simp only [detectStreams]
  rw [flatMap_eq_nil_iff]
  apply forall₂_congr
  intro stream member
  exact foreign_stream_quiet appName _ stream

end Detectors

-- What every edit let through unapproved stays inside of.
structure Contained (appName : String) (old new : ApplicationBaseSpec) : Prop where
  escalated : network new = "public" → network old = "public"
  withdrawn : network old = "public" → network new = "public"
  hostnames : network new = "public" → ∀ host ∈ allHostnames new, host ∈ allHostnames old
  port : network new = "public" → old.expose.map (·.port) = new.expose.map (·.port)
  secrets : ∀ key target, (envOf new).get key = some (.ref (.secret target)) →
    (envOf old).get key = some (.ref (.secret target))
  references : ∀ key target, (envOf old).get key = some (.ref target) → ∃ kept, (envOf new).get key = some (.ref kept)
  shares : ∀ share ∈ foreignConsumeShares (jetstream new) appName, share ∈ foreignConsumeShares (jetstream old) appName
  databases : ∀ bind ∈ sharedDatabaseBinds new, Bound (sharedDatabaseBinds old) bind
  dynamic : dynamicStreams new = true → dynamicStreams old = true
  streams : ∀ stream ∈ streamsOf new, Collected appName (streamNamed (streamsOf old) stream.name) stream

theorem quiet_contained (appName : String) (old new : ApplicationBaseSpec) (quiet : detectAll old new appName = []) :
    Contained appName old new := by
  rw [detect_all_nil] at quiet
  simp only [detectCandidates, append_eq_nil_iff] at quiet
  obtain ⟨⟨⟨⟨⟨⟨⟨⟨⟨⟨⟨⟨⟨⟨_, change⟩, _⟩, escalation⟩, hostname⟩, port⟩, _⟩, _⟩, _⟩, removal⟩, refs⟩, consume⟩,
    databases⟩, dynamic⟩, streams⟩ := quiet
  have escalated := (network_escalation_quiet old new).mp escalation
  obtain ⟨secrets, references⟩ := (env_refs_quiet old new).mp refs
  refine
    { escalated := escalated
      withdrawn := (network_change_quiet old new).mp change
      hostnames := (hostname_add_quiet old new).mp hostname
      port := (port_retarget_quiet old new escalated).mp port
      secrets := secrets
      references := ?_
      shares := (consume_add_quiet old new appName).mp consume
      databases := (shared_databases_quiet old new).mp databases
      dynamic := (dynamic_streams_quiet old new).mp dynamic
      streams := (streams_quiet old new appName).mp streams }
  intro key target held
  obtain ⟨value, present⟩ := env_removal_quiet old new removal held
  obtain ⟨kept, same⟩ := references key value _ present held
  exact ⟨kept, same ▸ present⟩

theorem bound_trans {older old : List DatabaseBind} {bind : DatabaseBind} (bound : Bound old bind)
    (earlier : ∀ held ∈ old, Bound older held) : Bound older bind := by
  obtain ⟨access, found, wide⟩ := bound
  obtain ⟨held, located, same⟩ := map_eq_some_iff.mp found
  obtain ⟨widest, first, wider⟩ := earlier held (mem_of_find?_eq_some located)
  have database := find?_some located
  simp only [sameDatabase, Bool.and_eq_true, beq_iff_eq] at database
  refine ⟨widest, ?_, fun write => wider (same ▸ wide write)⟩
  have aliased : sameDatabase bind = sameDatabase held := by
    funext other
    simp only [sameDatabase, database.1, database.2]
  rw [aliased]
  exact first

variable {appName subject : String} {stream : JetStreamStream} {binds : List DatabaseBind}

theorem foreign_trim {other : String} (same : Text.trim other = Text.trim subject)
    (foreign : isForeignSubject subject appName = true) : isForeignSubject other appName = true := by
  simpa only [isForeignSubject, subjectFirstToken, same] using foreign

theorem carries_subject_some {held : Option JetStreamStream} (carried : carriesSubject held subject = true) :
    ∃ stream, held = some stream ∧ ∃ other ∈ stream.subjects, Text.trim other = Text.trim subject := by
  cases held with
  | none => exact nomatch carried
  | some stream =>
    simp only [carriesSubject, List.any_eq_true, beq_iff_eq] at carried
    exact ⟨stream, rfl, carried⟩

theorem collected_trans {older old : List JetStreamStream} (collected : Collected appName (streamNamed old stream.name) stream)
    (earlier : ∀ held ∈ old, Collected appName (streamNamed older held.name) held) :
    Collected appName (streamNamed older stream.name) stream := by
  intro subject member foreign
  obtain ⟨carried, purged⟩ := collected subject member foreign
  obtain ⟨held, located, other, present, same⟩ := carries_subject_some carried
  have named : held.name = stream.name := by simpa using find?_some located
  obtain ⟨carriedBefore, purgedBefore⟩ := earlier held (mem_of_find?_eq_some located) other present
    (foreign_trim same foreign)
  rw [named] at carriedBefore purgedBefore
  obtain ⟨origin, found, first, kept, equal⟩ := carries_subject_some carriedBefore
  refine ⟨?_, ?_⟩
  · rw [found]
    simp only [carriesSubject, List.any_eq_true, beq_iff_eq]
    exact ⟨first, kept, equal.trans same⟩
  · intro may
    apply purgedBefore
    simpa only [located, map_some, getD_some] using purged may

theorem contained_trans (appName : String) (a b c : ApplicationBaseSpec) (first : Contained appName a b)
    (second : Contained appName b c) : Contained appName a c where
  escalated now := first.escalated (second.escalated now)
  withdrawn was := second.withdrawn (first.withdrawn was)
  hostnames now host member := first.hostnames (second.escalated now) host (second.hostnames now host member)
  port now := (first.port (second.escalated now)).trans (second.port now)
  secrets key target held := first.secrets key target (second.secrets key target held)
  references key target held := by
    obtain ⟨kept, present⟩ := first.references key target held
    exact second.references key kept present
  shares share member := first.shares share (second.shares share member)
  databases bind member := bound_trans (second.databases bind member) first.databases
  dynamic now := first.dynamic (second.dynamic now)
  streams stream member := collected_trans (second.streams stream member) first.streams

theorem same_database_comm (a b : DatabaseBind) : sameDatabase a b = sameDatabase b a := by
  simp only [sameDatabase, BEq.comm (a := a.type), BEq.comm (a := a.database)]

theorem add_bind_distinct (bind : DatabaseBind) (distinct : binds.Pairwise fun a b => sameDatabase a b = false) :
    (addBind binds bind).Pairwise fun a b => sameDatabase a b = false := by
  have kept : ∀ (held : DatabaseBind) (rest : List DatabaseBind), (∀ other ∈ rest, sameDatabase held other = false) →
      sameDatabase held bind = false → ∀ other ∈ addBind rest bind, sameDatabase held other = false := by
    intro held rest apart fresh
    induction rest with
    | nil => simpa [addBind] using fresh
    | cons next rest ih =>
      intro other member
      simp only [addBind] at member
      split at member
      · cases mem_cons.mp member with
        | inl same =>
          rw [same]
          exact apart next mem_cons_self
        | inr later => exact apart other (mem_cons_of_mem next later)
      · cases mem_cons.mp member with
        | inl same => exact same ▸ apart next mem_cons_self
        | inr later => exact ih (fun x inRest => apart x (mem_cons_of_mem next inRest)) other later
  induction binds with
  | nil => exact pairwise_singleton _ _
  | cons held rest ih =>
    obtain ⟨apart, others⟩ := pairwise_cons.mp distinct
    simp only [addBind]
    by_cases same : sameDatabase held bind = true
    · rw [if_pos same]
      exact pairwise_cons.mpr ⟨apart, others⟩
    · rw [if_neg same]
      exact pairwise_cons.mpr ⟨kept held rest apart (by simpa using same), ih others⟩

theorem shared_database_binds_distinct (spec : ApplicationBaseSpec) :
    (sharedDatabaseBinds spec).Pairwise fun a b => sameDatabase a b = false := by
  suffices folded : ∀ (added binds : List DatabaseBind), (binds.Pairwise fun a b => sameDatabase a b = false) →
      (added.foldl addBind binds).Pairwise fun a b => sameDatabase a b = false from
    folded _ [] List.Pairwise.nil
  intro added
  induction added with
  | nil => exact fun _ distinct => distinct
  | cons bind rest ih =>
    intro binds distinct
    exact ih (addBind binds bind) (add_bind_distinct bind distinct)

theorem bound_self (distinct : binds.Pairwise fun a b => sameDatabase a b = false)
    (bind : DatabaseBind) (member : bind ∈ binds) : Bound binds bind := by
  have found : binds.find? (sameDatabase bind) = some bind := by
    induction binds with
    | nil => exact nomatch member
    | cons held rest ih =>
      obtain ⟨apart, others⟩ := pairwise_cons.mp distinct
      rw [find?_cons]
      cases mem_cons.mp member with
      | inl same =>
        subst same
        simp [sameDatabase]
      | inr later =>
        rw [same_database_comm, apart bind later]
        exact ih others later
  exact ⟨bind.access, by rw [found, map_some], id⟩

theorem stream_named_self {streams : List JetStreamStream} (distinct : (streams.map (·.name)).Nodup) (member : stream ∈ streams) : streamNamed streams stream.name = some stream := by
  simp only [streamNamed]
  induction streams with
  | nil => exact nomatch member
  | cons held rest ih =>
    obtain ⟨apart, others⟩ := nodup_cons.mp distinct
    rw [find?_cons]
    cases mem_cons.mp member with
    | inl same =>
      subst same
      simp
    | inr later =>
      have different : (held.name == stream.name) = false := by
        rw [beq_eq_false_iff_ne]
        intro same
        exact apart (mem_map.mpr ⟨stream, later, same.symm⟩)
      rw [different]
      exact ih others later

theorem contained_self (appName : String) (spec : ApplicationBaseSpec)
    (admitted : Webhook.AdmittedEffective appName spec) : Contained appName spec spec where
  escalated := id
  withdrawn := id
  hostnames _ _ := id
  port _ := rfl
  secrets _ _ := id
  references _ target held := ⟨target, held⟩
  shares _ := id
  databases := bound_self (shared_database_binds_distinct spec)
  dynamic := id
  streams stream member := by
    have distinct : ((streamsOf spec).map (·.name)).Nodup := by
      cases declared : jetstream spec with
      | none => simp [streamsOf, declared]
      | some js =>
        have names := Webhook.admitted_streams_distinct admitted declared
        simpa only [streamsOf, declared, map_some, getD_some] using names
    rw [stream_named_self distinct member]
    intro subject present _
    refine ⟨?_, fun may => may⟩
    simp only [carriesSubject, List.any_eq_true, beq_iff_eq]
    exact ⟨subject, present, rfl⟩

def imageTriggers : List Trigger := [.imagePathChange, .imagePolicyRelaxation]

theorem outside_boundary {old new : ApplicationBaseSpec} (change : DestructiveChange)
    (found : change ∈ detectNeedsRemoval old new ++ detectNetworkChange old new ++ detectDomainChange old new ++
      detectScaleToZero old new ++ detectImagePath old new ++ detectPolicyRelaxation old new ++
      detectEnvRefRemovals old new) :
    change.classification ≠ .securityBoundary ∨ change.triggerType ∈ imageTriggers := by
  simp only [mem_append] at found
  rcases found with (((((found | found) | found) | found) | found) | found) | found
  · obtain ⟨key, _, rfl⟩ := mem_map.mp found
    exact .inl (by simp)
  · obtain ⟨_, same⟩ := mem_ite_nil_right.mp found
    exact .inl (by rw [mem_singleton.mp same]; simp)
  · obtain ⟨_, same⟩ := mem_ite_nil_right.mp found
    exact .inl (by rw [mem_singleton.mp same]; simp)
  · obtain ⟨_, same⟩ := mem_ite_nil_right.mp found
    exact .inl (by rw [mem_singleton.mp same]; simp)
  · unfold detectImagePath at found
    split at found
    · obtain ⟨_, same⟩ := mem_ite_nil_right.mp found
      exact .inr (by rw [mem_singleton.mp same]; simp [imageTriggers])
    · exact nomatch found
  · obtain ⟨_, same⟩ := mem_ite_nil_right.mp found
    exact .inr (by rw [mem_singleton.mp same]; simp [imageTriggers])
  · obtain ⟨entry, _, found⟩ := mem_flatMap.mp found
    obtain ⟨_, found⟩ := mem_ite_nil_left.mp found
    split at found
    · exact .inl (by rw [mem_singleton.mp found]; simp)
    · exact nomatch found

theorem contained_silent (appName : String) (old new : ApplicationBaseSpec) (contained : Contained appName old new)
    (change : DestructiveChange) (found : change ∈ detectAll old new appName)
    (boundary : change.classification = .securityBoundary) : change.triggerType ∈ imageTriggers := by
  have escalation := (network_escalation_quiet old new).mpr contained.escalated
  have hostname := (hostname_add_quiet old new).mpr contained.hostnames
  have port := (port_retarget_quiet old new contained.escalated).mpr contained.port
  have refs : detectEnvRefs old new = [] := by
    refine (env_refs_quiet old new).mpr ⟨contained.secrets, ?_⟩
    intro key value target present held
    obtain ⟨kept, same⟩ := contained.references key target held
    exact ⟨kept, some.inj (present.symm.trans same)⟩
  have consume := (consume_add_quiet old new appName).mpr contained.shares
  have databases := (shared_databases_quiet old new).mpr contained.databases
  have dynamic := (dynamic_streams_quiet old new).mpr contained.dynamic
  have streams := (streams_quiet old new appName).mpr contained.streams
  rw [mem_detect_all] at found
  simp only [detectCandidates, escalation, hostname, port, refs, consume, databases, dynamic, streams, append_nil] at found
  cases outside_boundary change found with
  | inl other => exact absurd boundary other
  | inr image => exact image

-- The whole chain grants nothing a single edit would have been stopped for.
theorem split_edit_contained (appName : String) (first : ApplicationBaseSpec) (rest : List ApplicationBaseSpec)
    (admitted : ∀ spec ∈ first :: rest, Webhook.AdmittedEffective appName spec)
    (quiet : (first :: rest).IsChain fun old new => detectAll old new appName = []) (change : DestructiveChange)
    (found : change ∈ detectAll first ((first :: rest).getLast (cons_ne_nil first rest)) appName)
    (boundary : change.classification = .securityBoundary) : change.triggerType ∈ imageTriggers := by
  have contained := chain_last (Webhook.AdmittedEffective appName) _ (Contained appName)
    (fun a b c across _ _ taken => contained_trans appName a b c across (quiet_contained appName b c taken)) first rest
    (contained_self appName first (admitted first mem_cons_self)) admitted quiet
  exact contained_silent appName first _ contained change found boundary

def plainApp (image : String) : ApplicationSpec := { base := some { image := some image } }

-- Only the environments name an image, and the Application picks none of them.
def imagelessApp : ApplicationSpec :=
  { base := some {}
    environments := some { entries := [("prod", { image := some "ghcr.io/acme/app:v1" })] } }

theorem split_edit_contained_imageless :
    ∃ change ∈ detectAll { image := some "ghcr.io/acme/app:v1" } { image := some "ghcr.io/other/app:v1" } "shop",
      change.classification = .securityBoundary ∧ change.triggerType ∈ imageTriggers := by
  let first : ApplicationBaseSpec := { image := some "ghcr.io/acme/app:v1" }
  let last : ApplicationBaseSpec := { image := some "ghcr.io/other/app:v1" }
  let change : DestructiveChange :=
    ⟨.imagePathChange, "spec.image", some "ghcr.io/acme/app", some "ghcr.io/other/app", .securityBoundary⟩
  have admitted : ∀ spec ∈ [first, {}, last], Webhook.AdmittedEffective "shop" spec := by
    intro spec member
    simp only [mem_cons, not_mem_nil, or_false] at member
    rcases member with rfl | rfl | rfl
    · exact ⟨plainApp "ghcr.io/acme/app:v1", by decide, rfl⟩
    · exact ⟨imagelessApp, by decide, rfl⟩
    · exact ⟨plainApp "ghcr.io/other/app:v1", by decide, rfl⟩
  have quiet : [first, {}, last].IsChain fun old new => detectAll old new "shop" = [] := by decide
  have found : change ∈ detectAll first last "shop" := by decide
  exact ⟨change, found, rfl, split_edit_contained "shop" first [{}, last] admitted quiet change found rfl⟩

theorem quiet_image_path (appName : String) (old new : ApplicationBaseSpec) (quiet : detectAll old new appName = []) :
    detectImagePath old new = [] := by
  rw [detect_all_nil] at quiet
  simp only [detectCandidates, append_eq_nil_iff] at quiet
  exact quiet.1.1.1.1.1.1.1.2

theorem image_path_quiet (old new : ApplicationBaseSpec) (quiet : detectImagePath old new = [])
    (held : old.image.isSome = true) (set : new.image.isSome = true) :
    new.image.map imageRepo = old.image.map imageRepo := by
  obtain ⟨oldImage, oldSet⟩ := isSome_iff_exists.mp held
  obtain ⟨newImage, newSet⟩ := isSome_iff_exists.mp set
  rw [oldSet, newSet]
  have kept : imageRepo oldImage = imageRepo newImage := by simpa [detectImagePath, oldSet, newSet] using quiet
  rw [map_some, map_some, kept]

-- The detectors need an image on either side and a new one that is not a digest.
theorem split_edit_images (appName : String) (first : ApplicationBaseSpec) (rest : List ApplicationBaseSpec)
    (quiet : (first :: rest).IsChain fun old new => detectAll old new appName = []) :
    ((∀ spec ∈ first :: rest, spec.image.isSome = true) →
      ∀ change ∈ detectAll first ((first :: rest).getLast (cons_ne_nil first rest)) appName,
        change.triggerType ≠ .imagePathChange) ∧
    (((first :: rest).IsChain fun old new => resolvePolicy old = "off" → resolvePolicy new = "off") →
      ∀ change ∈ detectAll first ((first :: rest).getLast (cons_ne_nil first rest)) appName,
        change.triggerType ≠ .imagePolicyRelaxation) := by
  refine ⟨?_, ?_⟩
  · intro imaged change found path
    have repo := chain_last (fun spec => spec.image.isSome = true) _ (fun a b => b.image.map imageRepo = a.image.map imageRepo)
      (fun a b c across held set silent => (image_path_quiet b c (quiet_image_path appName b c silent) held set).trans across)
      first rest rfl imaged quiet
    rcases trigger_origin first _ appName change found with removed | moved | relaxed | other
    · exact absurd (path.symm.trans (needs_removal_found change removed).1) (by decide)
    · exact (image_path_found change moved).2 repo.symm
    · exact absurd (path.symm.trans (policy_relaxation_found change relaxed).1) (by decide)
    · exact other (by simp [path, trackedTriggers])
  · intro strict change found relaxation
    have policy := chain_last (fun _ => True) _ (fun a b => resolvePolicy a = "off" → resolvePolicy b = "off")
      (fun a b c across _ _ kept was => kept (across was)) first rest id (fun _ _ => trivial) strict
    rcases trigger_origin first _ appName change found with removed | moved | relaxed | other
    · exact absurd (relaxation.symm.trans (needs_removal_found change removed).1) (by decide)
    · exact absurd (relaxation.symm.trans (image_path_found change moved).1) (by decide)
    · obtain ⟨_, was, now⟩ := policy_relaxation_found change relaxed
      exact now (policy was)
    · exact other (by simp [relaxation, trackedTriggers])

def taggedSpec (image : String) : ApplicationBaseSpec := { image := some image }

theorem split_edit_images_tags :
    let first := taggedSpec "ghcr.io/acme/app:v1"
    let last := taggedSpec "ghcr.io/acme/app:v3"
    (∀ change ∈ detectAll first last "shop", change.triggerType ≠ .imagePathChange) ∧
      ∀ change ∈ detectAll first last "shop", change.triggerType ≠ .imagePolicyRelaxation := by
  intro first last
  let rest := [taggedSpec "ghcr.io/acme/app:v2", last]
  have quiet : (first :: rest).IsChain fun old new => detectAll old new "shop" = [] := by decide
  obtain ⟨paths, policies⟩ := split_edit_images "shop" first rest quiet
  exact ⟨paths (by decide), policies (by decide)⟩

def offApp (image : String) : ApplicationSpec :=
  { base := some { image := some image, imagePolicy := some { resolve := some "off" } } }

def pinnedImage : String := "ghcr.io/acme/app@sha256:9f86d081884c7d659a2feaa0c55ad015a3bf4f1b2b0b822cd15d6c15b0f00a08"

-- Dropping the image hides a change of repository, a digest that tags resolve again.
theorem split_edit_images_bypassed :
    (let chain := [taggedSpec "ghcr.io/acme/app:v1", {}, taggedSpec "ghcr.io/other/app:v1"]
    (∀ spec ∈ chain, Webhook.AdmittedEffective "shop" spec) ∧
      (chain.IsChain fun old new => detectAll old new "shop" = []) ∧
      ∃ change ∈ detectAll (taggedSpec "ghcr.io/acme/app:v1") (taggedSpec "ghcr.io/other/app:v1") "shop",
        change.triggerType = .imagePathChange) ∧
    (let first : ApplicationBaseSpec :=
      { image := some "ghcr.io/acme/app:v1", imagePolicy := some { resolve := some "off" } }
    let chain := [first, taggedSpec pinnedImage, taggedSpec "ghcr.io/acme/app:v1"]
    (∀ spec ∈ chain, Webhook.AdmittedEffective "shop" spec) ∧
      (chain.IsChain fun old new => detectAll old new "shop" = []) ∧
      ∃ change ∈ detectAll first (taggedSpec "ghcr.io/acme/app:v1") "shop",
        change.triggerType = .imagePolicyRelaxation) := by
  refine ⟨⟨?_, by decide, ?_⟩, ?_, by decide, ?_⟩
  · intro spec member
    simp only [mem_cons, not_mem_nil, or_false] at member
    rcases member with rfl | rfl | rfl
    · exact ⟨plainApp "ghcr.io/acme/app:v1", by decide, rfl⟩
    · exact ⟨imagelessApp, by decide, rfl⟩
    · exact ⟨plainApp "ghcr.io/other/app:v1", by decide, rfl⟩
  · exact ⟨⟨.imagePathChange, "spec.image", some "ghcr.io/acme/app", some "ghcr.io/other/app", .securityBoundary⟩,
      by decide, rfl⟩
  · intro spec member
    simp only [mem_cons, not_mem_nil, or_false] at member
    rcases member with rfl | rfl | rfl
    · exact ⟨offApp "ghcr.io/acme/app:v1", by decide, rfl⟩
    · exact ⟨plainApp pinnedImage, by decide, rfl⟩
    · exact ⟨plainApp "ghcr.io/acme/app:v1", by decide, rfl⟩
  · exact ⟨⟨.imagePolicyRelaxation, "imagePolicy.resolve", some "off", some "digest", .securityBoundary⟩,
      by decide, rfl⟩

end AppRafter.Migration
