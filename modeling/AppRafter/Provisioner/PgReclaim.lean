import AppRafter.Lib.Solo
import AppRafter.Provisioner.Objects

set_option autoImplicit false

namespace AppRafter.Provisioner

open Lib List Option

-- No function of the reclaim reads the rest of an entry.
structure RoleEntry where
  name : Option String
  ensure : Option String := none
  body : String := ""
deriving DecidableEq

def managedRoleEntryAbsent (role : String) : RoleEntry := { name := some role, ensure := some "absent" }

variable (existing : List RoleEntry)

def mergeRole (entry : RoleEntry) : List RoleEntry :=
  existing.filter (fun other => other.name ≠ entry.name) ++ [entry]

def removeRole (role : String) : List RoleEntry := existing.filter fun entry => entry.name ≠ some role

def roleAbsentUpsert (role : String) : List RoleEntry :=
  mergeRole existing (managedRoleEntryAbsent role)

def roleEntryEnsure (roles : List RoleEntry) (role : String) : Option String :=
  (roles.find? fun entry => entry.name = some role).bind RoleEntry.ensure

-- The role is listed under `byStatus.reconciled`.
def roleIsDropped (reconciled : List String) (role : String) : Bool := reconciled.contains role

def otherRoles (name : Option String) (roles : List RoleEntry) : List RoleEntry := roles.filter fun entry => entry.name ≠ name

def hasRole (roles : List RoleEntry) (role : String) : Bool := roles.any fun entry => entry.name = some role

variable (existing : List RoleEntry)

theorem merge_role_others (entry : RoleEntry) :
    otherRoles entry.name (mergeRole existing entry) = otherRoles entry.name existing := by
  simp [otherRoles, mergeRole]

variable (role : String)

theorem remove_role_others : otherRoles (some role) (removeRole existing role) = otherRoles (some role) existing := by
  simp [otherRoles, removeRole]

theorem absent_upsert_has : hasRole (roleAbsentUpsert existing role) role = true := by
  simp [hasRole, roleAbsentUpsert, mergeRole, managedRoleEntryAbsent]

theorem remove_role_gone : hasRole (removeRole existing role) role = false := by
  simp [hasRole, removeRole]

theorem has_role_filter (roles : List RoleEntry) (role : String) :
    hasRole roles role = !(roles.filter fun entry => entry.name = some role).isEmpty := by
  induction roles with
  | nil => rfl
  | cons first rest ih =>
    by_cases named : first.name = some role
    · simp [hasRole, named]
    · simpa [hasRole, named] using ih

theorem has_role_of_ensure {roles : List RoleEntry} {role ensure : String} (found : roleEntryEnsure roles role = some ensure) :
    hasRole roles role = true := by
  obtain ⟨entry, first, -⟩ := bind_eq_some_iff.mp found
  have named := find?_some first
  exact any_eq_true.mpr ⟨entry, mem_of_find?_eq_some first, named⟩

structure PgCluster where
  version : Nat
  roles : List RoleEntry
  reconciled : List String

structure PgRetained where
  role : Option String

def PgRetained.roleName (rc : PgRetained) : String := rc.role.getD ""

def roleRmwRetries : Nat := 5

inductive PgPut where
  | replaced
  | conflict
  | missing
  | failed

-- The Cluster is read anew by each try of an update. `none` is an API server's error.
inductive PgRequest where
  | getClaim
  | databaseAbsent
  | getCluster
  | getForUpdate
  | replaceRoles (version : Nat) (roles : List RoleEntry)
  | deletePasswordSecret
  | deleteRetainedClaim

def pgApi : Api where
  Request := PgRequest
  Response
    | .getClaim => Option (Option ResourceClaim)
    | .getCluster => Option (Option PgCluster)
    | .getForUpdate => Option (Option PgCluster)
    | .replaceRoles _ _ => PgPut
    | _ => Bool

inductive PgError where
  | call
  | retriesExhausted

-- A pass that goes through says in how many seconds the next one is due.
abbrev PgProg := Prog pgApi PgError (Option Nat)

def pgAttempt (request : PgRequest) (ok : pgApi.Response request → Bool) (next : PgProg) : PgProg :=
  .call request fun response => if ok response then next else .fail .call

-- `next` is told whether the update landed; it did not where the Cluster is gone.
def afterReplace (next : Bool → PgProg) (retry : PgProg) : PgPut → PgProg
  | .replaced => next true
  | .conflict => retry
  | .missing => next false
  | .failed => .fail .call

def rmwManagedRoles (transform : List RoleEntry → List RoleEntry) (next : Bool → PgProg) : Nat → PgProg
  | 0 => .fail .retriesExhausted
  | left + 1 => .call .getForUpdate fun found => match found with
    | none => .fail .call
    | some none => next false
    | some (some current) =>
      .call (.replaceRoles current.version (transform current.roles)) (afterReplace next (rmwManagedRoles transform next left))

section Reclaim

variable (rc : PgRetained)

def finalizeDrop : PgProg :=
  rmwManagedRoles (removeRole · rc.roleName)
    (fun _ => pgAttempt .deletePasswordSecret id (pgAttempt .deleteRetainedClaim id (.done (some 300)))) roleRmwRetries

def setRoleAbsent : PgProg :=
  rmwManagedRoles (roleAbsentUpsert · rc.roleName) (fun landed => if landed then .done (some 15) else finalizeDrop rc) roleRmwRetries

def dropRole (cluster : PgCluster) : PgProg :=
  if roleEntryEnsure cluster.roles rc.roleName ≠ some "absent" then setRoleAbsent rc
  else if roleIsDropped cluster.reconciled rc.roleName then finalizeDrop rc
  else .done (some 15)

def reclaimDatabase : PgProg :=
  pgAttempt .databaseAbsent id <| .call .getCluster fun found => match found with
    | none => .fail .call
    | some none => finalizeDrop rc
    | some (some cluster) => dropRole rc cluster

def reclaimPg : PgProg :=
  .call .getClaim fun found => match found with
    | none => .fail .call
    | some claim => if claim.any claimIsLive then pgAttempt .deleteRetainedClaim id (.done none) else reclaimDatabase rc

end Reclaim

-- `confirmed`: CNPG listed the role as absent; `pruned`: an update took the entry out.
structure PgWorld where
  cluster : Option PgCluster
  claim : Option ResourceClaim := none
  retained : Bool := true
  observed : List RoleEntry
  seen : List RoleEntry
  confirmed : Bool := false
  pruned : Bool := false

structure PgFate where
  fails : Bool := false
  applied : Bool := true

section World

variable (rc : PgRetained)

def confirmsDrop (reconciled : List String) (seen : List RoleEntry) : Bool :=
  roleIsDropped reconciled rc.roleName && decide (roleEntryEnsure seen rc.roleName = some "absent")

def replacedRoles (world : PgWorld) (version : Nat) (roles : List RoleEntry) : PgPut × PgWorld :=
  match world.cluster with
  | none => (.missing, world)
  | some cluster =>
    if cluster.version = version then
      (.replaced, { world with
          cluster := some { cluster with version := version + 1, roles := roles }
          pruned := world.pruned || (hasRole cluster.roles rc.roleName && !hasRole roles rc.roleName) })
    else (.conflict, world)

-- A request that fails may have been carried out all the same.
def servePg (world : PgWorld) (fate : PgFate) : (request : PgRequest) → pgApi.Response request × PgWorld
  | .getClaim => (if fate.fails then none else some world.claim, world)
  | .databaseAbsent => (!fate.fails, world)
  | .getCluster => (if fate.fails then none else some world.cluster, world)
  | .getForUpdate => (if fate.fails then none else some world.cluster, world)
  | .replaceRoles version roles =>
    if fate.fails then (PgPut.failed, if fate.applied then (replacedRoles rc world version roles).2 else world)
    else replacedRoles rc world version roles
  | .deletePasswordSecret => (!fate.fails, world)
  | .deleteRetainedClaim => (!fate.fails, if !fate.fails || fate.applied then { world with retained := false } else world)

inductive PgChange where
  | edit (roles : List RoleEntry)
  | observe
  | report (reconciled : List String)

-- Others edit the roles around this entry; CNPG writes its status whenever it likes.
def changePg (world : PgWorld) (change : PgChange) : Option PgWorld :=
  world.cluster.bind fun cluster => match change with
    | .edit roles =>
      if (roles.filter fun entry => entry.name = some rc.roleName) = cluster.roles.filter fun entry => entry.name = some rc.roleName then
        some { world with cluster := some { cluster with version := cluster.version + 1, roles := roles } }
      else none
    | .observe => some { world with observed := cluster.roles }
    | .report reconciled =>
      some { world with
        cluster := some { cluster with version := cluster.version + 1, reconciled := reconciled }
        seen := world.observed
        confirmed := world.confirmed || confirmsDrop rc reconciled world.observed }

def pgFleet : Fleet pgApi PgError (Option Nat) PgWorld Unit Unit PgFate PgChange where
  initial world := world.retained = true ∧ world.pruned = false ∧
    world.confirmed = world.cluster.any fun cluster => confirmsDrop rc cluster.reconciled world.seen
  key _ := ()
  begin world _ := some (world, reclaimPg rc)
  serve := servePg rc
  lingers _ := false
  change := changePg rc

-- A status that lists the role beside its absent entry was written from an absent one.
def pgFresh (world : PgWorld) : Fleet.Event pgApi Unit PgChange → Bool
  | .serve _ .getClaim => !world.claim.any claimIsLive
  | .serve _ .getCluster => world.cluster.any fun cluster =>
    !(decide (roleEntryEnsure cluster.roles rc.roleName = some "absent") && roleIsDropped cluster.reconciled rc.roleName) ||
      decide (roleEntryEnsure world.seen rc.roleName = some "absent")
  | _ => true

abbrev PgState := Fleet.State pgApi PgError (Option Nat) PgWorld Unit Unit

abbrev PgAction := Fleet.Action Unit Unit PgFate PgChange

def PgAction.foreign : PgAction → Bool
  | .change _ => true
  | _ => false

-- The entry goes once the drop is confirmed, then the snapshot; other roles' stay.
structure PgPhased (permits : PgWorld → Fleet.Event pgApi Unit PgChange → Bool) : Prop where
  merge : ∀ existing entry, otherRoles entry.name (mergeRole existing entry) = otherRoles entry.name existing
  remove : ∀ existing role, otherRoles (some role) (removeRole existing role) = otherRoles (some role) existing
  confirmed : ∀ state : PgState, ((pgFleet rc).solo permits true).Reachable state →
    (state.world.pruned = true → state.world.confirmed = true) ∧
      (state.world.retained = false → state.world.pruned = true ∧ state.world.confirmed = true)
  untouched : ∀ (before after : PgState) (action : PgAction), ((pgFleet rc).solo permits true).Reachable before →
    ((pgFleet rc).solo permits true).step before action = some after → action.foreign = false →
      after.world.cluster.map (fun cluster => otherRoles (some rc.roleName) cluster.roles) =
        before.world.cluster.map fun cluster => otherRoles (some rc.roleName) cluster.roles

structure PgSafe (world : PgWorld) : Prop where
  pruned : world.pruned = true → world.confirmed = true
  deleted : world.retained = false → world.pruned = true
  reported : ∀ cluster, world.cluster = some cluster → confirmsDrop rc cluster.reconciled world.seen = true → world.confirmed = true

variable {before after world : PgWorld}

theorem pg_change_cases (changed : (pgFleet rc).Changes (pgFresh rc) before after) : ∃ cluster, before.cluster = some cluster ∧
      ((∃ roles, hasRole roles rc.roleName = hasRole cluster.roles rc.roleName ∧
        after = { before with cluster := some { cluster with version := cluster.version + 1, roles := roles } }) ∨
      after = { before with observed := cluster.roles } ∨
      ∃ reconciled, after = { before with
        cluster := some { cluster with version := cluster.version + 1, reconciled := reconciled }
        seen := before.observed
        confirmed := before.confirmed || confirmsDrop rc reconciled before.observed }) := by
  obtain ⟨change, -, moved⟩ := changed
  obtain ⟨cluster, there, moved⟩ := bind_eq_some_iff.mp moved
  refine ⟨cluster, there, ?_⟩
  cases change with
  | edit roles =>
    dsimp only at moved
    split at moved
    · rename_i same
      cases moved
      exact .inl ⟨roles, by rw [has_role_filter, has_role_filter, same], rfl⟩
    · cases moved
  | observe =>
    cases moved
    exact .inr (.inl rfl)
  | report reconciled =>
    cases moved
    exact .inr (.inr ⟨reconciled, rfl⟩)

theorem confirmed_stable (confirmed : before.confirmed = true)
    (changed : (pgFleet rc).Changes (pgFresh rc) before after) : after.confirmed = true := by
  obtain ⟨cluster, -, ⟨roles, -, rfl⟩ | rfl | ⟨reconciled, rfl⟩⟩ := pg_change_cases rc changed
  · exact confirmed
  · exact confirmed
  · simp [confirmed]

theorem pg_safe_stable (before after : PgWorld) (safe : PgSafe rc before)
    (changed : (pgFleet rc).Changes (pgFresh rc) before after) : PgSafe rc after := by
  have kept := fun confirmed => confirmed_stable rc confirmed changed
  obtain ⟨cluster, there, ⟨roles, -, rfl⟩ | rfl | ⟨reconciled, rfl⟩⟩ := pg_change_cases rc changed
  · constructor
    · exact safe.pruned
    · exact safe.deleted
    · intro later same confirms
      cases same
      exact safe.reported cluster there confirms
  · exact { safe with }
  · constructor
    · intro pruned
      exact kept (safe.pruned pruned)
    · exact safe.deleted
    · intro later same confirms
      cases same
      simp [confirms]

-- An update that lands leaves the entries of the other roles as they are.
def pgCheck : Unit → PgWorld → PgRequest → Prop
  | _, world, .replaceRoles version roles => ∀ cluster, world.cluster = some cluster → cluster.version = version →
      otherRoles (some rc.roleName) roles = otherRoles (some rc.roleName) cluster.roles
  | _, _, _ => True

def PgGuards (prog : PgProg) (world : PgWorld) : Prop :=
  (pgFleet rc).Guards (pgFresh rc) (PgSafe rc) (PgSafe rc) (pgCheck rc) () prog world

structure PgFacts (facts : PgWorld → Prop) : Prop where
  safe : ∀ world, facts world → PgSafe rc world
  stable : ∀ before after, facts before → (pgFleet rc).Changes (pgFresh rc) before after → facts after

theorem pg_guards_call (facts : PgWorld → Prop) (relied : PgFacts rc facts) (request : PgRequest)
    {next : pgApi.Response request → PgProg} (world : PgWorld) (holds : facts world)
    (checked : ∀ later, facts later → pgCheck rc () later request)
    (rest : ∀ later, facts later → pgFresh rc later (.serve () request) = true →
      ∀ fate, PgGuards rc (next (servePg rc later fate request).1) (servePg rc later fate request).2) :
    PgGuards rc (.call request next) world := by
  apply (pgFleet rc).guards_facts (pgFresh rc) (PgSafe rc) (PgSafe rc) _ facts relied.safe relied.stable () request next world holds
  intro later now permit
  exact ⟨checked later now, rest later now permit⟩

theorem pg_attempt_guards {facts : PgWorld → Prop} (relied : PgFacts rc facts) (request : PgRequest)
    (ok : pgApi.Response request → Bool) {next : PgProg} (world : PgWorld) (holds : facts world)
    (checked : ∀ later, facts later → pgCheck rc () later request)
    (kept : ∀ later fate, facts later → pgFresh rc later (.serve () request) = true → facts (servePg rc later fate request).2)
    (rest : ∀ later, facts later → PgGuards rc next later) : PgGuards rc (pgAttempt request ok next) world := by
  apply pg_guards_call rc facts relied _ world holds checked
  intro later now permit fate
  have after := kept later fate now permit
  by_cases went : ok (servePg rc later fate request).1 = true
  · rw [if_pos went]
    exact rest _ after
  · rw [if_neg went]
    exact relied.safe _ after

def ReadOf (current : PgCluster) (world : PgWorld) : Prop :=
  ∃ cluster, world.cluster = some cluster ∧ current.version ≤ cluster.version ∧
    (cluster.version = current.version → cluster.roles = current.roles)

theorem read_stable {current : PgCluster} (read : ReadOf current before)
    (changed : (pgFleet rc).Changes (pgFresh rc) before after) : ReadOf current after := by
  obtain ⟨cluster, there, bounded, same⟩ := read
  obtain ⟨found, again, ⟨roles, -, rfl⟩ | rfl | ⟨reconciled, rfl⟩⟩ := pg_change_cases rc changed
  · obtain rfl := some.inj (there.symm.trans again)
    exact ⟨_, rfl, Nat.le_succ_of_le bounded, fun unchanged => absurd unchanged (by simp only; omega)⟩
  · exact ⟨cluster, there, bounded, same⟩
  · obtain rfl := some.inj (there.symm.trans again)
    exact ⟨_, rfl, Nat.le_succ_of_le bounded, fun unchanged => absurd unchanged (by simp only; omega)⟩

variable (version : Nat) (roles : List RoleEntry)

theorem replaced_present (there : world.cluster ≠ none) : (replacedRoles rc world version roles).1 ≠ .missing := by
  unfold replacedRoles
  cases found : world.cluster with
  | none => exact absurd found there
  | some cluster =>
    dsimp only
    split
    · exact PgPut.noConfusion
    · exact PgPut.noConfusion

section Update

variable (facts : PgWorld → Prop) (relied : PgFacts rc facts) (next : Bool → PgProg)

include relied

-- The PUT keeps the other roles' entries and is for the version they were made from.
theorem replace_guards {current : PgCluster} {roles : List RoleEntry} {retry : PgProg}
    (keeps : otherRoles (some rc.roleName) roles = otherRoles (some rc.roleName) current.roles)
    (lands : ∀ world version, facts world → facts (replacedRoles rc world version roles).2)
    (rest : ∀ world version, facts world → (replacedRoles rc world version roles).1 = .replaced →
      PgGuards rc (next true) (replacedRoles rc world version roles).2)
    (again : ∀ world, facts world → PgGuards rc retry world)
    {world : PgWorld} (holds : facts world) (read : ReadOf current world) :
    PgGuards rc (.call (.replaceRoles current.version roles) (afterReplace next retry)) world := by
  have both : PgFacts rc fun world => facts world ∧ ReadOf current world :=
    { safe := fun world known => relied.safe world known.1
      stable := fun before after known changed =>
        ⟨relied.stable before after known.1 changed, read_stable rc known.2 changed⟩ }
  apply pg_guards_call rc _ both (.replaceRoles current.version roles) world ⟨holds, read⟩
  · rintro later ⟨-, cluster, held, -, unchanged⟩ found there same
    obtain rfl := some.inj (held.symm.trans there)
    rw [unchanged same]
    exact keeps
  · intro later known permit fate
    have landed := lands later current.version known.1
    cases failed : fate.fails with
    | true =>
      simp only [servePg, failed]
      cases fate.applied with
      | true => exact relied.safe _ landed
      | false => exact relied.safe _ known.1
    | false =>
      have served : servePg rc later fate (.replaceRoles current.version roles) = replacedRoles rc later current.version roles := by
        simp only [servePg, failed]
        rfl
      rw [served]
      obtain ⟨cluster, there, -⟩ := known.2
      have present := replaced_present rc current.version roles (there ▸ some_ne_none cluster)
      cases answer : (replacedRoles rc later current.version roles).1 with
      | replaced => exact rest later current.version known.1 answer
      | conflict => exact again _ landed
      | missing => exact absurd answer present
      | failed => exact relied.safe _ landed

theorem rmw_guards (transform : List RoleEntry → List RoleEntry)
    (keeps : ∀ roles, otherRoles (some rc.roleName) (transform roles) = otherRoles (some rc.roleName) roles)
    (lands : ∀ world version roles, facts world → facts (replacedRoles rc world version (transform roles)).2)
    (rest : ∀ world version roles, facts world → (replacedRoles rc world version (transform roles)).1 = .replaced →
      PgGuards rc (next true) (replacedRoles rc world version (transform roles)).2)
    (gone : ∀ world, facts world → world.cluster = none → PgGuards rc (next false) world)
    (tries : Nat) (world : PgWorld) (holds : facts world) : PgGuards rc (rmwManagedRoles transform next tries) world := by
  induction tries generalizing world with
  | zero => exact relied.safe world holds
  | succ left ih =>
    apply pg_guards_call rc facts relied .getForUpdate world holds (fun _ _ => trivial)
    intro later now permit fate
    cases failed : fate.fails with
    | true =>
      simp only [servePg, failed]
      exact relied.safe later now
    | false =>
      simp only [servePg, failed]
      cases there : later.cluster with
      | none => exact gone later now there
      | some current =>
        exact replace_guards rc facts relied next (keeps current.roles)
          (fun world version known => lands world version current.roles known)
          (fun world version known landed => rest world version current.roles known landed) ih now
          ⟨current, there, Nat.le_refl _, fun _ => rfl⟩

end Update

theorem replaced_safe (world : PgWorld) (version : Nat) (roles : List RoleEntry) (safe : PgSafe rc world)
    (kept : hasRole roles rc.roleName = true ∨ world.confirmed = true) : PgSafe rc (replacedRoles rc world version roles).2 := by
  cases there : world.cluster with
  | none =>
    simp only [replacedRoles, there]
    exact safe
  | some cluster =>
    by_cases same : cluster.version = version
    · simp only [replacedRoles, there, if_pos same]
      constructor
      · intro pruned
        rcases kept with present | confirmed
        · apply safe.pruned
          simpa [present] using pruned
        · exact confirmed
      · intro deleted
        simp [safe.deleted deleted]
      · intro later found confirms
        cases found
        exact safe.reported cluster there confirms
    · simp only [replacedRoles, there, if_neg same]
      exact safe

theorem replaced_confirmed (confirmed : world.confirmed = true) : (replacedRoles rc world version roles).2.confirmed = true := by
  cases there : world.cluster with
  | none =>
    simp only [replacedRoles, there]
    exact confirmed
  | some cluster =>
    by_cases same : cluster.version = version
    · simp only [replacedRoles, there, if_pos same]
      exact confirmed
    · simp only [replacedRoles, there, if_neg same]
      exact confirmed

def PgPresent (world : PgWorld) : Prop := PgSafe rc world ∧ world.cluster ≠ none

theorem pg_present_facts : PgFacts rc (PgPresent rc) where
  safe _ known := known.1
  stable before after known changed := by
    refine ⟨pg_safe_stable rc _ after known.1 changed, ?_⟩
    obtain ⟨cluster, there, ⟨roles, -, rfl⟩ | rfl | ⟨reconciled, rfl⟩⟩ := pg_change_cases rc changed
    · exact some_ne_none _
    · exact known.2
    · exact some_ne_none _

theorem replaced_keeps_cluster (there : world.cluster ≠ none) : (replacedRoles rc world version roles).2.cluster ≠ none := by
  unfold replacedRoles
  cases found : world.cluster with
  | none => exact absurd found there
  | some cluster =>
    dsimp only
    split
    · exact some_ne_none _
    · rw [found]
      exact some_ne_none _

theorem set_role_absent_guards (known : PgPresent rc world) : PgGuards rc (setRoleAbsent rc) world := by
  have lands (world : PgWorld) (version : Nat) (roles : List RoleEntry) (known : PgPresent rc world) :
      PgPresent rc (replacedRoles rc world version (roleAbsentUpsert roles rc.roleName)).2 :=
    ⟨replaced_safe rc world version _ known.1 (.inl (absent_upsert_has roles rc.roleName)),
      replaced_keeps_cluster rc version _ known.2⟩
  apply rmw_guards rc _ (pg_present_facts rc) _ _ _ lands _ _ roleRmwRetries world known
  · intro roles
    exact merge_role_others roles (managedRoleEntryAbsent rc.roleName)
  · intro world version roles known landed
    exact (lands world version roles known).1
  · intro world known gone
    exact absurd gone known.2

-- The drop is confirmed; the entry is still there, or it has been taken out before.
structure PgConfirmed (world : PgWorld) : Prop where
  safe : PgSafe rc world
  confirmed : world.confirmed = true
  entry : ∃ cluster, world.cluster = some cluster ∧ (hasRole cluster.roles rc.roleName = true ∨ world.pruned = true)

theorem pg_confirmed_facts : PgFacts rc (PgConfirmed rc) where
  safe _ known := known.safe
  stable before after known changed := by
    refine ⟨pg_safe_stable rc _ after known.safe changed, confirmed_stable rc known.confirmed changed, ?_⟩
    obtain ⟨cluster, there, entry⟩ := known.entry
    obtain ⟨found, again, ⟨roles, same, rfl⟩ | rfl | ⟨reconciled, rfl⟩⟩ := pg_change_cases rc changed
    · obtain rfl := some.inj (there.symm.trans again)
      exact ⟨_, rfl, entry.imp_left same.trans⟩
    · exact ⟨cluster, there, entry⟩
    · obtain rfl := some.inj (there.symm.trans again)
      exact ⟨_, rfl, entry⟩

def PgPruned (world : PgWorld) : Prop := PgSafe rc world ∧ world.pruned = true

theorem pg_pruned_facts : PgFacts rc (PgPruned rc) where
  safe _ known := known.1
  stable before after known changed := by
    refine ⟨pg_safe_stable rc _ after known.1 changed, ?_⟩
    obtain ⟨cluster, -, ⟨roles, -, rfl⟩ | rfl | ⟨reconciled, rfl⟩⟩ := pg_change_cases rc changed
    · exact known.2
    · exact known.2
    · exact known.2

theorem removal_lands (known : PgConfirmed rc world) :
    PgConfirmed rc (replacedRoles rc world version (removeRole roles rc.roleName)).2 ∧
      ((replacedRoles rc world version (removeRole roles rc.roleName)).1 = .replaced →
        (replacedRoles rc world version (removeRole roles rc.roleName)).2.pruned = true) := by
  have safe := replaced_safe rc world version (removeRole roles rc.roleName) known.safe (.inr known.confirmed)
  obtain ⟨cluster, there, entry⟩ := known.entry
  by_cases same : cluster.version = version
  · have pruned : (replacedRoles rc world version (removeRole roles rc.roleName)).2.pruned = true := by
      simp only [replacedRoles, there, if_pos same, remove_role_gone]
      rcases entry with present | pruned
      · simp [present]
      · simp [pruned]
    refine ⟨⟨safe, replaced_confirmed rc version _ known.confirmed, ?_⟩, fun _ => pruned⟩
    cases found : (replacedRoles rc world version (removeRole roles rc.roleName)).2.cluster with
    | none => exact absurd found (replaced_keeps_cluster rc version _ (there ▸ some_ne_none cluster))
    | some later => exact ⟨later, rfl, .inr pruned⟩
  · have refused : replacedRoles rc world version (removeRole roles rc.roleName) = (.conflict, world) := by
      simp only [replacedRoles, there, if_neg same]
    rw [refused]
    exact ⟨known, PgPut.noConfusion⟩

theorem deleted_pruned (fate : PgFate) (known : PgPruned rc world) :
    PgPruned rc (servePg rc world fate .deleteRetainedClaim).2 := by
  change PgPruned rc (if !fate.fails || fate.applied then { world with retained := false } else world)
  split
  · exact ⟨⟨known.1.pruned, fun _ => known.2, known.1.reported⟩, known.2⟩
  · exact known

theorem finalize_drop_guards (known : PgConfirmed rc world) : PgGuards rc (finalizeDrop rc) world := by
  apply rmw_guards rc _ (pg_confirmed_facts rc) _ _ _ _ _ _ roleRmwRetries world known
  · intro roles
    exact remove_role_others roles rc.roleName
  · intro world version roles known
    exact (removal_lands rc version roles known).1
  · intro world version roles known landed
    obtain ⟨confirmed, pruned⟩ := removal_lands rc version roles known
    apply pg_attempt_guards rc (pg_pruned_facts rc) .deletePasswordSecret id _ ⟨confirmed.safe, pruned landed⟩ (fun _ _ => trivial)
    · intro later fate known permit
      exact known
    · intro later known
      apply pg_attempt_guards rc (pg_pruned_facts rc) .deleteRetainedClaim id later known (fun _ _ => trivial)
      · intro later fate known permit
        exact deleted_pruned rc fate known
      · intro later known
        exact known.1
  · intro world known gone
    obtain ⟨cluster, there, -⟩ := known.entry
    rw [gone] at there
    cases there

-- The status was written from an entry that is absent already.
theorem drop_role_guards {cluster : PgCluster} (there : world.cluster = some cluster) (safe : PgSafe rc world)
    (fresh : roleEntryEnsure cluster.roles rc.roleName = some "absent" → roleIsDropped cluster.reconciled rc.roleName = true →
      roleEntryEnsure world.seen rc.roleName = some "absent") : PgGuards rc (dropRole rc cluster) world := by
  by_cases absent : roleEntryEnsure cluster.roles rc.roleName = some "absent"
  · by_cases dropped : roleIsDropped cluster.reconciled rc.roleName = true
    · rw [dropRole, if_neg (not_not_intro absent), if_pos dropped]
      have confirms : confirmsDrop rc cluster.reconciled world.seen = true := by
        simp [confirmsDrop, dropped, fresh absent dropped]
      exact finalize_drop_guards rc ⟨safe, safe.reported cluster there confirms, cluster, there, .inl (has_role_of_ensure absent)⟩
    · rw [dropRole, if_neg (not_not_intro absent), if_neg dropped]
      exact safe
  · rw [dropRole, if_pos absent]
    exact set_role_absent_guards rc ⟨safe, there ▸ some_ne_none cluster⟩

theorem pg_safe_facts : PgFacts rc (PgSafe rc) where
  safe _ safe := safe
  stable := pg_safe_stable rc

theorem reclaim_database_guards (safe : PgSafe rc world) : PgGuards rc (reclaimDatabase rc) world := by
  apply pg_attempt_guards rc (pg_safe_facts rc) .databaseAbsent id world safe (fun _ _ => trivial)
  · intro later fate safe permit
    exact safe
  · intro later safe
    apply pg_guards_call rc _ (pg_safe_facts rc) .getCluster later safe (fun _ _ => trivial)
    intro world safe permit fate
    obtain ⟨cluster, there, fresh⟩ := (any_eq_true _ _).mp permit
    cases failed : fate.fails with
    | true =>
      simp only [servePg, failed]
      exact safe
    | false =>
      simp only [servePg, failed, there]
      apply drop_role_guards rc there safe
      intro absent dropped
      simpa [absent, dropped] using fresh

theorem reclaim_pg_guards (safe : PgSafe rc world) : PgGuards rc (reclaimPg rc) world := by
  apply pg_guards_call rc _ (pg_safe_facts rc) .getClaim world safe (fun _ _ => trivial)
  intro later safe permit fate
  have gone : later.claim.any claimIsLive = false := by simpa [pgFresh] using permit
  cases failed : fate.fails with
  | true =>
    simp only [servePg, failed]
    exact safe
  | false =>
    simp only [servePg, failed]
    change PgGuards rc (if later.claim.any claimIsLive then _ else _) _
    rw [gone]
    exact reclaim_database_guards rc safe

theorem pg_sound : (pgFleet rc).Sound (pgFresh rc) true (PgSafe rc) (PgSafe rc) (pgCheck rc) where
  initially := by
    rintro world ⟨retained, kept, told⟩
    constructor
    · intro pruned
      rw [kept] at pruned
      cases pruned
    · intro deleted
      rw [retained] at deleted
      cases deleted
    · intro cluster there confirms
      rw [told, there]
      exact confirms
  inv_safe := fun _ inv => inv
  cut := fun _ _ safe => safe
  inv_stable := pg_safe_stable rc
  safe_stable := pg_safe_stable rc
  begins := by
    intro before job after prog inv permit begun
    cases begun
    exact reclaim_pg_guards rc inv

def PgWorld.others (world : PgWorld) : Option (List RoleEntry) :=
  world.cluster.map fun cluster => otherRoles (some rc.roleName) cluster.roles

theorem replaced_others {version : Nat} {roles : List RoleEntry} (checked : pgCheck rc () world (.replaceRoles version roles)) :
    (replacedRoles rc world version roles).2.others rc = world.others rc := by
  cases there : world.cluster with
  | none => simp only [replacedRoles, there]
  | some cluster =>
    by_cases same : cluster.version = version
    · have kept := checked cluster there same
      simp only [replacedRoles, there, if_pos same, PgWorld.others, map_some, kept]
    · simp only [replacedRoles, there, if_neg same]

theorem served_others (fate : PgFate) {request : PgRequest} (checked : pgCheck rc () world request) :
    (servePg rc world fate request).2.others rc = world.others rc := by
  cases request with
  | getClaim => rfl
  | databaseAbsent => rfl
  | getCluster => rfl
  | getForUpdate => rfl
  | replaceRoles version roles =>
    have kept := replaced_others rc checked
    cases failed : fate.fails with
    | false =>
      simp only [servePg, failed]
      exact kept
    | true =>
      simp only [servePg, failed]
      cases fate.applied with
      | true => exact kept
      | false => rfl
  | deletePasswordSecret => rfl
  | deleteRetainedClaim =>
    simp only [servePg]
    split
    · rfl
    · rfl

theorem pg_untouched (before after : PgState) (action : PgAction) (reachable : ((pgFleet rc).solo (pgFresh rc) true).Reachable before)
    (taken : ((pgFleet rc).solo (pgFresh rc) true).step before action = some after) (ours : action.foreign = false) :
    after.world.others rc = before.world.others rc := by
  have moved : (pgFleet rc).step before action = some after := ((pgFleet rc).system.restrict_step _ before after action taken).2
  have none := (Fleet.solo_reachable (pg_sound rc) reachable).1
  obtain ⟨change, happens, -⟩ | ⟨job, prog, -, begun⟩ | ⟨key, fate, pass, request, next, happens, -, -, served⟩ |
    ⟨index, fate, job, request, -, late, -⟩ | ⟨-, same⟩ := (pgFleet rc).step_world before after action moved
  · cases action with
    | change change => cases ours
    | begin job => cases happens
    | reply key fate =>
      obtain ⟨pass, -, asked⟩ := bind_eq_some_iff.mp happens
      obtain ⟨wanted, -, other⟩ := map_eq_some_iff.mp asked
      cases other
    | drop key => cases happens
    | leave key => cases happens
    | commit index fate =>
      obtain ⟨left, -, other⟩ := map_eq_some_iff.mp happens
      cases other
  · have same : before.world = after.world := congrArg Prod.fst (some.inj begun)
    rw [same]
  · have checked := Fleet.solo_checked (pg_sound rc) reachable taken happens
    rw [served]
    exact served_others rc fate checked
  · rw [none] at late
    cases late
  · rw [same]

theorem pg_phased : PgPhased rc (pgFresh rc) where
  merge := merge_role_others
  remove := remove_role_others
  confirmed state reachable := by
    have safe : PgSafe rc state.world := Fleet.solo_safe (pg_sound rc) reachable
    exact ⟨safe.pruned, fun deleted => ⟨safe.deleted deleted, safe.pruned (safe.deleted deleted)⟩⟩
  untouched := pg_untouched rc

end World

def leakRole : PgRetained := { role := some "shop_orders" }

def leakEntries : List RoleEntry :=
  [{ name := some "shop_orders", ensure := some "present" }, { name := some "shop_cart", ensure := some "present" }]

def leakWorld : PgWorld :=
  { cluster := some { version := 7, roles := leakEntries, reconciled := ["shop_orders", "shop_cart"] }
    observed := leakEntries
    seen := leakEntries }

def pgServed (times : Nat) : List PgAction := List.replicate times (.reply () {})

def declaringPass : List PgAction := .begin () :: pgServed 5 ++ [.drop ()]

def pruningPass : List PgAction := .begin () :: pgServed 7

-- Confirmed between the two passes, the drop goes through.
theorem orders_dropped : ∃ state, ((pgFleet leakRole).solo (pgFresh leakRole) true).Reachable state ∧
    state.world.pruned = true ∧ state.world.retained = false ∧ state.world.confirmed = true := by
  have finished : (((pgFleet leakRole).solo (pgFresh leakRole) true).run (Fleet.start leakWorld)
      (declaringPass ++ [.change .observe, .change (.report ["shop_orders", "shop_cart"])] ++ pruningPass)).map
        (fun state => (state.world.pruned, state.world.retained)) = some (true, false) := by
    decide +kernel
  obtain ⟨state, reachable, facts⟩ := System.run_shows _ finished ⟨_, ⟨rfl, rfl, rfl⟩, rfl⟩
  obtain ⟨pruned, gone⟩ := Prod.mk.inj facts
  exact ⟨state, reachable, pruned, gone, ((pg_phased leakRole).confirmed state reachable).1 pruned⟩

-- The status still lists the role: CNPG has not looked at the absent entry.
theorem orders_leaked : ¬PgPhased leakRole (fun _ _ => true) := by
  intro phased
  have finished : (((pgFleet leakRole).solo (fun _ _ => true) true).run (Fleet.start leakWorld)
      (declaringPass ++ pruningPass)).map
        (fun state => (state.world.pruned, state.world.confirmed)) = some (true, false) := by
    decide +kernel
  obtain ⟨state, reachable, facts⟩ := System.run_shows _ finished ⟨_, ⟨rfl, rfl, rfl⟩, rfl⟩
  obtain ⟨pruned, unconfirmed⟩ := Prod.mk.inj facts
  have confirmed := (phased.confirmed state reachable).1 pruned
  rw [unconfirmed] at confirmed
  cases confirmed

end AppRafter.Provisioner
