import AppRafter.Provisioner.Acl

set_option autoImplicit false

namespace AppRafter.Provisioner

open Lib Application List Option

def consumerRole (key : ClaimKey) : String := pgIdentifier key

def boundDatabase (sd : SharedDatabase) : Option String :=
  sd.status.bind fun status => if status.ready = some true then status.database else none

-- `refused` is the index of the statement the server refuses.
structure BindPgReads where
  provider : Option ServiceProvider
  databaseRead : Bool := true
  secretRead : Bool := true
  generated : String
  platformPw : Option String
  refused : Option Nat := none
  secretWrite : Bool := true
  statusWrite : Bool := true

structure Consumer where
  claim : ResourceClaim
  secret : Option (Option String) := none
  server : Server

variable (consumer : Consumer)

def Consumer.patchStatus (written : Bool) (cond : Condition) (connSecretName : Option String) : Consumer :=
  if written then
    { consumer with claim := { consumer.claim with status := some (statusApplied consumer.claim.status cond connSecretName none) } }
  else consumer

def Consumer.wait (reads : BindPgReads) : Consumer :=
  consumer.patchStatus reads.statusWrite (readyCondition "False" reasonAwaitingSharedDatabase) none

def bindPgConsumer (databases : ClaimKey → Option SharedDatabase) (reads : BindPgReads) (consumer : Consumer) : Consumer :=
  match consumer.claim.spec.sharedRef with
  | none => consumer
  | some shared =>
    if reads.databaseRead = false then consumer
    else
      match databases ⟨consumer.claim.key.ns, shared⟩ with
      | none => consumer.wait reads
      | some sd =>
        match boundDatabase sd with
        | none => consumer.wait reads
        | some database =>
          if reads.secretRead = false ∨ reads.platformPw = none then consumer
          else
            let password := (consumer.secret.bind id).getD reads.generated
            let statements := bindConsumer ⟨consumer.claim.key.ns, shared⟩ (consumerRole consumer.claim.key) database
              password (Access.fromSpec consumer.claim.spec.access)
            let ran := { consumer with server := consumer.server.executeAll statements reads.refused }
            match reads.refused with
            | some _ => ran.wait reads
            | none =>
              if reads.secretWrite then
                { ran with secret := some (some password) }.patchStatus reads.statusWrite
                  (readyCondition "True" "Provisioned") (some (connectionSecretName consumer.claim.key))
              else ran

-- The gate, and the branch of a claim that binds a database it does not own.
def reconcileConsumer (databases : ClaimKey → Option SharedDatabase) (consumer : Consumer) (reads : BindPgReads) : Consumer :=
  if shouldProvision consumer.claim.status then
    match reads.provider with
    | none => consumer
    | some provider =>
      match Backend.fromSpecBackend provider.backend with
      | some .cloudnativepg => bindPgConsumer databases reads consumer
      | _ => consumer
  else consumer

-- The databases as they are while a spec of the claim stands, and the passes under it.
structure Phase where
  sharedRef : String
  access : Option String
  databases : ClaimKey → Option SharedDatabase
  passes : List BindPgReads

def Consumer.edited (phase : Phase) : Consumer :=
  { consumer with
    claim := { consumer.claim with
      spec := { consumer.claim.spec with sharedRef := some phase.sharedRef, access := phase.access } } }

def Phase.run (phase : Phase) : Consumer :=
  phase.passes.foldl (reconcileConsumer phase.databases) (consumer.edited phase)

def Phase.target (ns : String) (phase : Phase) : Option String := (phase.databases ⟨ns, phase.sharedRef⟩).bind boundDatabase

-- Each phase goes on until the claim is ready or there is no database to bind.
def settles : Consumer → List Phase → Prop
  | _, [] => True
  | consumer, phase :: rest =>
    (shouldProvision (phase.run consumer).claim.status = false ∨ phase.target consumer.claim.key.ns = none) ∧
      settles (phase.run consumer) rest

-- The password has no part in what is compared.
def freshBind (start : Consumer) (phase : Phase) : Server :=
  match phase.target start.claim.key.ns with
  | none => start.server
  | some database =>
    start.server.executeAll
      (bindConsumer ⟨start.claim.key.ns, phase.sharedRef⟩ (consumerRole start.claim.key) database "" (Access.fromSpec phase.access))
      none

structure Unbound (consumer : Consumer) : Prop where
  scheduled : shouldProvision consumer.claim.status = true
  memberless : ∀ group, consumer.server.member group (serverName (consumerRole consumer.claim.key)) = false
  unset : ∀ database, consumer.server.setting (serverName (consumerRole consumer.claim.key)) database = none

-- The role has what a bind of the last spec alone would have given it.
structure HistoryFree (start ended : Consumer) (last : Phase) : Prop where
  member : ∀ group, ended.server.member group (serverName (consumerRole start.claim.key)) =
    (freshBind start last).member group (serverName (consumerRole start.claim.key))
  setting : ∀ database, ended.server.setting (serverName (consumerRole start.claim.key)) database =
    (freshBind start last).setting (serverName (consumerRole start.claim.key)) database
  writers : Access.fromSpec last.access = .readOnly →
    ∀ database, ended.server.setting (serverName (consumerRole start.claim.key)) database = none

-- The group a bind puts the role in, and the SET ROLE of a writer.
@[ext]
structure Privilege where
  group : String
  setRole : Option (String × String)

def privilegeOf (key : ClaimKey) (database : String) (access : Access) : Privilege :=
  match access with
  | .readWrite =>
    { group := serverName (sharedGroup key), setRole := some (serverName database, serverName (sharedGroup key)) }
  | .readOnly => { group := serverName (sharedReaderGroup key), setRole := none }

def Phase.privilege (ns : String) (phase : Phase) : Option Privilege :=
  (phase.target ns).map fun database => privilegeOf ⟨ns, phase.sharedRef⟩ database (Access.fromSpec phase.access)

def firstPrivilege (ns : String) (phases : List Phase) : Option Privilege := (phases.filterMap (Phase.privilege ns)).head?

structure Within (role : String) (privilege : Option Privilege) (server : Server) : Prop where
  member : ∀ group, server.member group role = true → privilege.map (·.group) = some group
  setting : ∀ database target, server.setting role database = some target → privilege.bind (·.setRole) = some (database, target)

structure Holds (role : String) (privilege : Option Privilege) (server : Server) : Prop where
  member : ∀ group, server.member group role = true ↔ privilege.map (·.group) = some group
  setting : ∀ database target, server.setting role database = some target ↔ privilege.bind (·.setRole) = some (database, target)

variable {key : ClaimKey} {consumer start : Consumer} {database role : String} {access : Access} {server : Server} {phase : Phase}

theorem Within.exec_bind {consumer password : String}
    (within : Within (serverName consumer) (some (privilegeOf key database access)) server) (statement : Statement)
    (listed : statement ∈ bindConsumer key consumer database password access) :
    Within (serverName consumer) (some (privilegeOf key database access)) (server.exec statement) := by
  have granted : ∀ group, serverName group = (privilegeOf key database access).group →
      Within (serverName consumer) (some (privilegeOf key database access)) (server.exec (.grant group consumer)) := by
    intro group same
    refine ⟨?_, within.setting⟩
    intro other member
    rcases Bool.or_eq_true_iff.mp member with fresh | before
    · simp only [Bool.and_eq_true, beq_iff_eq] at fresh
      rw [fresh.1, map_some, same]
    · exact within.member other before
  cases access with
  | readOnly =>
    simp only [bindConsumer, reduceCtorEq, if_false, append_nil, mem_cons, not_mem_nil, or_false] at listed
    rcases listed with rfl | rfl | rfl
    · exact ⟨within.member, within.setting⟩
    · exact granted _ rfl
    · exact ⟨within.member, within.setting⟩
  | readWrite =>
    simp only [bindConsumer, if_true, mem_append, mem_cons, not_mem_nil, or_false] at listed
    rcases listed with (rfl | rfl | rfl) | rfl
    · exact ⟨within.member, within.setting⟩
    · exact granted _ rfl
    · exact ⟨within.member, within.setting⟩
    · refine ⟨within.member, ?_⟩
      intro other target set
      simp only [Server.exec] at set
      split at set
      · rename_i here
        rw [here.2, ← some.inj set]
        rfl
      · exact within.setting other target set

theorem Within.exec_binds {consumer password : String} (statements : List Statement)
    (listed : ∀ statement ∈ statements, statement ∈ bindConsumer key consumer database password access) (server : Server)
    (within : Within (serverName consumer) (some (privilegeOf key database access)) server) :
    Within (serverName consumer) (some (privilegeOf key database access)) (statements.foldl Server.exec server) := by
  induction statements generalizing server with
  | nil => exact within
  | cons statement rest ih =>
    apply ih fun statement member => listed statement (mem_cons_of_mem _ member)
    exact within.exec_bind statement (listed statement mem_cons_self)

theorem Within.executed {consumer : String} (password : String)
    (refused : Option Nat) (within : Within (serverName consumer) (some (privilegeOf key database access)) server) :
    Within (serverName consumer) (some (privilegeOf key database access))
      (server.executeAll (bindConsumer key consumer database password access) refused) := by
  cases refused with
  | none => exact within.exec_binds _ (fun _ => id)
  | some index => exact within.exec_binds _ (fun _ member => mem_of_mem_take member)

theorem Within.bound {consumer : String} (password : String)
    (within : Within (serverName consumer) (some (privilegeOf key database access)) server) :
    Holds (serverName consumer) (some (privilegeOf key database access))
      (server.executeAll (bindConsumer key consumer database password access) none) := by
  have kept := within.executed password none
  refine ⟨fun group => ⟨kept.member group, ?_⟩, fun other target => ⟨kept.setting other target, ?_⟩⟩
  · intro same
    rw [← some.inj same]
    cases access <;> simp [bindConsumer, privilegeOf, Server.executeAll, Server.exec]
  · intro same
    cases access with
    | readOnly => cases same
    | readWrite =>
      simp only [privilegeOf, bind_some, some.injEq, Prod.mk.injEq] at same
      rw [← same.1, ← same.2]
      simp [bindConsumer, Server.executeAll, Server.exec]

theorem within_nothing (within : Within role none server) (privilege : Option Privilege) : Within role privilege server := by
  constructor
  · intro group member
    cases within.member group member
  · intro database target set
    cases within.setting database target set

theorem nothing_held (within : Within role none server) : Holds role none server := by
  constructor
  · intro group
    exact ⟨within.member group, nofun⟩
  · intro database target
    exact ⟨within.setting database target, nofun⟩

theorem waiting_provisions {status : Option ResourceClaimStatus} (due : shouldProvision status = true) (reason : String)
    (connSecretName : Option String) :
    shouldProvision (some (statusApplied status (readyCondition "False" reason) connSecretName none)) = true := by
  cases status with
  | none => cases due
  | some status =>
    simp only [shouldProvision] at due ⊢
    split at due
    · cases due
    · split at due
      · cases due
      · rename_i named
        have unready : (statusApplied (some status) (readyCondition "False" reason) connSecretName none).ready ≠ some true := by
          change some (("False" : String) == "True") ≠ some true
          decide
        rw [if_neg unready, statusApplied, bind_some, if_neg named, any_append, Bool.or_eq_true]
        left
        obtain ⟨cond, listed, scheduled⟩ := any_eq_true.mp due
        refine any_eq_true.mpr ⟨cond, mem_filter.mpr ⟨listed, ?_⟩, scheduled⟩
        simp only [Bool.and_eq_true, beq_iff_eq] at scheduled
        rw [scheduled.1]
        decide

theorem ready_settles (status : Option ResourceClaimStatus) (reason : String) (connSecretName : Option String) :
    shouldProvision (some (statusApplied status (readyCondition "True" reason) connSecretName none)) = false := by
  have ready : (statusApplied status (readyCondition "True" reason) connSecretName none).ready = some true := by
    change some (("True" : String) == "True") = some true
    decide
  simp only [shouldProvision]
  rw [if_pos ready]

-- Unbound with no more than the phase's privilege, or bound to just that.
inductive BindStanding (key : ClaimKey) (phase : Phase) (consumer : Consumer) : Prop where
  | due (provisions : shouldProvision consumer.claim.status = true)
      (within : Within (serverName (consumerRole key)) (phase.privilege key.ns) consumer.server)
  | bound (ready : shouldProvision consumer.claim.status = false) (privilege : Privilege)
      (granted : phase.privilege key.ns = some privilege)
      (holds : Holds (serverName (consumerRole key)) (some privilege) consumer.server)

def carries (key : ClaimKey) (phase : Phase) (consumer : Consumer) : Prop :=
  consumer.claim.key = key ∧ consumer.claim.spec.sharedRef = some phase.sharedRef ∧ consumer.claim.spec.access = phase.access

theorem patch_carries (written : Bool) (cond : Condition) (connSecretName : Option String) (same : carries key phase consumer) :
    carries key phase (consumer.patchStatus written cond connSecretName) := by
  unfold Consumer.patchStatus
  split <;> exact same

variable (reads : BindPgReads)

theorem wait_stands (provisions : shouldProvision consumer.claim.status = true)
    (within : Within (serverName (consumerRole key)) (phase.privilege key.ns) consumer.server) :
    BindStanding key phase (consumer.wait reads) := by
  unfold Consumer.wait Consumer.patchStatus
  split
  · exact .due (waiting_provisions provisions _ _) within
  · exact .due provisions within

theorem bind_stands (same : carries key phase consumer) (provisions : shouldProvision consumer.claim.status = true)
    (within : Within (serverName (consumerRole key)) (phase.privilege key.ns) consumer.server) :
    carries key phase (bindPgConsumer phase.databases reads consumer) ∧
      BindStanding key phase (bindPgConsumer phase.databases reads consumer) := by
  have unchanged : carries key phase consumer ∧ BindStanding key phase consumer := ⟨same, .due provisions within⟩
  unfold bindPgConsumer
  rw [same.1, same.2.1, same.2.2]
  dsimp only
  split
  · exact unchanged
  · split
    · exact ⟨patch_carries _ _ _ same, wait_stands reads provisions within⟩
    · rename_i sd found
      split
      · exact ⟨patch_carries _ _ _ same, wait_stands reads provisions within⟩
      · rename_i database target
        have granted : phase.privilege key.ns =
            some (privilegeOf ⟨key.ns, phase.sharedRef⟩ database (Access.fromSpec phase.access)) := by
          rw [Phase.privilege, Phase.target, found, bind_some, target, map_some]
        rw [granted] at within
        split
        · exact unchanged
        · have executed := within.executed ((consumer.secret.bind id).getD reads.generated) reads.refused
          rw [← granted] at executed
          split
          · exact ⟨patch_carries _ _ _ same, wait_stands reads provisions executed⟩
          · rename_i whole
            split
            · refine ⟨patch_carries _ _ _ same, ?_⟩
              unfold Consumer.patchStatus
              split
              · have holds := within.bound ((consumer.secret.bind id).getD reads.generated)
                rw [← whole] at holds
                exact .bound (ready_settles _ _ _) _ granted holds
              · exact .due provisions executed
            · exact ⟨same, .due provisions executed⟩

theorem pass_stands (same : carries key phase consumer) (standing : BindStanding key phase consumer) :
    carries key phase (reconcileConsumer phase.databases consumer reads) ∧
      BindStanding key phase (reconcileConsumer phase.databases consumer reads) := by
  cases standing with
  | bound ready privilege granted holds =>
    rw [reconcileConsumer, ready]
    exact ⟨same, .bound ready privilege granted holds⟩
  | due provisions within =>
    rw [reconcileConsumer, if_pos provisions]
    split
    · exact ⟨same, .due provisions within⟩
    · split
      · exact bind_stands reads same provisions within
      · exact ⟨same, .due provisions within⟩

theorem passes_stand (key : ClaimKey) (phase : Phase) (passes : List BindPgReads) (consumer : Consumer)
    (same : carries key phase consumer) (standing : BindStanding key phase consumer) :
    carries key phase (passes.foldl (reconcileConsumer phase.databases) consumer) ∧
      BindStanding key phase (passes.foldl (reconcileConsumer phase.databases) consumer) := by
  induction passes generalizing consumer with
  | nil => exact ⟨same, standing⟩
  | cons reads rest ih =>
    have after := pass_stands reads same standing
    exact ih _ after.1 after.2

theorem ready_passes (databases : ClaimKey → Option SharedDatabase) (passes : List BindPgReads)
    (ready : shouldProvision consumer.claim.status = false) :
    passes.foldl (reconcileConsumer databases) consumer = consumer := by
  induction passes with
  | nil => rfl
  | cons reads rest ih =>
    rw [foldl_cons, reconcileConsumer, ready]
    exact ih

theorem ready_phases (phases : List Phase) (ready : shouldProvision consumer.claim.status = false) :
    (phases.foldl Phase.run consumer).server = consumer.server := by
  induction phases generalizing consumer with
  | nil => rfl
  | cons phase rest ih =>
    have stays : phase.run consumer = consumer.edited phase := ready_passes phase.databases phase.passes ready
    rw [foldl_cons, ih, stays]
    · rfl
    · rw [stays]
      exact ready

theorem phases_hold (phases : List Phase) (consumer : Consumer) (settle : settles consumer phases)
    (provisions : shouldProvision consumer.claim.status = true)
    (none : Within (serverName (consumerRole consumer.claim.key)) none consumer.server) :
    Holds (serverName (consumerRole consumer.claim.key)) (firstPrivilege consumer.claim.key.ns phases)
      (phases.foldl Phase.run consumer).server := by
  induction phases generalizing consumer with
  | nil => exact nothing_held none
  | cons phase rest ih =>
    have after := passes_stand consumer.claim.key phase phase.passes (consumer.edited phase) ⟨rfl, rfl, rfl⟩
      (.due provisions (within_nothing none _))
    change carries consumer.claim.key phase (phase.run consumer) ∧ BindStanding consumer.claim.key phase (phase.run consumer)
      at after
    rw [foldl_cons]
    cases after.2 with
    | bound ready privilege granted holds =>
      rw [ready_phases rest ready, firstPrivilege, filterMap_cons, granted]
      exact holds
    | due still within =>
      have absent : phase.privilege consumer.claim.key.ns = Option.none := by
        rcases settle.1 with ready | absent
        · rw [still] at ready
          cases ready
        · rw [Phase.privilege, absent, map_none]
      rw [absent] at within
      have later := ih (phase.run consumer) settle.2 still (by rw [after.1.1]; exact within)
      rw [after.1.1] at later
      rw [firstPrivilege, filterMap_cons, absent]
      exact later

theorem Unbound.within_none (unbound : Unbound start) : Within (serverName (consumerRole start.claim.key)) none start.server := by
  constructor
  · intro group member
    rw [unbound.memberless group] at member
    cases member
  · intro database target set
    rw [unbound.unset database] at set
    cases set

theorem fresh_holds (unbound : Unbound start) (phase : Phase) :
    Holds (serverName (consumerRole start.claim.key)) (phase.privilege start.claim.key.ns) (freshBind start phase) := by
  have nothing := unbound.within_none
  rw [Phase.privilege, freshBind]
  cases phase.target start.claim.key.ns with
  | none => exact nothing_held nothing
  | some database => exact (within_nothing nothing _).bound ""

theorem holds_unique {p q : Option Privilege} {a b : Server} (left : Holds role p a) (right : Holds role q b)
    (members : ∀ group, a.member group role = b.member group role)
    (settings : ∀ database, a.setting role database = b.setting role database) : p = q := by
  have groups : ∀ group, p.map (·.group) = some group ↔ q.map (·.group) = some group := fun group => by
    rw [← left.member, ← right.member, members]
  have roles : ∀ set, p.bind (·.setRole) = some set ↔ q.bind (·.setRole) = some set := fun set => by
    rw [← left.setting, ← right.setting, settings]
  cases p with
  | none =>
    cases q with
    | none => rfl
    | some privilege => cases (groups privilege.group).mpr rfl
  | some privilege =>
    cases q with
    | none => cases (groups privilege.group).mp rfl
    | some other =>
      have group := some.inj ((groups privilege.group).mp rfl)
      have setRole : privilege.setRole = other.setRole := Option.ext roles
      exact congrArg some (Privilege.ext group.symm setRole)

-- The first spec that could be bound decides, for good.
theorem bind_history_iff (start : Consumer) (unbound : Unbound start) (phases : List Phase) (last : Phase)
    (settle : settles start (phases ++ [last])) :
    HistoryFree start ((phases ++ [last]).foldl Phase.run start) last ↔
      firstPrivilege start.claim.key.ns (phases ++ [last]) = last.privilege start.claim.key.ns := by
  have fresh := fresh_holds unbound last
  have ended := phases_hold (phases ++ [last]) start settle unbound.scheduled unbound.within_none
  constructor
  · intro free
    exact holds_unique ended fresh free.member free.setting
  · intro same
    rw [same] at ended
    have settings : ∀ database,
        ((phases ++ [last]).foldl Phase.run start).server.setting (serverName (consumerRole start.claim.key)) database =
          (freshBind start last).setting (serverName (consumerRole start.claim.key)) database := by
      intro database
      exact Option.ext fun target => (ended.setting database target).trans (fresh.setting database target).symm
    refine ⟨?_, settings, ?_⟩
    · intro group
      rw [Bool.eq_iff_iff, ended.member, fresh.member]
    · intro reader database
      rw [settings, eq_none_iff_forall_ne_some]
      intro target set
      have given := (fresh.setting database target).mp set
      rw [Phase.privilege, reader] at given
      cases reached : last.target start.claim.key.ns with
      | none =>
        rw [reached] at given
        cases given
      | some name =>
        rw [reached] at given
        cases given

def ordersReady : ClaimKey → Option SharedDatabase :=
  fun key =>
  some { ns := key.ns, name := key.name, spec := { type := "pg" }
         status := some { ready := some true, database := some (sharedGroup key) } }

def quietBind : BindPgReads :=
  { provider := some { ns := "apprafter-system", name := "pg-integrated", backend := "cloudnative-pg" }
    generated := "s3cret", platformPw := some "s3cret" }

def orders (access : String) : Phase :=
  { sharedRef := "orders", access := some access, databases := ordersReady, passes := [quietBind] }

def reportPg : Consumer :=
  { claim :=
      { key := ⟨"apps", "report-pg"⟩
        spec := { type := "pg", selector := defaultIntegratedSelector }
        status := some (scheduled none "pg-integrated") }
    server :=
      { role := fun _ => false, password := fun _ => none, member := fun _ _ => false, connect := fun _ _ => false
        setting := fun _ _ => none } }

theorem report_unbound : Unbound reportPg := ⟨by decide, fun _ => rfl, fun _ => rfl⟩

theorem reader_rebound : HistoryFree reportPg ([orders "ro", orders "ro"].foldl Phase.run reportPg) (orders "ro") :=
  (bind_history_iff reportPg report_unbound [orders "ro"] (orders "ro") ⟨.inl rfl, .inl rfl, trivial⟩).mpr rfl

-- A writer that was made a reader keeps the owner group and its SET ROLE.
theorem writer_narrowed :
    Unbound reportPg ∧ settles reportPg [orders "rw", orders "ro"] ∧
      ¬ HistoryFree reportPg ([orders "rw", orders "ro"].foldl Phase.run reportPg) (orders "ro") := by
  refine ⟨report_unbound, ⟨.inl rfl, .inl rfl, trivial⟩, ?_⟩
  intro free
  have unset := free.writers rfl "shd_apps_orders"
  have set : ([orders "rw", orders "ro"].foldl Phase.run reportPg).server.setting
      (serverName (consumerRole reportPg.claim.key)) "shd_apps_orders" = some "shd_apps_orders" := by decide
  rw [set] at unset
  cases unset

end AppRafter.Provisioner
