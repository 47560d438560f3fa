import AppRafter.Provisioner.SharedPasses

set_option autoImplicit false

namespace AppRafter.Provisioner

open Lib Application List Option

def recordedDatabase (sd : SharedDatabase) : Bool := (sd.status.bind (·.database)).isSome

def createsRecorded (world : SdWorld) (place : Place) : Bool :=
  decide (place = placeOf world.provider) && (world.sd.deletionTimestamp.isNone || recordedDatabase world.sd)

-- Nobody is bound while the deletion touches the data, or after.
def sdPermits (world : SdWorld) : Fleet.Event sdApi SharedDatabase SdChange → Bool
  | .change (.delete _) => world.made.isEmpty || recordedDatabase world.sd
  | .change .bind => !world.ruined
  | .change (.provider provider) => world.made.isEmpty || decide (placeOf provider = placeOf world.provider)
  | .serve _ (.pg (.execute place _)) => world.deleting || createsRecorded world place
  | .serve _ (.pg (.applyDatabase place)) => createsRecorded world place
  | .serve _ (.pg (.declareAbsent _)) => decide (world.binders = 0)
  | .serve _ (.pool (.flushdb _)) => !world.deleting || decide (world.binders = 0)
  | _ => true

structure Clean (world : SdWorld) : Prop where
  databases : ∀ ns, world.databases ns ≠ some true
  groups : world.unreadable = true ∨ ∀ place, ∀ group ∈ groupsOf world.sd.key, (world.servers place).role group = false

-- Release once all is gone, and to call the data untouched while it is.
def sdCheck (_ : SharedDatabase) (world : SdWorld) : SdRequest → Prop
  | .pool (.sharedFinalizers _ keep) => keep = false → Clean world
  | .pool (.sharedStatus _ status) => (∃ cond ∈ status.conditions, cond.reason = some reasonInUse) → world.ruined = false
  | _ => True

structure SdInv (world : SdWorld) : Prop where
  databases : ∀ ns, world.databases ns = some true → ∃ place ∈ world.made, place.ns = ns
  groups : ∀ place, ∀ group ∈ groupsOf world.sd.key, (world.servers place).role group = true → place ∈ world.made
  placed : ∀ place ∈ world.made, place = placeOf world.provider
  recorded : world.made ≠ [] → world.sd.deletionTimestamp.isSome = true → recordedDatabase world.sd = true
  typed : world.made ≠ [] → world.sd.spec.type = "pg"
  unbound : world.ruined = true → world.binders = 0
  doomed : world.ruined = true → world.sd.deletionTimestamp.isSome = true

-- What no change outside the passes touches.
structure SdFrame (before after : SdWorld) : Prop where
  databases : after.databases = before.databases
  servers : after.servers = before.servers
  made : after.made = before.made
  ruined : after.ruined = before.ruined
  deleting : after.deleting = before.deleting
  unreadable : after.unreadable = before.unreadable
  status : after.sd.status = before.sd.status
  key : after.sd.key = before.sd.key
  spec : after.sd.spec = before.sd.spec
  dying : before.sd.deletionTimestamp.isSome = true → after.sd.deletionTimestamp.isSome = true

variable {before after world : SdWorld} {job : SharedDatabase}

theorem change_frame (change : SdChange) (changed : changeSd before change = some after) :
    SdFrame before after := by
  cases change with
  | delete time =>
    simp only [changeSd] at changed
    split at changed
    · cases changed
    · cases changed
      exact ⟨rfl, rfl, rfl, rfl, rfl, rfl, rfl, rfl, rfl, fun _ => rfl⟩
  | bind | unbind | provider =>
    cases changed
    exact ⟨rfl, rfl, rfl, rfl, rfl, rfl, rfl, rfl, rfl, id⟩

theorem SdFrame.trans {a b c : SdWorld} (first : SdFrame a b) (second : SdFrame b c) : SdFrame a c :=
  { databases := second.databases.trans first.databases
    servers := second.servers.trans first.servers
    made := second.made.trans first.made
    ruined := second.ruined.trans first.ruined
    deleting := second.deleting.trans first.deleting
    unreadable := second.unreadable.trans first.unreadable
    status := second.status.trans first.status
    key := second.key.trans first.key
    spec := second.spec.trans first.spec
    dying := fun dies => second.dying (first.dying dies) }

theorem relies_frame (relied : sdFleet.Relies sdPermits before after) : SdFrame before after := by
  induction relied with
  | refl => exact ⟨rfl, rfl, rfl, rfl, rfl, rfl, rfl, rfl, rfl, id⟩
  | tail _ changed ih =>
    obtain ⟨change, -, moved⟩ := changed
    exact ih.trans (change_frame change moved)

theorem sd_inv_stable (before after : SdWorld) (inv : SdInv before) (changed : sdFleet.Changes sdPermits before after) :
    SdInv after := by
  obtain ⟨change, permit, moved⟩ := changed
  cases change with
  | delete time =>
    simp only [sdFleet, changeSd] at moved
    split at moved
    · cases moved
    · cases moved
      simp only [sdPermits, Bool.or_eq_true, List.isEmpty_iff] at permit
      exact
        { databases := inv.databases
          groups := inv.groups
          placed := inv.placed
          recorded := fun made _ => permit.resolve_left made
          typed := inv.typed
          unbound := inv.unbound
          doomed := fun _ => rfl }
  | bind =>
    cases moved
    simp only [sdPermits, Bool.not_eq_true'] at permit
    refine { inv with unbound := ?_ }
    intro ruined
    rw [permit] at ruined
    cases ruined
  | unbind =>
    cases moved
    refine { inv with unbound := ?_ }
    intro ruined
    have none := inv.unbound ruined
    change before.binders - 1 = 0
    omega
  | provider provider =>
    cases moved
    simp only [sdPermits, Bool.or_eq_true, List.isEmpty_iff, decide_eq_true_eq] at permit
    refine { inv with placed := ?_ }
    intro place made
    have there := inv.placed place made
    rcases permit with empty | same
    · rw [show before.made = [] from empty] at made
      cases made
    · rw [there]
      exact same.symm

def SdGuards (job : SharedDatabase) (prog : SdProg) (world : SdWorld) : Prop :=
  sdFleet.Guards sdPermits SdInv SdInv sdCheck job prog world

theorem guards_call {request : SdRequest} {next : sdApi.Response request → SdProg} (inv : SdInv world)
    (rest : ∀ later, SdInv later → SdFrame world later → sdPermits later (.serve job request) = true →
      sdCheck job later request ∧ ∀ fate, SdGuards job (next (serveSd later fate request).1) (serveSd later fate request).2) :
    SdGuards job (.call request next) world := by
  refine ⟨inv, ?_⟩
  intro later relied permit
  exact rest later (sdFleet.relies_keeps sdPermits SdInv sd_inv_stable world later relied inv) (relies_frame relied) permit

structure Abiding (job : SharedDatabase) (deleting : Bool) (world : SdWorld) : Prop where
  inv : SdInv world
  phase : world.deleting = deleting
  status : world.sd.status = job.status
  key : world.sd.key = job.key
  spec : world.sd.spec = job.spec
  spared : deleting = false → world.ruined = false
  dying : deleting = true → world.sd.deletionTimestamp.isSome = true

theorem Abiding.frame {deleting : Bool} (abiding : Abiding job deleting before)
    (inv : SdInv after) (frame : SdFrame before after) : Abiding job deleting after :=
  { inv := inv
    phase := frame.deleting.trans abiding.phase
    status := frame.status.trans abiding.status
    key := frame.key.trans abiding.key
    spec := frame.spec.trans abiding.spec
    spared := fun provisions => frame.ruined.trans (abiding.spared provisions)
    dying := fun deletes => frame.dying (abiding.dying deletes) }

theorem status_inv {status : SharedDatabaseStatus} (inv : SdInv world)
    (keeps : world.made ≠ [] → recordedDatabase world.sd = true → status.database.isSome = true) :
    SdInv { world with sd := { world.sd with status := some status } } :=
  { databases := inv.databases
    groups := inv.groups
    placed := inv.placed
    recorded := fun made dies => keeps made (inv.recorded made dies)
    typed := inv.typed
    unbound := inv.unbound
    doomed := inv.doomed }

theorem finalizers_inv (world : SdWorld) (finalizers : List String) (released : Bool) (inv : SdInv world) :
    SdInv { world with sd := { world.sd with finalizers := finalizers }, released := released } :=
  { databases := inv.databases
    groups := inv.groups
    placed := inv.placed
    recorded := inv.recorded
    typed := inv.typed
    unbound := inv.unbound
    doomed := inv.doomed }

theorem write_guards (job : SharedDatabase) (ready : Bool) (backing : Backing) (status reason : String) (result : Option Nat)
    (world : SdWorld) (inv : SdInv world) (told : reason = reasonInUse → world.ruined = false)
    (keeps : world.made ≠ [] → recordedDatabase world.sd = true → backing.database.isSome = true) :
    SdGuards job (pooled (writeSdStatus job ready backing status reason (.done result))) world := by
  apply guards_call inv
  intro later still frame permit
  constructor
  · rintro ⟨cond, listed, named⟩
    rw [mem_singleton.mp listed] at named
    rw [frame.ruined]
    exact told (some.inj named)
  · intro fate
    have after : SdInv (serveSd later fate (.pool (.sharedStatus job.key (sdStatus ready backing (readyCondition status reason))))).2 := by
      simp only [serveSd, serveSdPool]
      split
      · apply status_inv still
        intro made recorded
        rw [frame.made] at made
        rw [recordedDatabase, frame.status] at recorded
        exact keeps made recorded
      · exact still
    generalize serveSd later fate _ = served at after ⊢
    obtain ⟨ok, written⟩ := served
    cases ok <;> exact after

theorem backing_of_database (sd : SharedDatabase) : (backingOf sd).database = sd.status.bind (·.database) := by
  unfold backingOf
  split
  · rename_i none
    rw [none]
    rfl
  · rename_i status found
    rw [found]
    split <;> rfl

theorem report_guards (ready : Bool) (backing : Backing) (status reason : String) (result : Option Nat)
    (world : SdWorld) (abiding : Abiding job false world)
    (keeps : recordedDatabase job = true → backing.database.isSome = true) :
    SdGuards job (pooled (countBinders job fun _ => writeSdStatus job ready backing status reason (.done result))) world := by
  apply guards_call abiding.inv
  intro later still frame permit
  refine ⟨trivial, ?_⟩
  intro fate
  have now := abiding.frame still frame
  have written := write_guards job ready backing status reason result later still (fun _ => now.spared rfl)
    (fun _ recorded => keeps (by rwa [recordedDatabase, now.status] at recorded))
  cases found : fate.answer (.pool (.listBinders job.key)) with
  | none =>
    simp only [serveSd, serveSdPool, found]
    exact still
  | some count =>
    simp only [serveSd, serveSdPool, found]
    exact written

theorem awaiting_guards (reason : String) (retry : Nat) (abiding : Abiding job false world) :
    SdGuards job (pooled (awaiting job reason retry)) world := by
  apply report_guards false (backingOf job) "False" reason (some retry) world abiding
  rw [backing_of_database]
  exact id

theorem unfinished_guards (failure : PgFailure) (reason : String) (retry : Nat) (abiding : Abiding job false world) :
    SdGuards job (pooled ((unfinishedCall job failure).getD (awaiting job reason retry))) world := by
  have carried : ∀ ready status reason retry, SdGuards job (pooled (countBinders job fun _ =>
      writeSdStatus job ready (backingOf job) status reason (.done (some retry)))) world := by
    intro ready status reason retry
    apply report_guards ready (backingOf job) status reason (some retry) world abiding
    rw [backing_of_database]
    exact id
  cases failure with
  | cancelled bound => cases bound <;> exact carried _ _ _ _
  | timedOut => exact carried _ _ _ _
  | other => exact awaiting_guards reason retry abiding

theorem nothing_clean (inv : SdInv world) (none : world.made = []) : Clean world := by
  constructor
  · intro ns present
    obtain ⟨place, made, -⟩ := inv.databases ns present
    rw [none] at made
    cases made
  · right
    intro place group listed
    by_contra there
    have made := inv.groups place group listed (Bool.not_eq_false _ ▸ there)
    rw [none] at made
    cases made

theorem clean_frame (frame : SdFrame before after) (clean : Clean before) : Clean after := by
  constructor
  · intro ns
    rw [frame.databases]
    exact clean.databases ns
  · rw [frame.unreadable, frame.servers, frame.key]
    exact clean.groups

theorem release_guards (job : SharedDatabase) (world : SdWorld) (inv : SdInv world) (clean : Clean world) :
    SdGuards job (pooled (dropSharedFinalizer job)) world := by
  apply guards_call inv
  intro later still frame permit
  refine ⟨fun _ => clean_frame frame clean, ?_⟩
  intro fate
  have after : SdInv (serveSd later fate (.pool (.sharedFinalizers job.key false))).2 := by
    simp only [serveSd, serveSdPool]
    split
    · exact finalizers_inv later _ _ still
    · exact still
  generalize serveSd later fate _ = served at after ⊢
  obtain ⟨ok, written⟩ := served
  cases ok <;> exact after

def statusFree : PoolProg → Prop
  | .done _ => True
  | .fail _ => True
  | .call request next => (∀ key status, request ≠ .sharedStatus key status) ∧ ∀ response, statusFree (next response)

-- Where nothing of pg was ever created.
theorem pooled_guards (job : SharedDatabase) (prog : PoolProg) (world : SdWorld) (inv : SdInv world) (none : world.made = [])
    (dying : world.deleting = true → world.sd.deletionTimestamp.isSome = true)
    (told : (world.deleting = false ∧ world.ruined = false) ∨ statusFree prog) : SdGuards job (pooled prog) world := by
  induction prog generalizing world with
  | done value => exact inv
  | fail error => exact inv
  | call request next ih =>
    apply guards_call inv
    intro later still frame permit
    have empty : later.made = [] := frame.made.trans none
    have doomed : later.deleting = true → later.sd.deletionTimestamp.isSome = true := fun deletes =>
      frame.dying (dying (frame.deleting ▸ deletes))
    have later_told : ∀ response, (later.deleting = false ∧ later.ruined = false) ∨ statusFree (next response) := by
      intro response
      rw [frame.deleting, frame.ruined]
      exact told.imp id fun silent => silent.2 response
    have unchanged : ∀ response, SdGuards job (pooled (next response)) later := fun response =>
      ih response later still empty doomed (later_told response)
    cases request with
    | sharedStatus key status =>
      have spared : later.deleting = false ∧ later.ruined = false := by
        rw [frame.deleting, frame.ruined]
        exact told.resolve_right fun silent => silent.1 key status rfl
      refine ⟨fun _ => spared.2, ?_⟩
      intro fate
      change SdGuards job (pooled (next _)) (ite _ _ _)
      split
      · apply ih
        · exact status_inv still fun made => absurd empty made
        · exact empty
        · exact doomed
        · exact .inl spared
      · exact unchanged _
    | sharedFinalizers key keep =>
      refine ⟨fun _ => nothing_clean still empty, ?_⟩
      intro fate
      change SdGuards job (pooled (next _)) (ite _ _ _)
      split
      · apply ih
        · exact finalizers_inv later _ _ still
        · exact empty
        · exact doomed
        · exact later_told _
      · exact unchanged _
    | flushdb slot =>
      refine ⟨trivial, ?_⟩
      intro fate
      change SdGuards job (pooled (next _)) (ite _ _ _)
      split
      · rename_i flushes
        have deletes := (Bool.and_eq_true_iff.mp flushes).2
        have free : later.binders = 0 := by
          simpa [sdPermits, deletes] using permit
        apply ih
        · exact { still with unbound := fun _ => free, doomed := fun _ => doomed deletes }
        · exact empty
        · exact doomed
        · refine .inr ((later_told _).resolve_left ?_)
          rintro ⟨provisions, -⟩
          rw [deletes] at provisions
          cases provisions
      · exact unchanged _
    | listClaims | listRetained | listShared | getClaim | getRetained | findProvider | selectProvider | listBinders | outside |
        claimFinalizers | checkpoint | claimStatus | createRetained | deleteRetained =>
      exact ⟨trivial, fun fate => unchanged _⟩

section Provision

variable (job : SharedDatabase) (typed : job.spec.type = "pg")

theorem pg_guards (call : PgCall) {next : sdApi.Response (.pg call) → SdProg} (world : SdWorld)
    (abiding : Abiding job false world)
    (keeps : ∀ later fate, Abiding job false later → sdPermits later (.serve job (.pg call)) = true →
      Abiding job false (serveSdPg later fate call).2)
    (rest : ∀ later response, Abiding job false later → SdGuards job (next response) later) :
    SdGuards job (pgCall call next) world := by
  apply guards_call abiding.inv
  intro later still frame permit
  refine ⟨trivial, ?_⟩
  intro fate
  exact rest _ _ (keeps later fate (abiding.frame still frame) permit)

variable {world later : SdWorld} {place : Place}

include typed in
theorem created_abiding {databases : String → Option Bool} {servers : Place → Server}
    (abiding : Abiding job false world) (permit : createsRecorded world place = true)
    (declared : ∀ ns, databases ns = some true → ns = place.ns ∨ world.databases ns = some true)
    (granted : ∀ other, other ≠ place → servers other = world.servers other) :
    Abiding job false { world with databases := databases, servers := servers, made := place :: world.made } := by
  simp only [createsRecorded, Bool.and_eq_true, decide_eq_true_eq, Bool.or_eq_true] at permit
  refine { abiding with inv := ?_ }
  constructor
  · intro ns present
    rcases declared ns present with rfl | before
    · exact ⟨place, mem_cons_self, rfl⟩
    · obtain ⟨other, made, there⟩ := abiding.inv.databases ns before
      exact ⟨other, mem_cons_of_mem _ made, there⟩
  · intro other group listed present
    by_cases here : other = place
    · rw [here]
      exact mem_cons_self
    · have before : (world.servers other).role group = true := by
        rw [← granted other here]
        exact present
      exact mem_cons_of_mem _ (abiding.inv.groups other group listed before)
  · exact forall_mem_cons.mpr ⟨permit.1, abiding.inv.placed⟩
  · intro _ dies
    rcases permit.2 with alive | recorded
    · rw [isNone_iff_eq_none] at alive
      change world.sd.deletionTimestamp.isSome = true at dies
      rw [alive] at dies
      cases dies
    · exact recorded
  · intro _
    exact (congrArg SharedDatabaseSpec.type abiding.spec).trans typed
  · exact abiding.inv.unbound
  · exact abiding.inv.doomed

include typed in
theorem executed_abiding (fate : SdFate) {statements : List Statement}
    (abiding : Abiding job false later) (permit : sdPermits later (.serve job (.pg (.execute place statements))) = true) :
    Abiding job false (serveSdPg later fate (.execute place statements)).2 := by
  simp only [sdPermits, abiding.phase, Bool.false_or] at permit
  simp only [serveSdPg, abiding.phase, Bool.false_eq_true, if_false]
  apply created_abiding job typed abiding permit
  · intro ns present
    exact .inr present
  · intro other apart
    exact if_neg apart

include typed in
theorem applied_abiding (fate : SdFate) (abiding : Abiding job false later)
    (permit : sdPermits later (.serve job (.pg (.applyDatabase place))) = true) :
    Abiding job false (serveSdPg later fate (.applyDatabase place)).2 := by
  simp only [serveSdPg]
  split
  · apply created_abiding job typed abiding permit
    · intro ns present
      by_cases here : ns = place.ns
      · exact .inl here
      · have before : (if ns = place.ns then some true else later.databases ns) = some true := present
        rw [if_neg here] at before
        exact .inr before
    · intro other _
      rfl
  · exact abiding

theorem unread_abiding (deleting : Bool) (world : SdWorld) (unreadable : Bool) (abiding : Abiding job deleting world) :
    Abiding job deleting { world with unreadable := unreadable } :=
  { abiding with inv := { abiding.inv with } }

theorem publish_guards (place : Place) (abiding : Abiding job false world) : SdGuards job (publishPg job place) world := by
  apply pg_guards job _ world abiding
  · intro later fate now permit
    exact now
  · intro later response now
    exact report_guards true _ "True" "Provisioned" (some 300) later now fun _ => rfl

include typed in
theorem grant_guards (place : Place) (abiding : Abiding job false world) : SdGuards job (grantPg job place) world := by
  apply pg_guards job _ world abiding
  · intro later fate now permit
    exact executed_abiding job typed fate now permit
  · intro later failure now
    change Option PgFailure at failure
    cases failure with
    | none => exact publish_guards job place now
    | some failure => exact unfinished_guards failure _ _ now

include typed in
theorem create_guards (place : Place) (abiding : Abiding job false world) : SdGuards job (createPg job place) world := by
  apply pg_guards job _ world abiding
  · intro later fate now permit
    exact executed_abiding job typed fate now permit
  · intro later failure now
    change Option PgFailure at failure
    cases failure with
    | some failure => exact unfinished_guards failure _ _ now
    | none =>
      apply pg_guards job _ later now
      · intro later fate now permit
        exact applied_abiding job typed fate now permit
      · intro later ok now
        change Bool at ok
        cases ok with
        | true => exact grant_guards job typed place now
        | false => exact now.inv

include typed in
theorem reconcile_pg_guards (abiding : Abiding job false world) : SdGuards job (reconcilePg job) world := by
  apply guards_call abiding.inv
  intro later still frame permit
  refine ⟨trivial, ?_⟩
  intro fate
  have now := abiding.frame still frame
  change SdGuards job _ later
  generalize (serveSd later fate (.pool .selectProvider)).1 = found
  change Option (Option ServiceProvider) at found
  cases found with
  | none => exact still
  | some found =>
    cases found with
    | none => exact awaiting_guards _ _ now
    | some provider =>
      apply pg_guards job (.ensureCluster _) later now (fun later fate now permit => now)
      intro later ok now
      change Bool at ok
      cases ok with
      | false => exact now.inv
      | true =>
        apply pg_guards job (.ensurePlatformSecret _) later now (fun later fate now permit => now)
        intro later ok now
        change Bool at ok
        cases ok with
        | false => exact now.inv
        | true =>
          apply pg_guards job (.upsertPlatformRole _) later now (fun later fate now permit => now)
          intro later ok now
          change Bool at ok
          cases ok with
          | false => exact awaiting_guards _ _ now
          | true =>
            apply pg_guards job (.readPlatformPassword _) later now
              (fun later fate now permit => unread_abiding job false later _ now)
            intro later ok now
            change Bool at ok
            cases ok with
            | false => exact now.inv
            | true => exact create_guards job typed _ now

end Provision

theorem dropped_roles (statements : List Statement) (only : ∀ statement ∈ statements, ∃ group, statement = .dropGroup group)
    (server : Server) (role : String) (there : (statements.foldl Server.exec server).role role = true) :
    server.role role = true ∧ ∀ group, .dropGroup group ∈ statements → role ≠ serverName group := by
  induction statements generalizing server with
  | nil => exact ⟨there, nofun⟩
  | cons statement rest ih =>
    obtain ⟨group, rfl⟩ := only statement mem_cons_self
    have later := ih (fun statement member => only statement (mem_cons_of_mem _ member)) _ there
    have kept := later.1
    simp only [Server.exec, Bool.and_eq_true, bne_iff_ne] at kept
    refine ⟨kept.2, ?_⟩
    intro other listed
    rcases mem_cons.mp listed with same | after
    · cases same
      exact kept.1
    · exact later.2 other after

theorem drop_statements {key : ClaimKey} (statement : Statement) (listed : statement ∈ dropGroups key) :
    ∃ group, statement = .dropGroup group := by
  obtain ⟨group, -, rfl⟩ := mem_map.mp listed
  exact ⟨group, rfl⟩

section Delete

variable (job : SharedDatabase) (place : Place)

-- The deletion past its gate: the Database is gone from the one place there is.
structure Cleared (world : SdWorld) : Prop where
  abiding : Abiding job true world
  placed : ∀ other ∈ world.made, other = place
  databases : ∀ ns, world.databases ns ≠ some true

theorem Cleared.frame {before after : SdWorld} (cleared : Cleared job place before) (inv : SdInv after)
    (frame : SdFrame before after) : Cleared job place after :=
  { abiding := cleared.abiding.frame inv frame
    placed := by
      rw [frame.made]
      exact cleared.placed
    databases := by
      rw [frame.databases]
      exact cleared.databases }

variable {later world : SdWorld}

theorem drop_executed (fate : SdFate) (now : Cleared job place later) :
    SdInv (serveSdPg later fate (.execute place (dropGroups job.key))).2 ∧
      ((serveSdPg later fate (.execute place (dropGroups job.key))).1 = none →
        Clean (serveSdPg later fate (.execute place (dropGroups job.key))).2) := by
  have inv := now.abiding.inv
  have server : ∀ refused other role,
      ((later.onServer place fun server => server.executeAll (dropGroups job.key) refused).servers other).role role = true →
        (later.servers other).role role = true := by
    intro refused other role there
    simp only [SdWorld.onServer] at there
    split at there
    · cases refused with
      | none => exact (dropped_roles _ drop_statements _ role there).1
      | some index =>
        exact (dropped_roles _ (fun statement member => drop_statements _ (mem_of_mem_take member)) _ role there).1
    · exact there
  simp only [serveSdPg, now.abiding.phase, if_true]
  constructor
  · refine { inv with groups := ?_ }
    intro other group listed there
    exact inv.groups other group listed (server _ other group there)
  · intro ran
    refine ⟨now.databases, .inr ?_⟩
    intro other group listed
    rw [ran]
    by_contra there
    replace there := Bool.not_eq_false _ ▸ there
    have made := inv.groups other group listed (server none other group there)
    simp only [SdWorld.onServer, now.placed other made, if_true] at there
    have gone := (dropped_roles _ drop_statements _ group there).2
    have named : group ∈ groupsOf job.key := by
      rw [← now.abiding.key]
      exact listed
    rw [groupsOf, mem_cons, mem_singleton] at named
    rcases named with same | same
    · exact gone (sharedGroup job.key) (by simp [dropGroups]) same
    · exact gone (sharedReaderGroup job.key) (by simp [dropGroups]) same

theorem drop_groups_guards (world : SdWorld) (cleared : Cleared job place world) : SdGuards job (dropPgGroups job place) world := by
  apply guards_call cleared.abiding.inv
  intro later still frame permit
  refine ⟨trivial, ?_⟩
  intro fate
  have now := cleared.frame job place still frame
  simp only [serveSd, serveSdPg]
  cases answered : fate.answer (.pg (.readPlatformPassword place)) with
  | false =>
    apply release_guards
    · exact { still with }
    · exact ⟨now.databases, .inl (by simp)⟩
  | true =>
    have read : Cleared job place { later with unreadable := later.unreadable || !true } :=
      { now with abiding := unread_abiding job true later _ now.abiding }
    apply guards_call read.abiding.inv
    intro after kept frame permit
    refine ⟨trivial, ?_⟩
    intro fate
    have executed := drop_executed job place fate (read.frame job place kept frame)
    cases failed : (serveSdPg after fate (.execute place (dropGroups job.key))).1 with
    | none =>
      have released := release_guards job _ executed.1 (executed.2 failed)
      simp only [serveSd, failed]
      exact released
    | some failure =>
      simp only [serveSd, failed]
      exact executed.1

theorem absent_databases (inv : SdInv world) (placed : ∀ other ∈ world.made, other = place)
    (absent : world.databases place.ns ≠ some true) (ns : String) : world.databases ns ≠ some true := by
  intro present
  obtain ⟨other, made, there⟩ := inv.databases ns present
  rw [placed other made] at there
  rw [← there] at present
  exact absent present

theorem declared_cleared (abiding : Abiding job true later) (placed : ∀ other ∈ later.made, other = place)
    (free : later.binders = 0) : Cleared job place { later.setDatabase place.ns false with ruined := true } := by
  have databases : ∀ ns, (later.setDatabase place.ns false).databases ns = some true → later.databases ns = some true := by
    intro ns present
    simp only [SdWorld.setDatabase] at present
    split at present
    · cases present
    · exact present
  have inv : SdInv { later.setDatabase place.ns false with ruined := true } :=
    { databases := fun ns present => abiding.inv.databases ns (databases ns present)
      groups := abiding.inv.groups
      placed := abiding.inv.placed
      recorded := abiding.inv.recorded
      typed := abiding.inv.typed
      unbound := fun _ => free
      doomed := fun _ => abiding.dying rfl }
  refine ⟨⟨inv, abiding.phase, abiding.status, abiding.key, abiding.spec, nofun,
    abiding.dying⟩, placed, ?_⟩
  apply absent_databases place inv placed
  simp [SdWorld.setDatabase]

theorem declare_guards (abiding : Abiding job true world) (placed : ∀ other ∈ world.made, other = place) :
    SdGuards job (pgCall (.declareAbsent place) fun ok => match ok with
      | true => dropPgGroups job place
      | false => .fail .call) world := by
  apply guards_call abiding.inv
  intro later still frame permit
  refine ⟨trivial, ?_⟩
  intro fate
  have free : later.binders = 0 := by simpa [sdPermits] using permit
  have now := abiding.frame still frame
  rw [← frame.made] at placed
  have cleared := declared_cleared job place now placed free
  simp only [serveSd, serveSdPg]
  cases answered : fate.answer (.pg (.declareAbsent place)) with
  | true => exact drop_groups_guards job place _ cleared
  | false =>
    by_cases applied : fate.applied = true
    · rw [applied]
      exact cleared.abiding.inv
    · rw [Bool.eq_false_iff.mpr applied]
      exact still

theorem drop_pg_guards (abiding : Abiding job true world) : SdGuards job (dropPg job) world := by
  apply guards_call abiding.inv
  intro later still frame permit
  refine ⟨trivial, ?_⟩
  intro fate
  have now := abiding.frame still frame
  simp only [serveSd, serveSdPool]
  cases answered : fate.answer (.pool .selectProvider) with
  | none => exact still
  | some any =>
    dsimp only [map_some]
    by_cases unrecorded : (job.status.bind (·.database)).isNone = true
    · rw [if_pos unrecorded]
      have none : later.made = [] := by
        by_contra made
        have recorded := still.recorded made (now.dying rfl)
        rw [recordedDatabase, now.status] at recorded
        rw [isNone_iff_eq_none] at unrecorded
        rw [unrecorded] at recorded
        cases recorded
      exact release_guards job later still (nothing_clean still none)
    · rw [if_neg unrecorded]
      apply guards_call still
      intro after kept frame permit
      refine ⟨trivial, ?_⟩
      intro fate
      have there := now.frame kept frame
      have placed : ∀ other ∈ after.made, other = placeOf later.provider := by
        rw [frame.made]
        exact still.placed
      simp only [serveSd, serveSdPg]
      cases looked : fate.answer (.pg (.getDatabase (placeOf later.provider))) with
      | none => exact kept
      | some any =>
        cases found : after.databases (placeOf later.provider).ns with
        | none =>
          apply drop_groups_guards
          refine ⟨there, placed, absent_databases _ kept placed ?_⟩
          rw [found]
          exact nofun
        | some ensure => exact declare_guards job _ there placed

theorem drop_backing_silent : statusFree (dropBacking job) := by
  have released : statusFree (dropSharedFinalizer job) := by
    refine ⟨nofun, ?_⟩
    intro ok
    cases ok <;> exact trivial
  refine ⟨nofun, ?_⟩
  intro found
  cases found with
  | none => exact trivial
  | some provider =>
    split
    · exact released
    · refine ⟨nofun, ?_⟩
      intro readable
      cases readable with
      | false => exact released
      | true =>
        refine ⟨nofun, ?_⟩
        intro live
        cases live with
        | none => exact trivial
        | some live =>
          refine ⟨nofun, ?_⟩
          intro retained
          cases retained with
          | none => exact trivial
          | some retained =>
            refine ⟨nofun, ?_⟩
            intro shared
            cases shared with
            | none => exact trivial
            | some shared =>
              dsimp only
              split
              · exact ⟨nofun, fun _ => released⟩
              · exact released

theorem made_none (inv : SdInv world) (spec : world.sd.spec = job.spec) (other : job.spec.type ≠ "pg") : world.made = [] := by
  by_contra made
  apply other
  rw [← spec]
  exact inv.typed made

theorem drop_shared_guards (abiding : Abiding job true world) : SdGuards job (dropSharedBacking job) world := by
  unfold dropSharedBacking
  split
  · exact drop_pg_guards job abiding
  · rename_i other
    have none := made_none job abiding.inv abiding.spec other
    split
    · exact pooled_guards job _ world abiding.inv none (fun _ => abiding.dying rfl) (.inr (drop_backing_silent job))
    · apply guards_call abiding.inv
      intro later still frame permit
      refine ⟨trivial, ?_⟩
      intro fate
      generalize (serveSd later fate (.pool .selectProvider)).1 = found
      cases found with
      | none => exact still
      | some provider => exact release_guards job later still (nothing_clean still (frame.made.trans none))

end Delete

theorem provision_guards (abiding : Abiding job false world) : SdGuards job (provisionDatabase job) world := by
  unfold provisionDatabase
  split
  · rename_i typed
    exact reconcile_pg_guards job typed abiding
  · rename_i other
    have none := made_none job abiding.inv abiding.spec other
    have provisions : world.deleting = true → world.sd.deletionTimestamp.isSome = true := by
      intro deletes
      rw [abiding.phase] at deletes
      cases deletes
    split
    · exact pooled_guards job _ world abiding.inv none provisions (.inl ⟨abiding.phase, abiding.spared rfl⟩)
    · exact awaiting_guards _ _ abiding

theorem reconcile_deleting_guards (abiding : Abiding job true world) {time : Nat}
    (dying : job.deletionTimestamp = some time) : SdGuards job (reconcileSharedDatabase job) world := by
  unfold reconcileSharedDatabase
  rw [dying]
  dsimp only
  split
  · apply guards_call abiding.inv
    intro later still frame permit
    refine ⟨trivial, ?_⟩
    intro fate
    have now := abiding.frame still frame
    simp only [serveSd, serveSdPool]
    cases answered : fate.answer (.pool (.listBinders job.key)) with
    | none => exact still
    | some any =>
      cases bound : later.binders with
      | zero => exact drop_shared_guards job now
      | succ count =>
        apply write_guards job false (backingOf job) "False" reasonInUse (some 30) later still
        · intro _
          by_contra ruined
          have none := still.unbound (Bool.not_eq_false _ ▸ ruined)
          omega
        · intro _ recorded
          rw [backing_of_database]
          rw [recordedDatabase, now.status] at recorded
          exact recorded
  · exact abiding.inv

theorem reconcile_provision_guards (abiding : Abiding job false world)
    (living : job.deletionTimestamp = none) : SdGuards job (reconcileSharedDatabase job) world := by
  unfold reconcileSharedDatabase
  rw [living]
  dsimp only
  split
  · exact provision_guards abiding
  · apply guards_call abiding.inv
    intro later still frame permit
    refine ⟨nofun, ?_⟩
    intro fate
    have now := abiding.frame still frame
    have after : Abiding job false (serveSd later fate (.pool (.sharedFinalizers job.key true))).2 := by
      simp only [serveSd, serveSdPool]
      split
      · exact { now with inv := finalizers_inv later _ _ still }
      · exact now
    generalize serveSd later fate _ = served at after ⊢
    obtain ⟨ok, written⟩ := served
    cases ok with
    | true => exact provision_guards after
    | false => exact after.inv

theorem sd_sound : sdFleet.Sound sdPermits true SdInv SdInv sdCheck where
  initially := by
    intro world initial
    have none := initial.quiet.2.1
    exact
      { databases := fun ns present => by rw [initial.databases ns] at present; cases present
        groups := fun place group listed there => by rw [initial.groups place group listed] at there; cases there
        placed := fun place made => by rw [none] at made; cases made
        recorded := fun made => absurd none made
        typed := fun made => absurd none made
        unbound := fun ruined => by rw [initial.quiet.2.2] at ruined; cases ruined
        doomed := fun ruined => by rw [initial.quiet.2.2] at ruined; cases ruined }
  inv_safe := fun _ inv => inv
  cut := fun _ _ safe => safe
  inv_stable := sd_inv_stable
  safe_stable := sd_inv_stable
  begins := by
    intro before job after prog inv permit begun
    simp only [sdFleet] at begun
    split at begun
    · rename_i current
      cases begun
      obtain ⟨-, rfl⟩ := current
      have now : SdInv { before with deleting := before.sd.deletionTimestamp.isSome, unreadable := false } := { inv with }
      have spared : before.sd.deletionTimestamp.isSome = false → before.ruined = false := by
        intro living
        by_contra ruined
        have doomed := inv.doomed (Bool.not_eq_false _ ▸ ruined)
        rw [living] at doomed
        cases doomed
      cases dying : before.sd.deletionTimestamp with
      | some time =>
        rw [dying] at now
        exact reconcile_deleting_guards ⟨now, rfl, rfl, rfl, rfl, nofun,
          fun _ => by rw [dying]; rfl⟩ dying
      | none =>
        rw [dying] at now spared
        exact reconcile_provision_guards ⟨now, rfl, rfl, rfl, rfl, fun _ => spared rfl, nofun⟩ dying
    · cases begun

abbrev SdState := Fleet.State sdApi PoolError (Option Nat) SdWorld Unit SharedDatabase

abbrev SdAction := Fleet.Action Unit SharedDatabase SdFate SdChange

-- The finalizer goes last, and nobody is told falsely that the data is untouched.
structure DeletedWhole (system : System SdState SdAction) (state : SdState) : Prop where
  released : ∀ action after job key, system.step state action = some after →
    Fleet.event state action = some (.serve job (.pool (.sharedFinalizers key false))) → Clean state.world
  told : ∀ action after job key status, system.step state action = some after →
    Fleet.event state action = some (.serve job (.pool (.sharedStatus key status))) →
      (∃ cond ∈ status.conditions, cond.reason = some reasonInUse) → state.world.ruined = false

theorem shared_delete_whole (state : SdState) (reachable : (sdFleet.solo sdPermits true).Reachable state) :
    DeletedWhole (sdFleet.solo sdPermits true) state := by
  constructor
  · intro action after job key taken serves
    exact Fleet.solo_checked sd_sound reachable taken serves rfl
  · intro action after job key status taken serves used
    exact Fleet.solo_checked sd_sound reachable taken serves used

def smoothAnswer : (request : SdRequest) → sdApi.Response request
  | .pool request => match request with
    | .listClaims => some []
    | .listRetained => some []
    | .listShared => some []
    | .getClaim _ => some none
    | .getRetained _ => some none
    | .findProvider _ => some none
    | .selectProvider => some none
    | .listBinders _ => some 0
    | .outside _ | .claimFinalizers _ _ | .sharedFinalizers _ _ | .checkpoint _ _ | .claimStatus _ _ _ _ | .sharedStatus _ _ |
      .createRetained _ | .deleteRetained _ | .flushdb _ => true
  | .pg call => match call with
    | .ensureCluster _ => true
    | .ensurePlatformSecret _ => true
    | .upsertPlatformRole _ => true
    | .readPlatformPassword _ => true
    | .execute _ _ => none
    | .applyDatabase _ => true
    | .getDatabase _ => some true
    | .declareAbsent _ => true
    | .probeExtensions _ => true

def refusedAnswer : (request : SdRequest) → sdApi.Response request
  | .pg (.execute _ _) => some .other
  | request => smoothAnswer request

def smoothFate : SdFate := { answer := smoothAnswer, applied := true, ran := 0 }

def refusedFate : SdFate := { answer := refusedAnswer, applied := true, ran := 0 }

def ordersDb : SharedDatabase := { ns := "apps", name := "orders", finalizers := [sdFinalizer], spec := { type := "pg" } }

def ordersDbReady : SharedDatabase :=
  { ordersDb with
    status := some (sdStatus true { database := some "shd_apps_orders", inst := some "platform-postgres" }
      (readyCondition "True" "Provisioned")) }

def deletedAt (sd : SharedDatabase) (time : Nat) : SharedDatabase := { sd with deletionTimestamp := some time }

def ordersWorld : SdWorld :=
  { sd := ordersDb
    provider := some { ns := "apprafter-system", name := "pg-integrated", backend := "cloudnative-pg" }
    databases := fun _ => none
    servers := fun _ =>
      { role := fun _ => false, password := fun _ => none, member := fun _ _ => false, connect := fun _ _ => false
        setting := fun _ _ => none } }

theorem orders_initial : SdInitial ordersWorld :=
  { fresh := ⟨rfl, rfl, rfl⟩, quiet := ⟨rfl, rfl, rfl⟩, databases := fun _ => rfl, groups := fun _ _ _ => rfl }

def smoothReplies (count : Nat) : List SdAction := List.replicate count (.reply () smoothFate)

def provisionedRun : List SdAction := [.begin ordersDb] ++ smoothReplies 11 ++ [.drop (), .change (.delete 1)]

def releasing (state : SdState) : Bool :=
  match Fleet.event state (.reply () smoothFate : SdAction) with
  | some (.serve _ (.pool (.sharedFinalizers _ false))) => true
  | _ => false

theorem releasing_event {state : SdState} (releases : releasing state = true) :
    ∃ job key, Fleet.event state (.reply () smoothFate : SdAction) = some (.serve job (.pool (.sharedFinalizers key false))) := by
  unfold releasing at releases
  split at releases
  · rename_i job key happens
    exact ⟨job, key, happens⟩
  · cases releases

theorem orders_deleted_whole :
    ∃ state, (sdFleet.solo sdPermits true).Reachable state ∧ releasing state = true ∧ state.world.made ≠ [] ∧ Clean state.world := by
  have finished : ((sdFleet.solo sdPermits true).run (Fleet.start ordersWorld)
      (provisionedRun ++ [.begin (deletedAt ordersDbReady 1)] ++ smoothReplies 6)).bind (fun state =>
        ((sdFleet.solo sdPermits true).step state (.reply () smoothFate)).map fun _ =>
          (releasing state, state.world.made.isEmpty)) = some (true, false) := by
    decide +kernel
  obtain ⟨state, after, reachable, taken, facts⟩ := System.run_then_shows _ finished ⟨_, orders_initial, rfl⟩
  obtain ⟨releases, made⟩ := Prod.mk.inj facts
  obtain ⟨job, key, happens⟩ := releasing_event releases
  refine ⟨state, reachable, releases, ?_, (shared_delete_whole state reachable).released _ after job key taken happens⟩
  intro none
  rw [none] at made
  cases made

def anything (_ : SdWorld) (_ : Fleet.Event sdApi SharedDatabase SdChange) : Bool := true

def leakingRun : List SdAction :=
  [.begin ordersDb] ++ smoothReplies 7 ++ [.drop (), .change (.delete 1), .begin (deletedAt ordersDb 1)] ++ smoothReplies 2

def lateBindRun : List SdAction :=
  provisionedRun ++ [.begin (deletedAt ordersDbReady 1)] ++ smoothReplies 5 ++
    [.reply () refusedFate, .drop (), .change .bind, .begin (deletedAt ordersDbReady 1)] ++ smoothReplies 1

def tellingUntouched (state : SdState) : Bool :=
  match Fleet.event state (.reply () smoothFate : SdAction) with
  | some (.serve _ (.pool (.sharedStatus _ status))) => status.conditions.any fun cond => cond.reason == some reasonInUse
  | _ => false

theorem shared_delete_broken :
    (∃ state, (sdFleet.solo anything true).Reachable state ∧ releasing state = true ∧
      state.world.databases "cnpg-system" = some true ∧ ¬DeletedWhole (sdFleet.solo anything true) state) ∧
    ∃ state, (sdFleet.solo anything true).Reachable state ∧ tellingUntouched state = true ∧
      state.world.databases "cnpg-system" = some false ∧ ¬DeletedWhole (sdFleet.solo anything true) state := by
  constructor
  · have finished : ((sdFleet.solo anything true).run (Fleet.start ordersWorld) leakingRun).bind (fun state =>
        ((sdFleet.solo anything true).step state (.reply () smoothFate)).map fun _ =>
          (releasing state, state.world.databases "cnpg-system")) = some (true, some true) := by
      decide +kernel
    obtain ⟨state, after, reachable, taken, facts⟩ := System.run_then_shows _ finished ⟨_, orders_initial, rfl⟩
    obtain ⟨releases, present⟩ := Prod.mk.inj facts
    refine ⟨state, reachable, releases, present, ?_⟩
    intro whole
    obtain ⟨job, key, happens⟩ := releasing_event releases
    exact (whole.released _ after job key taken happens).databases "cnpg-system" present
  · have finished : ((sdFleet.solo anything true).run (Fleet.start ordersWorld) lateBindRun).bind (fun state =>
        ((sdFleet.solo anything true).step state (.reply () smoothFate)).map fun _ =>
          (tellingUntouched state, state.world.databases "cnpg-system", state.world.ruined)) = some (true, some false, true) := by
      decide +kernel
    obtain ⟨state, after, reachable, taken, facts⟩ := System.run_then_shows _ finished ⟨_, orders_initial, rfl⟩
    obtain ⟨tells, facts⟩ := Prod.mk.inj facts
    obtain ⟨absent, ruined⟩ := Prod.mk.inj facts
    refine ⟨state, reachable, tells, absent, ?_⟩
    intro whole
    unfold tellingUntouched at tells
    split at tells
    · rename_i job key status happens
      obtain ⟨cond, listed, named⟩ := any_eq_true.mp tells
      have spared := whole.told _ after job key status taken happens ⟨cond, listed, eq_of_beq named⟩
      rw [ruined] at spared
      cases spared
    · cases tells

end AppRafter.Provisioner
