import AppRafter.Credential.Passes

set_option autoImplicit false

namespace AppRafter.Credential

open Lib Lib.Prog

-- What a deletion pass has listed and not tried to delete yet.
abbrev SweepMark := Option (List ObjectKey)

def sweepNext : SweepMark → Exchange scApi → SweepMark
  | _, ⟨.listSecrets _, .ok targets⟩ => some targets
  | mark, ⟨.deleteSecret _ _, _⟩ => mark.map List.tail
  | _, ⟨.setFinalizers _ _ _, _⟩ => none
  | mark, _ => mark

def sweepAllowed (cred : SourceCredential) (mark : SweepMark) : ScRequest → Prop
  | .applySecret secret source => cred.deletionTimestamp.isSome = false ∧ (source.ns, source.name) = cred.key ∧
      secret.credential = cred.name ∧ DerivedName cred.name secret.name
  | .listSecrets name => cred.deletionTimestamp.isSome = true ∧ name = cred.name
  | .deleteSecret ns name => cred.deletionTimestamp.isSome = true ∧ ∃ rest, mark = some ((ns, name) :: rest)
  | .setFinalizers ns name finalizers => (ns, name) = cred.key ∧ (cred.deletionTimestamp.isSome = true → mark = some []) ∧
      (cred.deletionTimestamp.isSome = false → derivedSecretsFinalizer ∈ finalizers)
  | _ => True

def sweepMonitor : Monitor scApi SourceCredential SweepMark where
  first _ := none
  next _ := sweepNext
  allowed := sweepAllowed

theorem shaped_named {name ns : String} {secret : DerivedSecret} (shaped : Shaped name ns secret) :
    secret.credential = name ∧ DerivedName name secret.name := by
  cases shaped with
  | repo idx url login => exact ⟨rfl, .repo idx⟩
  | pull auths => exact ⟨rfl, .pull⟩

section Follows

variable (sha256Hex : String → String) (cred : SourceCredential)

theorem live_follows (living : cred.deletionTimestamp.isSome = false) (mark : SweepMark) :
    sweepMonitor.Follows cred (fun _ _ => True) mark (reconcile sha256Hex cred) := by
  refine sweepMonitor.follows_runs cred (scAllowed sha256Hex cred) _ ?_ [] mark _ (reconcile_runs cred sha256Hex)
  intro history mark request asked
  cases request with
  | applySecret secret source =>
    obtain ⟨_, _, shaped, ⟨ns, name⟩, _⟩ := asked
    exact ⟨living, Prod.ext ns name, shaped_named shaped⟩
  | listSecrets | deleteSecret => exact absurd (living.symm.trans asked) Bool.false_ne_true
  | setFinalizers ns name finalizers =>
    exact ⟨Prod.ext asked.1.1 asked.1.2, fun deleting => absurd (living.symm.trans deleting) Bool.false_ne_true, asked.2⟩
  | _ => trivial

theorem sweep_follows (deleting : cred.deletionTimestamp.isSome = true) (targets : List ObjectKey)
    {after : ScProg Requeue} (last : sweepMonitor.Follows cred (fun _ _ => True) (some []) after) :
    sweepMonitor.Follows cred (fun _ _ => True) (some targets) (deleteSecrets targets >>= fun _ => after) := by
  induction targets with
  | nil => exact last
  | cons target rest ih => exact ⟨⟨deleting, rest, rfl⟩, fun _ => ih⟩

theorem release_follows (deleting : cred.deletionTimestamp.isSome = true) : sweepMonitor.Follows cred (fun _ _ => True) (some [])
      (ensureFinalizers cred >>= fun _ => (pure .awaitChange : ScProg Requeue)) := by
  rw [ensureFinalizers]
  split
  · refine ⟨⟨rfl, fun _ => rfl, fun living => absurd (living.symm.trans deleting) Bool.false_ne_true⟩, fun reply => ?_⟩
    cases reply <;> trivial
  · trivial

theorem reconcile_follows (mark : SweepMark) : sweepMonitor.Follows cred (fun _ _ => True) mark (reconcile sha256Hex cred) := by
  by_cases deleting : cred.deletionTimestamp.isSome = true
  · rw [reconcile, if_pos deleting, gcDerivedSecrets]
    refine ⟨⟨deleting, rfl⟩, fun reply => ?_⟩
    cases reply with
    | error why => trivial
    | ok targets => exact sweep_follows cred deleting targets (release_follows cred deleting)
  · exact live_follows sha256Hex cred (Bool.eq_false_of_not_eq_true deleting) mark

end Follows

open List Option

abbrev SweepBoard := Board scApi FleetWorld ObjectKey SourceCredential SweepMark

structure Owned (known : List ObjectKey) (owned : OwnedSecret) : Prop where
  labelled : owned.secret.credential = owned.origin.2
  named : DerivedName owned.origin.2 owned.secret.name
  known : owned.origin ∈ known

-- What holds of a deletion pass between its list and its release.
structure Sweeping (world : FleetWorld) (key : ObjectKey) (job : SourceCredential) (remaining : List ObjectKey) : Prop where
  deleting : job.deletionTimestamp.isSome = true
  swept : key.2 ∈ world.swept
  listed : ∀ owned ∈ world.secrets, owned.origin = key → owned.key ∈ remaining
  named : ∀ target ∈ remaining, DerivedName key.2 target.2

structure SweepInv (board : SweepBoard) : Prop where
  late : board.late = []
  distinct : ∀ one ∈ board.world.known, ∀ other ∈ board.world.known, one.2 = other.2 → one = other
  creds : ∀ cred ∈ board.world.creds, cred.key ∈ board.world.known
  secrets : ∀ owned ∈ board.world.secrets, Owned board.world.known owned
  copies : ∀ owned ∈ board.world.copies, Owned board.world.known owned
  written : ∀ entry ∈ board.world.written, DerivedName entry.2.2 entry.1.2 ∧ entry.2 ∈ board.world.known
  jobs : ∀ key job mark, board.mark key = some (job, mark) → job.key = key ∧ key ∈ board.world.known
  sweeps : ∀ key job remaining, board.mark key = some (job, some remaining) → Sweeping board.world key job remaining

theorem owned_grows (known more : List ObjectKey) {owned : OwnedSecret} (owns : Owned known owned) :
    Owned (known ++ more) owned := ⟨owns.labelled, owns.named, mem_append_left _ owns.known⟩

structure Shrinks (world after : FleetWorld) : Prop where
  known : after.known = world.known
  written : after.written = world.written
  creds : ∀ cred ∈ after.creds, ∃ earlier ∈ world.creds, cred.key = earlier.key
  secrets : ∀ owned ∈ after.secrets, owned ∈ world.secrets
  copies : ∀ owned ∈ after.copies, owned ∈ world.copies

variable {update : SourceCredential → SourceCredential}

theorem update_cred_key {creds : List SourceCredential} {key : ObjectKey}
    (keeps : ∀ cred, (update cred).key = cred.key) (cred : SourceCredential) (member : cred ∈ updateCred creds key update) :
    ∃ earlier ∈ creds, cred.key = earlier.key := by
  obtain ⟨earlier, found, rfl⟩ := mem_map.mp member
  refine ⟨earlier, found, ?_⟩
  split
  · exact keeps earlier
  · rfl

variable (world : FleetWorld) (key : ObjectKey)

theorem shrinks_creds
    (keeps : ∀ cred, (update cred).key = cred.key) : Shrinks world (world.withCreds (updateCred world.creds key update)) :=
  ⟨rfl, rfl, update_cred_key keeps, fun _ => id, fun _ => id⟩

theorem shrinks_live (update : SourceCredential → SourceCredential) (keeps : ∀ cred, (update cred).key = cred.key) :
    Shrinks world (world.withCreds ((updateCred world.creds key update).filter fun cred => !cred.gone)) :=
  ⟨rfl, rfl, fun cred member => update_cred_key keeps cred (mem_of_mem_filter member), fun _ => id, fun _ => id⟩

theorem shrinks_without : Shrinks world (world.withoutSecret key) :=
  ⟨rfl, rfl, fun cred member => ⟨cred, member, rfl⟩, fun owned member => ((Keyed.mem_discard _ _ _ owned).mp member).1,
    fun _ => id⟩

section Board

variable (board : SweepBoard) (inv : SweepInv board)

include inv

theorem shrinks_inv (world : FleetWorld) (shrinks : Shrinks board.world world)
    (swept : ∀ key job remaining, board.mark key = some (job, some remaining) → key.2 ∈ world.swept) :
    SweepInv { board with world := world } where
  late := inv.late
  distinct one first other second same := inv.distinct one (shrinks.known ▸ first) other (shrinks.known ▸ second) same
  creds cred member := by
    obtain ⟨earlier, found, same⟩ := shrinks.creds cred member
    rw [shrinks.known, same]
    exact inv.creds earlier found
  secrets owned member := by
    exact shrinks.known ▸ inv.secrets owned (shrinks.secrets owned member)
  copies owned member := by
    exact shrinks.known ▸ inv.copies owned (shrinks.copies owned member)
  written entry member := by
    exact shrinks.known ▸ inv.written entry (shrinks.written ▸ member)
  jobs key job mark running := by
    exact shrinks.known ▸ inv.jobs key job mark running
  sweeps key job remaining running := by
    have sweeping := inv.sweeps key job remaining running
    exact ⟨sweeping.deleting, swept key job remaining running,
      fun owned member => sweeping.listed owned (shrinks.secrets owned member), sweeping.named⟩

theorem quiet_inv (world : FleetWorld) (shrinks : Shrinks board.world world) (swept : ∀ name ∈ board.world.swept, name ∈ world.swept) :
    SweepInv { board with world := world } :=
  shrinks_inv board inv world shrinks fun key job remaining running => swept _ (inv.sweeps key job remaining running).swept

theorem set_inv (key : ObjectKey) (set : Option (SourceCredential × SweepMark))
    (job : ∀ cred mark, set = some (cred, mark) → cred.key = key ∧ key ∈ board.world.known)
    (sweeps : ∀ cred remaining, set = some (cred, some remaining) → Sweeping board.world key cred remaining) :
    SweepInv { board with mark := Function.update board.mark key set } where
  late := inv.late
  distinct := inv.distinct
  creds := inv.creds
  secrets := inv.secrets
  copies := inv.copies
  written := inv.written
  jobs := Board.marks_set board.mark key set (fun other cred _ => cred.key = other ∧ other ∈ board.world.known)
    (fun other cred mark _ running => inv.jobs other cred mark running) job
  sweeps other cred remaining running := by
    by_cases same : other = key
    · subst same
      change Function.update board.mark other set other = _ at running
      rw [Function.update_self] at running
      exact sweeps cred remaining running
    · change Function.update board.mark key set other = _ at running
      rw [Function.update_of_ne same] at running
      exact inv.sweeps other cred remaining running

theorem owned_inv {owned : OwnedSecret} (owns : Owned board.world.known owned)
    (clear : ∀ job remaining, board.mark owned.origin ≠ some (job, some remaining)) :
    SweepInv { board with world := board.world.withOwned owned } where
  late := inv.late
  distinct := inv.distinct
  creds := inv.creds
  secrets other member := by
    cases (Keyed.mem_upsert _ _ _ other).mp member with
    | inl earlier => exact inv.secrets other earlier.1
    | inr fresh => exact fresh ▸ owns
  copies := inv.copies
  written entry member := by
    cases mem_append.mp member with
    | inl earlier => exact inv.written entry earlier
    | inr fresh => exact mem_singleton.mp fresh ▸ ⟨owns.named, owns.known⟩
  jobs := inv.jobs
  sweeps key job remaining running := by
    have sweeping := inv.sweeps key job remaining running
    refine ⟨sweeping.deleting, sweeping.swept, ?_, sweeping.named⟩
    intro other member mine
    cases (Keyed.mem_upsert _ _ _ other).mp member with
    | inl earlier => exact sweeping.listed other earlier.1 mine
    | inr fresh =>
      rw [fresh] at mine
      exact absurd (mine ▸ running) (clear job remaining)

theorem swept_apart (name : String) (key : ObjectKey) (mine : key ∈ board.world.known) (named : key.2 = name)
    {swept : List String} (same : swept = board.world.swept.filter (· ≠ name))
    (free : ∀ job remaining, board.mark key ≠ some (job, some remaining)) (other : ObjectKey) (job : SourceCredential)
    (remaining : List ObjectKey) (running : board.mark other = some (job, some remaining)) : other.2 ∈ swept := by
  rw [same]
  refine mem_filter.mpr ⟨(inv.sweeps other job remaining running).swept, decide_eq_true ?_⟩
  intro equal
  have one := inv.distinct other (inv.jobs other job _ running).2 key mine (equal.trans named.symm)
  exact free job remaining (one ▸ running)

end Board

section Keeps

variable (board : SweepBoard) (inv : SweepInv board)

include inv

theorem create_inv {ns name : String} {uid : Option String} {spec : SourceCredentialSpec}
    (apart : prudent board.world (.change (.create ns name uid spec)) = true) :
    SweepInv { board with world := { board.world with
      creds := board.world.creds ++ [{ name := name, ns := ns, uid := uid, spec := spec }]
      known := board.world.known ++ [(ns, name)] } } := by
  have fresh : ∀ key ∈ board.world.known, key.2 = name → key = (ns, name) := by
    intro key member named
    have same := all_eq_true.mp apart key member
    rw [named, bne_self_eq_false] at same
    exact Prod.ext (eq_of_beq same) named
  refine ⟨inv.late, ?_, ?_, ?_, ?_, ?_, ?_, ?_⟩
  · intro one first other second same
    rcases mem_append.mp first with old | new <;> rcases mem_append.mp second with past | now
    · exact inv.distinct one old other past same
    · rw [mem_singleton.mp now] at same ⊢
      exact fresh one old same
    · rw [mem_singleton.mp new] at same ⊢
      exact (fresh other past same.symm).symm
    · rw [mem_singleton.mp new, mem_singleton.mp now]
  · intro cred member
    cases mem_append.mp member with
    | inl earlier => exact mem_append_left _ (inv.creds cred earlier)
    | inr new => exact mem_append_right _ (mem_singleton.mpr (mem_singleton.mp new ▸ rfl))
  · exact fun owned member => owned_grows _ _ (inv.secrets owned member)
  · exact fun owned member => owned_grows _ _ (inv.copies owned member)
  · exact fun entry member => ⟨(inv.written entry member).1, mem_append_left _ (inv.written entry member).2⟩
  · exact fun key job mark running =>
      ⟨(inv.jobs key job mark running).1, mem_append_left _ (inv.jobs key job mark running).2⟩
  · intro key job remaining running
    have sweeping := inv.sweeps key job remaining running
    exact ⟨sweeping.deleting, sweeping.swept, sweeping.listed, sweeping.named⟩

theorem read_pull_inv (workloadNs credName : String) {canonical : OwnedSecret} (found : canonical ∈ board.world.secrets)
    (named : canonical.key = (sourcecredNamespace, pullSecretName credName)) :
    SweepInv { board with world := { board.world with
      copies := board.world.copies ++ [projectedCopy workloadNs credName canonical] } } := by
  have owns := inv.secrets canonical found
  have pull : canonical.secret.name = pullSecretName credName := congrArg Prod.snd named
  have same : credName = canonical.origin.2 := derived_name_inj .pull (pull ▸ owns.named)
  refine ⟨inv.late, inv.distinct, inv.creds, inv.secrets, ?_, inv.written, inv.jobs, ?_⟩
  · intro owned member
    cases mem_append.mp member with
    | inl earlier => exact inv.copies owned earlier
    | inr fresh =>
      rw [mem_singleton.mp fresh]
      exact ⟨same, same ▸ .copy, owns.known⟩
  · intro key job remaining running
    have sweeping := inv.sweeps key job remaining running
    exact ⟨sweeping.deleting, sweeping.swept, sweeping.listed, sweeping.named⟩

theorem project_inv {index : Nat} {copy : OwnedSecret} (found : board.world.copies[index]? = some copy)
    (unswept : copy.origin.2 ∉ board.world.swept) :
    SweepInv { board with world := { board.world.withOwned copy with copies := board.world.copies.eraseIdx index } } := by
  have owned := owned_inv board inv (inv.copies copy (mem_of_getElem? found))
    fun job remaining running => unswept (inv.sweeps _ job remaining running).swept
  refine quiet_inv { board with world := board.world.withOwned copy } owned _ ?_ fun _ => id
  exact ⟨rfl, rfl, fun cred member => ⟨cred, member, rfl⟩, fun _ => id, fun _ member => mem_of_mem_eraseIdx member⟩

theorem change_inv (change : FleetChange) (world : FleetWorld) (allowed : prudent board.world (.change change) = true)
    (changed : changeFleet board.world change = some world) : SweepInv { board with world := world } := by
  cases change with
  | create ns name uid spec =>
    simp only [changeFleet] at changed
    split at changed
    · cases changed
    · cases some.inj changed
      exact create_inv board inv allowed
  | edit key spec =>
    simp only [changeFleet] at changed
    split at changed
    · cases some.inj changed
      exact quiet_inv board inv _ (shrinks_creds board.world key fun _ => rfl) fun _ => id
    · cases changed
  | delete key timestamp =>
    cases some.inj changed
    exact quiet_inv board inv _ (shrinks_live board.world key _ fun _ => rfl) fun _ => id
  | plans plans =>
    cases some.inj changed
    exact quiet_inv board inv _ ⟨rfl, rfl, fun cred member => ⟨cred, member, rfl⟩, fun _ => id, fun _ => id⟩ fun _ => id
  | readPull workloadNs credName =>
    obtain ⟨canonical, found, rfl⟩ := map_eq_some_iff.mp changed
    exact read_pull_inv board inv workloadNs credName (mem_of_find?_eq_some found) (by simpa using find?_some found)
  | project index =>
    obtain ⟨copy, found, rfl⟩ := map_eq_some_iff.mp changed
    refine project_inv board inv found ?_
    simpa [prudent, found] using allowed
  | removeSecret key =>
    cases some.inj changed
    exact quiet_inv board inv _ (shrinks_without board.world key) fun _ => id
  | refuse refusing =>
    cases some.inj changed
    exact quiet_inv board inv _ ⟨rfl, rfl, fun cred member => ⟨cred, member, rfl⟩, fun _ => id, fun _ => id⟩ fun _ => id

variable {job : SourceCredential} {world : FleetWorld} {mark : SweepMark}

theorem begin_inv {sha256Hex : String → String} {prog : ScProg Requeue} (free : board.mark job.key = none)
    (begun : (fleet sha256Hex).begin board.world job = some (world, prog)) :
    SweepInv { board with world := world, mark := Function.update board.mark job.key (some (job, none)) } := by
  simp only [fleet] at begun
  split at begun
  · rename_i present
    cases some.inj begun
    have mine := inv.creds job (contains_iff_mem.mp present)
    have unswept := shrinks_inv board inv (board.world.unswept job.name)
      ⟨rfl, rfl, fun cred member => ⟨cred, member, rfl⟩, fun _ => id, fun _ => id⟩
      (swept_apart board inv job.name _ mine rfl rfl fun _ _ running => by rw [free] at running; cases running)
    refine set_inv { board with world := board.world.unswept job.name } unswept job.key _ ?_ ?_
    · intro cred mark same
      cases same
      exact ⟨rfl, mine⟩
    · intro cred remaining same
      cases same
  · cases begun

omit inv in
theorem kept_mark (found : board.mark job.key = some (job, mark)) (kept : SweepInv { board with world := world }) :
    SweepInv { board with world := world, mark := Function.update board.mark job.key (some (job, mark)) } := by
  rw [← found, Function.update_eq_self]
  exact kept

variable (fate : FleetFate)

theorem write_inv (after : FleetWorld) (kept : SweepInv { board with world := after }) :
    SweepInv { board with world := (writeFleet fate board.world after).2 } := by
  rw [writeFleet]
  split
  · exact kept
  · exact inv

theorem patch_inv (key : ObjectKey) {after : FleetWorld} (kept : SweepInv { board with world := after }) :
    SweepInv { board with world := (patchCred fate board.world key after).2 } := by
  rw [patchCred]
  split
  · exact write_inv board inv fate after kept
  · exact inv

theorem list_inv (found : board.mark job.key = some (job, mark)) (deleting : job.deletionTimestamp.isSome = true) :
    SweepInv { board with
      world := (serveFleet board.world fate (.listSecrets job.name)).2
      mark := Function.update board.mark job.key
        (some (job, sweepNext mark ⟨.listSecrets job.name, (serveFleet board.world fate (.listSecrets job.name)).1⟩)) } := by
  have swept : SweepInv { board with world := board.world.sweeps job.name } :=
    quiet_inv board inv _ ⟨rfl, rfl, fun cred member => ⟨cred, member, rfl⟩, fun _ => id, fun _ => id⟩
      fun _ member => mem_cons_of_mem _ member
  by_cases replied : fate.replied = true
  · simp only [serveFleet, ScFate.read, if_pos replied, sweepNext]
    refine set_inv { board with world := board.world.sweeps job.name } swept job.key _ ?_ ?_
    · intro cred mark same
      cases same
      exact ⟨rfl, (inv.jobs job.key job _ found).2⟩
    · intro cred remaining same
      cases same
      refine ⟨deleting, mem_cons_self, ?_, ?_⟩
      · intro owned member mine
        have labelled := (inv.secrets owned member).labelled
        rw [mine] at labelled
        exact mem_map.mpr ⟨owned, mem_filter.mpr ⟨member, beq_iff_eq.mpr labelled⟩, rfl⟩
      · intro target listed
        obtain ⟨owned, member, rfl⟩ := mem_map.mp listed
        obtain ⟨inside, labelled⟩ := mem_filter.mp member
        have owns := inv.secrets owned inside
        have same : owned.origin.2 = job.name := owns.labelled.symm.trans (eq_of_beq labelled)
        change DerivedName job.name owned.secret.name
        exact same ▸ owns.named
  · simp only [serveFleet, ScFate.read, if_neg replied, sweepNext]
    exact kept_mark board found swept

theorem delete_inv {ns name : String} {rest : List ObjectKey}
    (found : board.mark job.key = some (job, some ((ns, name) :: rest))) (accepting : board.world.refusing = false) :
    SweepInv { board with
      world := (serveFleet board.world fate (.deleteSecret ns name)).2
      mark := Function.update board.mark job.key (some (job, some rest)) } := by
  have served : (serveFleet board.world fate (.deleteSecret ns name)).2 = board.world.withoutSecret (ns, name) := by
    simp [serveFleet, accepting]
  rw [served]
  have deleted : SweepInv { board with world := board.world.withoutSecret (ns, name) } :=
    quiet_inv board inv _ (shrinks_without board.world (ns, name)) fun _ => id
  have sweeping := inv.sweeps job.key job _ found
  refine set_inv { board with world := board.world.withoutSecret (ns, name) } deleted job.key _ ?_ ?_
  · intro cred mark same
    cases same
    exact ⟨rfl, (inv.jobs job.key job _ found).2⟩
  · intro cred remaining same
    cases same
    refine ⟨sweeping.deleting, sweeping.swept, ?_, fun target member => sweeping.named target (mem_cons_of_mem _ member)⟩
    intro owned member mine
    obtain ⟨inside, apart⟩ := (Keyed.mem_discard _ _ _ owned).mp member
    exact (mem_cons.mp (sweeping.listed owned inside mine)).resolve_left apart

theorem finalizers_inv (job : SourceCredential) (mark : SweepMark) (fate : FleetFate) (finalizers : List String)
    (found : board.mark job.key = some (job, mark)) :
    SweepInv { board with
      world := (serveFleet board.world fate (.setFinalizers job.ns job.name finalizers)).2
      mark := Function.update board.mark job.key (some (job, none)) } := by
  have mine := (inv.jobs job.key job _ found).2
  have ended : SweepInv { board with mark := Function.update board.mark job.key (some (job, none)) } := by
    refine set_inv board inv job.key _ ?_ ?_
    · intro cred mark same
      cases same
      exact ⟨rfl, mine⟩
    · intro cred remaining same
      cases same
  refine patch_inv { board with mark := Function.update board.mark job.key (some (job, none)) } ended fate job.key ?_
  refine shrinks_inv _ ended _ ?_ ?_
  · obtain ⟨known, written, creds, secrets, copies⟩ := shrinks_live board.world job.key
      (fun cred => { cred with finalizers := finalizers }) fun _ => rfl
    exact ⟨known, written, creds, secrets, copies⟩
  · refine swept_apart { board with mark := Function.update board.mark job.key (some (job, none)) } ended job.name job.key
      mine rfl rfl ?_
    intro cred remaining running
    change Function.update board.mark job.key _ job.key = _ at running
    rw [Function.update_self] at running
    cases running

theorem serve_inv {request : ScRequest} (found : board.mark job.key = some (job, mark)) (asked : sweepAllowed job mark request)
    (allowed : prudent board.world (.serve job request) = true) :
    SweepInv { board with
      world := (serveFleet board.world fate request).2
      mark := Function.update board.mark job.key
        (some (job, sweepNext mark ⟨request, (serveFleet board.world fate request).1⟩)) } := by
  have same : ∀ world, Shrinks board.world world → world.swept = board.world.swept → SweepInv { board with world := world } :=
    fun world shrinks swept => quiet_inv board inv world shrinks fun _ member => swept ▸ member
  cases request with
  | listSecrets name =>
    obtain ⟨deleting, rfl⟩ := asked
    exact list_inv board inv fate found deleting
  | deleteSecret ns name =>
    obtain ⟨_, rest, rfl⟩ := asked
    exact delete_inv board inv fate found (by simpa [prudent] using allowed)
  | setFinalizers ns name finalizers =>
    obtain ⟨mine, _, _⟩ := asked
    cases mine
    exact finalizers_inv board inv job mark fate finalizers found
  | applySecret secret source =>
    obtain ⟨living, mine, labelled, named⟩ := asked
    refine kept_mark board found (write_inv board inv fate _ ?_)
    refine owned_inv board inv ?_ ?_
    · rw [mine]
      exact ⟨labelled, named, (inv.jobs job.key job _ found).2⟩
    · intro cred remaining running
      rw [show ((⟨secret, (source.ns, source.name)⟩ : OwnedSecret).origin) = job.key from mine, found] at running
      cases running
      exact Bool.false_ne_true (living.symm.trans (inv.sweeps job.key job remaining found).deleting)
  | applyStatus ns name status =>
    exact kept_mark board found (patch_inv board inv fate _ (same _ (shrinks_creds board.world (ns, name) fun _ => rfl) rfl))
  | deletePlan | applyPlan =>
    exact kept_mark board found (write_inv board inv fate _ (same _ ⟨rfl, rfl,
      fun cred member => ⟨cred, member, rfl⟩, fun _ => id, fun _ => id⟩ rfl))
  | _ => exact kept_mark board found inv

end Keeps

theorem fleet_keeps (sha256Hex : String → String) : (fleet sha256Hex).Keeps sweepMonitor prudent SweepInv where
  changes board change world inv allowed changed := change_inv board inv change world allowed changed
  begins board job world prog inv free _ begun := begin_inv board inv free begun
  serves board job mark _ fate inv found asked allowed := serve_inv board inv fate found asked allowed
  drops board key inv := set_inv board inv key none (fun _ _ none_ => nomatch none_) (fun _ _ none_ => nomatch none_)
  leaves board job mark request inv _ _ lingers := nomatch lingers
  commits board index job request fate inv left _ := by
    rw [inv.late] at left
    cases left

theorem fleet_runs {sha256Hex : String → String} {state : FleetState}
    (reachable : ((fleet sha256Hex).obeying prudent).Reachable state) :
    SweepInv (Fleet.board sweepMonitor state) ∧ (fleet sha256Hex).Followed sweepMonitor state := by
  refine (fleet sha256Hex).keeps_reachable sweepMonitor prudent SweepInv (fleet_keeps sha256Hex) ?_ ?_ state reachable
  · intro world job after prog _ begun
    simp only [fleet] at begun
    split at begun
    · cases some.inj begun
      exact reconcile_follows sha256Hex job none
    · cases begun
  · intro world ⟨creds, secrets, copies, known, written⟩
    refine ⟨rfl, ?_, ?_, ?_, ?_, ?_, ?_, ?_⟩
    · intro one first
      rw [known] at first
      cases first
    · intro cred member
      rw [creds] at member
      cases member
    · intro owned member
      rw [secrets] at member
      cases member
    · intro owned member
      rw [copies] at member
      cases member
    · intro entry member
      rw [written] at member
      cases member
    · intro key job mark running
      cases running
    · intro key job remaining running
      cases running

end AppRafter.Credential
