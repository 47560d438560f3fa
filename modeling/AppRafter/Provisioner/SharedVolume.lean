import AppRafter.Lib.Solo
import AppRafter.Provisioner.Pool

set_option autoImplicit false

namespace AppRafter.Provisioner

open Lib List Option

def seconds (n : Nat) : Nat := n * 1000

def deleteSettle : Nat := seconds 65

-- How long a request that nobody waits for any more may still commit.
def requestTimeout : Nat := seconds 60

def svPvcFinalizer : String := "apprafter.io/sharedvolume-pvc-cleanup"

def defaultStorageClass : String := "local-path"

structure SharedVolume where
  ns : String
  name : String
  size : String
  deletionTimestamp : Option Nat := none
  finalizers : List String := []
deriving DecidableEq

def svPvcName (sv : SharedVolume) : String := "sv-" ++ sv.ns ++ "-" ++ sv.name

-- The calls, and the uses of the failed-pass record. A call cut by the deadline fails.
inductive SvRequest where
  | deletePvc (name : String)
  | settleRemaining
  | noteUnsettled
  | setFinalizers (keep : Bool)
  | selectProvider
  | countReferences
  | applyPvc (name size storageClass : String)
  | sampleCapacity
  | publishEvent
  | patchStatus (ready : Bool)

def svApi : Api where
  Request := SvRequest
  Response
    | .settleRemaining => Option Nat
    | .selectProvider => Option (Option (Option String))
    | .countReferences => Option Nat
    | .sampleCapacity => Option Bool
    | _ => Bool

inductive SvError where
  | call

abbrev SvProg := Prog svApi SvError (Option Nat)

section Volume

variable (sv : SharedVolume)

def svAttempt (request : SvRequest) (ok : svApi.Response request → Bool) (next : SvProg) : SvProg :=
  .call request fun response => if ok response then next else .fail .call

def reportVolume (ready : Bool) (requeue : Nat) : SvProg := svAttempt (.patchStatus ready) id (.done (some (seconds requeue)))

-- The Event is sent where the figure has crossed the threshold.
def sampleVolume : SvProg :=
  .call .sampleCapacity fun emits => match emits with
    | none => .fail .call
    | some false => reportVolume true 300
    | some true => svAttempt .publishEvent id (reportVolume true 300)

def provisionVolume : SvProg :=
  .call .selectProvider fun found => match found with
    | none => .fail .call
    | some none => svAttempt .countReferences Option.isSome (reportVolume false 60)
    | some (some storageClass) =>
      svAttempt (.applyPvc (svPvcName sv) sv.size (storageClass.getD defaultStorageClass)) id <|
      svAttempt .countReferences Option.isSome sampleVolume

-- A DELETE that finds nothing went through.
def deleteVolume : SvProg :=
  svAttempt (.deletePvc (svPvcName sv)) id <| .call .settleRemaining fun wait => match wait with
    | some wait => .done (some wait)
    | none => svAttempt (.setFinalizers false) id (.done none)

def reconcileSharedVolume : SvProg :=
  match sv.deletionTimestamp with
  | some _ => if sv.finalizers.contains svPvcFinalizer then deleteVolume sv else .done none
  | none =>
    if sv.finalizers.contains svPvcFinalizer then provisionVolume sv
    else svAttempt (.setFinalizers true) id (provisionVolume sv)

def noted : SvProg → SvProg
  | .done value => .done value
  | .fail error => .call .noteUnsettled fun _ => .fail error
  | .call request next => .call request fun response => noted (next response)

-- A failed pass of a volume that is not being deleted is put on record.
def reconcileSharedVolumeWithDeadline : SvProg :=
  if sv.deletionTimestamp.isNone then noted (reconcileSharedVolume sv) else reconcileSharedVolume sv

end Volume

-- Late applies stand by when their pass gave up; `deletedAt` is the last DELETE.
structure SvWorld where
  sv : SharedVolume
  now : Nat := 0
  released : Bool := false
  pvc : Bool := false
  inflight : List Nat := []
  unsettled : Option Nat := none
  deletedAt : Nat := 0

structure SvFate where
  answer : (request : SvRequest) → svApi.Response request
  applied : Bool

variable (world : SvWorld)

def settleRemaining : Option Nat × SvWorld :=
  match world.unsettled with
  | none => (none, world)
  | some failedAt =>
    if world.now - failedAt < deleteSettle then (some (deleteSettle - (world.now - failedAt)), world)
    else (none, { world with unsettled := none })

def serveSv (fate : SvFate) : (request : SvRequest) → svApi.Response request × SvWorld
  | .deletePvc name =>
    let ok := fate.answer (.deletePvc name)
    (ok, if ok || fate.applied then { world with pvc := false, deletedAt := world.now } else world)
  | .settleRemaining => settleRemaining world
  | .noteUnsettled => (true, { world with unsettled := some world.now })
  | .setFinalizers keep =>
    let ok := fate.answer (.setFinalizers keep)
    (ok, if ok || fate.applied then
        { world with
          sv := { world.sv with finalizers := withFinalizer world.sv.finalizers svPvcFinalizer keep }
          released := world.released || !keep }
      else world)
  | .applyPvc name size storageClass =>
    let ok : Bool := fate.answer (.applyPvc name size storageClass)
    (ok, if ok then { world with pvc := true } else { world with inflight := world.now :: world.inflight })
  | .selectProvider => (fate.answer .selectProvider, world)
  | .countReferences => (fate.answer .countReferences, world)
  | .sampleCapacity => (fate.answer .sampleCapacity, world)
  | .publishEvent => (fate.answer .publishEvent, world)
  | .patchStatus ready => (fate.answer (.patchStatus ready), world)

inductive SvChange where
  | tick (passed : Nat)
  | delete (time : Nat)
  | commit (index : Nat)

def changeSv : SvChange → Option SvWorld
  | .tick passed => some { world with now := world.now + passed }
  | .delete time =>
    if world.sv.deletionTimestamp.isSome then none
    else some { world with sv := { world.sv with deletionTimestamp := some time } }
  | .commit index =>
    (world.inflight[index]?).bind fun left =>
      if world.now ≤ left + requestTimeout then
        some { world with pvc := true, inflight := world.inflight.eraseIdx index }
      else none

def svFleet : Fleet svApi SvError (Option Nat) SvWorld Unit SharedVolume SvFate SvChange where
  initial world := world.released = false ∧ world.inflight = [] ∧ world.unsettled = none ∧ world.sv.deletionTimestamp = none
  key _ := ()
  begin world sv := if world.released = false ∧ sv = world.sv then
      some (world, reconcileSharedVolumeWithDeadline sv)
    else none
  serve := serveSv
  lingers _ := false
  change := changeSv

-- The pass's own DELETE came when no apply of the failed one could commit any more.
def svPermits : Fleet.Event svApi SharedVolume SvChange → Bool
  | .serve _ .settleRemaining => match world.unsettled with
    | none => true
    | some failedAt => decide (world.now - failedAt < deleteSettle) || decide (failedAt + requestTimeout < world.deletedAt)
  | _ => true

def Orphanless : Prop := world.pvc = false ∧ ∀ left ∈ world.inflight, left + requestTimeout < world.now

def svSafe : Prop := world.released = true → Orphanless world

structure SvInv (world : SvWorld) : Prop where
  safe : svSafe world
  past : ∀ left ∈ world.inflight, left ≤ world.now
  noted : ∀ left ∈ world.inflight, left + requestTimeout < world.now ∨ ∃ failedAt, world.unsettled = some failedAt ∧ left ≤ failedAt
  recorded : ∀ failedAt, world.unsettled = some failedAt → failedAt ≤ world.now

theorem sv_change_cases {before after : SvWorld} (changed : svFleet.Changes svPermits before after) :
    (∃ passed, after = { before with now := before.now + passed }) ∨
    (∃ sv, after = { before with sv := sv }) ∨
    ∃ index left, left ∈ before.inflight ∧ before.now ≤ left + requestTimeout ∧
      after = { before with pvc := true, inflight := before.inflight.eraseIdx index } := by
  obtain ⟨change, -, moved⟩ := changed
  cases change with
  | tick passed =>
    cases moved
    exact .inl ⟨passed, rfl⟩
  | delete time =>
    simp only [svFleet, changeSv] at moved
    split at moved
    · cases moved
    · cases moved
      exact .inr (.inl ⟨_, rfl⟩)
  | commit index =>
    obtain ⟨left, found, moved⟩ := bind_eq_some_iff.mp moved
    split at moved
    · rename_i early
      cases moved
      exact .inr (.inr ⟨index, left, mem_of_getElem? found, early, rfl⟩)
    · cases moved

theorem orphanless_stable {before after : SvWorld} (clean : Orphanless before) (changed : svFleet.Changes svPermits before after) :
    Orphanless after := by
  obtain ⟨passed, rfl⟩ | ⟨sv, rfl⟩ | ⟨index, left, there, early, rfl⟩ := sv_change_cases changed
  · refine ⟨clean.1, ?_⟩
    intro left there
    have expired := clean.2 left there
    change _ < before.now + passed
    omega
  · exact clean
  · have expired := clean.2 left there
    omega

variable (before after : SvWorld)

theorem sv_safe_stable (safe : svSafe before) (changed : svFleet.Changes svPermits before after) : svSafe after := by
  intro released
  apply orphanless_stable (safe ?_) changed
  obtain ⟨passed, rfl⟩ | ⟨sv, rfl⟩ | ⟨index, left, there, early, rfl⟩ := sv_change_cases changed
  · exact released
  · exact released
  · exact released

theorem sv_inv_stable (inv : SvInv before) (changed : svFleet.Changes svPermits before after) :
    SvInv after := by
  have safe := sv_safe_stable _ after inv.safe changed
  obtain ⟨passed, rfl⟩ | ⟨sv, rfl⟩ | ⟨index, left, there, early, rfl⟩ := sv_change_cases changed
  · constructor
    · exact safe
    · intro left there
      have known := inv.past left there
      change left ≤ before.now + passed
      omega
    · intro left there
      rcases inv.noted left there with expired | record
      · left
        change _ < before.now + passed
        omega
      · exact .inr record
    · intro failedAt record
      have known := inv.recorded failedAt record
      change failedAt ≤ before.now + passed
      omega
  · exact { inv with safe := safe }
  · constructor
    · exact safe
    · intro other kept
      exact inv.past other (mem_of_mem_eraseIdx kept)
    · intro other kept
      exact inv.noted other (mem_of_mem_eraseIdx kept)
    · exact inv.recorded

def SvGuards (job : SharedVolume) (prog : SvProg) (world : SvWorld) : Prop :=
  svFleet.Guards svPermits SvInv svSafe (fun _ _ _ => True) job prog world

theorem sv_guards_call (job : SharedVolume) (request : SvRequest) (next : svApi.Response request → SvProg)
    (facts : SvWorld → Prop) (safe : ∀ world, facts world → svSafe world)
    (stable : ∀ before after, facts before → svFleet.Changes svPermits before after → facts after) (world : SvWorld)
    (holds : facts world)
    (rest : ∀ later, facts later → svPermits later (.serve job request) = true →
      ∀ fate, SvGuards job (next (serveSv later fate request).1) (serveSv later fate request).2) :
    SvGuards job (.call request next) world := by
  apply svFleet.guards_facts svPermits SvInv svSafe _ facts safe stable job _ next world holds
  intro later now permit
  exact ⟨trivial, rest later now permit⟩

section Provision

variable (job : SharedVolume)

structure Keeping (world : SvWorld) : Prop where
  held : world.released = false
  inv : SvInv world

theorem held_stable (held : before.released = false) (changed : svFleet.Changes svPermits before after) :
    after.released = false := by
  obtain ⟨passed, rfl⟩ | ⟨sv, rfl⟩ | ⟨index, left, there, early, rfl⟩ := sv_change_cases changed
  · exact held
  · exact held
  · exact held

theorem keeping_stable (keeping : Keeping before) (changed : svFleet.Changes svPermits before after) :
    Keeping after :=
  ⟨held_stable _ after keeping.held changed, sv_inv_stable _ after keeping.inv changed⟩

theorem held_safe (held : world.released = false) : svSafe world := by
  intro released
  rw [held] at released
  cases released

variable {request : SvRequest} {world : SvWorld} {next : SvProg}

theorem keeping_guards {next : svApi.Response request → SvProg} (keeping : Keeping world)
    (rest : ∀ later, Keeping later → svPermits later (.serve job request) = true →
      ∀ fate, SvGuards job (next (serveSv later fate request).1) (serveSv later fate request).2) :
    SvGuards job (.call request next) world :=
  sv_guards_call job _ next _ (fun _ keeping => keeping.inv.safe) keeping_stable world keeping rest

theorem failure_guards (world : SvWorld) (held : world.released = false) (past : ∀ left ∈ world.inflight, left ≤ world.now) :
    SvGuards job (noted (.fail .call)) world := by
  apply sv_guards_call job .noteUnsettled _ (fun world => world.released = false ∧ ∀ left ∈ world.inflight, left ≤ world.now)
    (fun world facts => held_safe world facts.1) _ world ⟨held, past⟩
  · intro later facts permit fate
    constructor
    · exact held_safe _ facts.1
    · exact facts.2
    · intro left there
      exact .inr ⟨later.now, rfl, facts.2 left there⟩
    · intro failedAt record
      cases record
      exact Nat.le_refl _
  · intro before after facts changed
    refine ⟨held_stable _ after facts.1 changed, ?_⟩
    obtain ⟨passed, rfl⟩ | ⟨sv, rfl⟩ | ⟨index, left, there, early, rfl⟩ := sv_change_cases changed
    · intro left there
      have known := facts.2 left there
      change left ≤ before.now + passed
      omega
    · exact facts.2
    · intro other kept
      exact facts.2 other (mem_of_mem_eraseIdx kept)

theorem attempt_guards (ok : svApi.Response request → Bool)
    (keeping : Keeping world) (keeps : ∀ later fate, Keeping later → Keeping (serveSv later fate request).2)
    (rest : ∀ later, Keeping later → SvGuards job (noted next) later) :
    SvGuards job (noted (svAttempt request ok next)) world := by
  apply keeping_guards job keeping
  intro later now permit fate
  have after := keeps later fate now
  dsimp only
  by_cases went : ok (serveSv later fate request).1 = true
  · rw [if_pos went]
    exact rest _ after
  · rw [if_neg went]
    exact failure_guards job _ after.held after.inv.past

theorem report_volume_guards (ready : Bool) (requeue : Nat) (world : SvWorld) (keeping : Keeping world) :
    SvGuards job (noted (reportVolume ready requeue)) world :=
  attempt_guards job _ keeping (fun _ _ now => now) fun _ now => now.inv

theorem sample_guards (keeping : Keeping world) : SvGuards job (noted sampleVolume) world := by
  apply keeping_guards job keeping
  intro later now permit fate
  generalize (serveSv later fate .sampleCapacity).1 = emits
  cases emits with
  | none => exact failure_guards job later now.held now.inv.past
  | some emits =>
    cases emits with
    | false => exact report_volume_guards job true 300 later now
    | true =>
      exact attempt_guards job _ now (fun _ _ now => now) fun later now =>
        report_volume_guards job true 300 later now

theorem apply_guards (name size storageClass : String) (keeping : Keeping world)
    (rest : ∀ later, Keeping later → SvGuards job (noted next) later) :
    SvGuards job (noted (svAttempt (.applyPvc name size storageClass) id next)) world := by
  apply keeping_guards job keeping
  intro later now permit fate
  have outcome : ∀ ok : Bool, SvGuards job (noted (if ok then next else .fail .call))
      (if ok then { later with pvc := true } else { later with inflight := later.now :: later.inflight }) := by
    intro ok
    cases ok with
    | true => exact rest _ ⟨now.held, { now.inv with safe := held_safe _ now.held }⟩
    | false =>
      apply failure_guards job { later with inflight := later.now :: later.inflight } now.held
      exact forall_mem_cons.mpr ⟨Nat.le_refl _, now.inv.past⟩
  exact outcome (fate.answer (.applyPvc name size storageClass))

theorem provision_volume_guards (keeping : Keeping world) : SvGuards job (noted (provisionVolume job)) world := by
  apply keeping_guards job keeping
  intro later now permit fate
  generalize (serveSv later fate .selectProvider).1 = found
  cases found with
  | none => exact failure_guards job later now.held now.inv.past
  | some found =>
    cases found with
    | none =>
      exact attempt_guards job _ now (fun _ _ now => now) fun later now =>
        report_volume_guards job false 60 later now
    | some storageClass =>
      apply apply_guards job _ _ _ now
      intro later now
      exact attempt_guards job _ now (fun _ _ now => now) fun later now => sample_guards job now

end Provision

section Delete

variable (job : SharedVolume)

structure VolumeSettled (world : SvWorld) : Prop where
  held : world.released = false
  unrecorded : world.unsettled = none
  past : ∀ left ∈ world.inflight, left ≤ world.now
  clean : Orphanless world

-- After a DELETE with one: the PVC can be back only if the DELETE came too early.
structure Settling (failedAt : Nat) (world : SvWorld) : Prop where
  held : world.released = false
  record : world.unsettled = some failedAt
  past : ∀ left ∈ world.inflight, left ≤ world.now
  failed : failedAt ≤ world.now
  deleted : world.deletedAt ≤ world.now
  known : ∀ left ∈ world.inflight, left ≤ failedAt ∨ left + requestTimeout < world.deletedAt
  gone : failedAt + requestTimeout < world.deletedAt → world.pvc = false

theorem past_stable {before after : SvWorld} (past : ∀ left ∈ before.inflight, left ≤ before.now)
    (changed : svFleet.Changes svPermits before after) : ∀ left ∈ after.inflight, left ≤ after.now := by
  obtain ⟨passed, rfl⟩ | ⟨sv, rfl⟩ | ⟨index, left, there, early, rfl⟩ := sv_change_cases changed
  · intro left there
    have known := past left there
    change left ≤ before.now + passed
    omega
  · exact past
  · intro other kept
    exact past other (mem_of_mem_eraseIdx kept)

theorem record_stable {before after : SvWorld} (changed : svFleet.Changes svPermits before after) :
    after.unsettled = before.unsettled := by
  obtain ⟨passed, rfl⟩ | ⟨sv, rfl⟩ | ⟨index, left, there, early, rfl⟩ := sv_change_cases changed
  · rfl
  · rfl
  · rfl

theorem settled_stable (settled : VolumeSettled before) (changed : svFleet.Changes svPermits before after) :
    VolumeSettled after :=
  { held := held_stable _ after settled.held changed
    unrecorded := (record_stable changed).trans settled.unrecorded
    past := past_stable settled.past changed
    clean := orphanless_stable settled.clean changed }

variable {failedAt : Nat} {world : SvWorld}

theorem settling_stable (before after : SvWorld) (settling : Settling failedAt before)
    (changed : svFleet.Changes svPermits before after) : Settling failedAt after := by
  have held := held_stable _ after settling.held changed
  have record := (record_stable changed).trans settling.record
  have past := past_stable settling.past changed
  have failed := settling.failed
  have deleted := settling.deleted
  obtain ⟨passed, rfl⟩ | ⟨sv, rfl⟩ | ⟨index, left, there, early, rfl⟩ := sv_change_cases changed
  · exact ⟨held, record, past, Nat.le_add_right_of_le failed, Nat.le_add_right_of_le deleted, settling.known, settling.gone⟩
  · exact ⟨held, record, past, failed, deleted, settling.known, settling.gone⟩
  · refine ⟨held, record, past, failed, deleted, ?_, ?_⟩
    · intro other kept
      exact settling.known other (mem_of_mem_eraseIdx kept)
    · intro late
      change failedAt + requestTimeout < before.deletedAt at late
      have known := settling.known left there
      omega

theorem release_volume_guards (settled : VolumeSettled world) :
    SvGuards job (svAttempt (.setFinalizers false) id (.done none)) world := by
  apply sv_guards_call job _ _ _ (fun world settled => held_safe world settled.held) settled_stable world settled
  intro later now permit fate
  have kept : SvInv later :=
    { safe := held_safe later now.held
      past := now.past
      noted := fun left there => .inl (now.clean.2 left there)
      recorded := fun failedAt record => by rw [now.unrecorded] at record; cases record }
  have after : SvInv (serveSv later fate (.setFinalizers false)).2 := by
    simp only [serveSv]
    split
    · exact { kept with safe := fun _ => now.clean }
    · exact kept
  generalize serveSv later fate _ = served at after ⊢
  obtain ⟨ok, written⟩ := served
  cases ok <;> exact after

theorem settling_inv (settling : Settling failedAt world) : SvInv world := by
  constructor
  · exact held_safe world settling.held
  · exact settling.past
  · intro left there
    rcases settling.known left there with before | expired
    · exact .inr ⟨failedAt, settling.record, before⟩
    · have deleted := settling.deleted
      exact .inl (by omega)
  · intro other record
    rw [settling.record] at record
    cases record
    exact settling.failed

theorem settling_over (settling : Settling failedAt world)
    (late : failedAt + requestTimeout < world.deletedAt) : VolumeSettled { world with unsettled := none } := by
  refine ⟨settling.held, rfl, settling.past, settling.gone late, ?_⟩
  intro left there
  have deleted := settling.deleted
  change left + requestTimeout < world.now
  rcases settling.known left there with before | expired
  · omega
  · omega

theorem settle_guards (after : VolumeSettled world ∨ ∃ failedAt, Settling failedAt world) :
    SvGuards job (.call .settleRemaining fun wait => match wait with
      | some wait => .done (some wait)
      | none => svAttempt (.setFinalizers false) id (.done none)) world := by
  rcases after with settled | ⟨failedAt, settling⟩
  · apply sv_guards_call job _ _ _ (fun world settled => held_safe world settled.held) settled_stable world settled
    intro later now permit fate
    simp only [serveSv, settleRemaining, now.unrecorded]
    exact release_volume_guards job now
  · apply sv_guards_call job _ _ (Settling failedAt) (fun world settling => held_safe world settling.held)
      settling_stable world settling
    intro later now permit fate
    simp only [svPermits, now.record, Bool.or_eq_true, decide_eq_true_eq] at permit
    simp only [serveSv, settleRemaining, now.record]
    by_cases early : later.now - failedAt < deleteSettle
    · rw [if_pos early]
      exact settling_inv now
    · rw [if_neg early]
      exact release_volume_guards job (settling_over now (permit.resolve_left early))

theorem deleted_stands {later : SvWorld} (now : Keeping later) :
    VolumeSettled { later with pvc := false, deletedAt := later.now } ∨
      ∃ failedAt, Settling failedAt { later with pvc := false, deletedAt := later.now } := by
  cases record : later.unsettled with
  | none =>
    left
    refine ⟨now.held, rfl, now.inv.past, rfl, ?_⟩
    intro left there
    rcases now.inv.noted left there with expired | ⟨failedAt, recorded, -⟩
    · exact expired
    · rw [record] at recorded
      cases recorded
  | some failedAt =>
    right
    refine ⟨failedAt, now.held, rfl, now.inv.past, now.inv.recorded failedAt record, Nat.le_refl _, ?_, fun _ => rfl⟩
    intro left there
    rcases now.inv.noted left there with expired | ⟨other, recorded, before⟩
    · exact .inr expired
    · rw [record] at recorded
      cases recorded
      exact .inl before

theorem delete_volume_guards (keeping : Keeping world) : SvGuards job (deleteVolume job) world := by
  apply keeping_guards job keeping
  intro later now permit fate
  have outcome : ∀ ok : Bool, SvGuards job (if ok then
        .call .settleRemaining fun wait => match wait with
          | some wait => .done (some wait)
          | none => svAttempt (.setFinalizers false) id (.done none)
      else .fail .call)
      (if ok || fate.applied then { later with pvc := false, deletedAt := later.now } else later) := by
    intro ok
    cases ok with
    | true => exact settle_guards job (deleted_stands now)
    | false =>
      by_cases applied : fate.applied = true
      · rw [applied]
        exact { now.inv with safe := held_safe _ now.held }
      · rw [Bool.eq_false_iff.mpr applied]
        exact now.inv
  exact outcome (fate.answer (.deletePvc (svPvcName job)))

end Delete

theorem reconcile_volume_guards (job : SharedVolume) {world : SvWorld} (keeping : Keeping world) :
    SvGuards job (reconcileSharedVolumeWithDeadline job) world := by
  unfold reconcileSharedVolumeWithDeadline reconcileSharedVolume
  cases dying : job.deletionTimestamp with
  | some time =>
    simp only [isNone_some, Bool.false_eq_true, if_false]
    split
    · exact delete_volume_guards job keeping
    · exact keeping.inv
  | none =>
    simp only [isNone_none, if_true]
    split
    · exact provision_volume_guards job keeping
    · apply attempt_guards job _ keeping _ fun later now => provision_volume_guards job now
      intro later fate now
      simp only [serveSv]
      split
      · refine ⟨?_, { now.inv with safe := held_safe _ ?_ }⟩ <;> rw [now.held] <;> rfl
      · exact now

theorem sv_sound : svFleet.Sound svPermits false SvInv svSafe fun _ _ _ => True where
  initially := by
    rintro world ⟨held, none, unrecorded, -⟩
    constructor
    · exact held_safe world held
    · intro left there
      rw [none] at there
      cases there
    · intro left there
      rw [none] at there
      cases there
    · intro failedAt record
      rw [unrecorded] at record
      cases record
  inv_safe := fun _ inv => inv.safe
  cut := fun cuts => by cases cuts
  inv_stable := sv_inv_stable
  safe_stable := sv_safe_stable
  begins := by
    intro before job after prog inv permit begun
    simp only [svFleet] at begun
    split at begun
    · rename_i current
      cases begun
      exact reconcile_volume_guards job ⟨current.1, inv⟩
    · cases begun

abbrev SvState := Fleet.State svApi SvError (Option Nat) SvWorld Unit SharedVolume

theorem released_orphanless (state : SvState) (reachable : (svFleet.solo svPermits false).Reachable state)
    (released : state.world.released = true) : Orphanless state.world :=
  Fleet.solo_safe sv_sound reachable released

abbrev SvAction := Fleet.Action Unit SharedVolume SvFate SvChange

def svAnswer (served : Bool) : (request : SvRequest) → svApi.Response request
  | .deletePvc _ => true
  | .settleRemaining => none
  | .noteUnsettled => true
  | .setFinalizers _ => true
  | .selectProvider => some (some none)
  | .countReferences => some 0
  | .applyPvc _ _ _ => served
  | .sampleCapacity => some false
  | .publishEvent => true
  | .patchStatus _ => true

def svFate (served : Bool) : SvFate := { answer := svAnswer served, applied := true }

def mediaVolume : SharedVolume := { ns := "apps", name := "media", size := "5Gi", finalizers := [svPvcFinalizer] }

def unsettledRun : List SvAction :=
  [.begin mediaVolume, .reply () (svFate true), .reply () (svFate false), .reply () (svFate true), .drop (), .change (.delete 1)]

def deletePass (waits : List SvAction) : List SvAction :=
  [.begin { mediaVolume with deletionTimestamp := some 1 }, .reply () (svFate true)] ++ waits ++
    [.reply () (svFate true), .reply () (svFate true)]

theorem media_orphanless :
    ∃ state, (svFleet.solo svPermits false).Reachable state ∧ state.world.released = true ∧ state.world.inflight ≠ [] ∧
      Orphanless state.world := by
  have finished : ((svFleet.solo svPermits false).run (Fleet.start { sv := mediaVolume })
      (unsettledRun ++ [.change (.tick 65000)] ++ deletePass [])).map
        (fun state => (state.world.released, state.world.inflight.isEmpty)) = some (true, false) := by
    decide +kernel
  obtain ⟨state, reachable, facts⟩ := System.run_shows _ finished ⟨_, ⟨rfl, rfl, rfl, rfl⟩, rfl⟩
  obtain ⟨released, left⟩ := Prod.mk.inj facts
  refine ⟨state, reachable, released, ?_, released_orphanless state reachable released⟩
  intro none
  rw [none] at left
  cases left

-- The DELETE is answered 56 seconds later; the apply commits in between.
theorem late_apply_orphan :
    ∃ state, (svFleet.solo (fun _ _ => true) false).Reachable state ∧ state.world.released = true ∧ ¬Orphanless state.world := by
  have finished : ((svFleet.solo (fun _ _ => true) false).run (Fleet.start { sv := mediaVolume })
      (unsettledRun ++ [.change (.tick 10000)] ++
        deletePass [.change (.tick 40000), .change (.commit 0), .change (.tick 16000)])).map
        (fun state => (state.world.released, state.world.pvc)) = some (true, true) := by
    decide +kernel
  obtain ⟨state, reachable, facts⟩ := System.run_shows _ finished ⟨_, ⟨rfl, rfl, rfl, rfl⟩, rfl⟩
  obtain ⟨released, present⟩ := Prod.mk.inj facts
  refine ⟨state, reachable, released, ?_⟩
  intro clean
  rw [clean.1] at present
  cases present

end AppRafter.Provisioner
