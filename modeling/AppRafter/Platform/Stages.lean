import AppRafter.Platform.Gate
import AppRafter.Platform.Written

set_option autoImplicit false

namespace AppRafter.Platform

open Lib List Option

def Carries (stack : PlatformStack) (new : PlatformStackStatus) : Prop :=
  ∃ recorded, withoutReconcileStalled stack.prior = { platformControllerView new with versionHistory := recorded }

section Carries

variable {stack : PlatformStack} {new : PlatformStackStatus} (carries : Carries stack new)

include carries

theorem carries_find {type : String} (apart : type ≠ condReconcileStalled) :
    findCondition stack.conditions type = findCondition new.conds type := by
  obtain ⟨recorded, same⟩ := carries
  have listed : dropStalled stack.conditions = (platformControllerView new).conds := by
    have conds := congrArg PlatformStackStatus.conds same
    rw [without_conds] at conds
    exact conds
  rw [← find_unstalled stack.conditions apart, listed, view_conds, find_first_of_each _ [] type not_mem_nil,
    find_unstalled _ apart]

theorem carries_view : withoutReconcileStalled stack.prior = platformControllerView stack.prior := by
  obtain ⟨recorded, same⟩ := carries
  have conditions : (withoutReconcileStalled stack.prior).conditions = (platformControllerView new).conditions := by
    rw [same]
  have first : (platformControllerView new).conditions.map (firstOfEach []) = (platformControllerView new).conditions := by
    cases held : (platformControllerView new).conditions with
    | none => rfl
    | some listed =>
      have conds : (platformControllerView new).conds = listed := by
        rw [PlatformStackStatus.conds, held]
        rfl
      have once := view_once new
      rw [conds] at once
      rw [map_some, first_of_each_self _ [] once fun _ _ => not_mem_nil]
  change _ = { withoutReconcileStalled stack.prior with
    conditions := (withoutReconcileStalled stack.prior).conditions.map (firstOfEach []) }
  rw [conditions, first, ← conditions]

theorem carries_updates (now : String → String) {updates : List Update}
    (holds : ∀ update ∈ updates, update.Holds new ∧ update.type ≠ condReconcileStalled) :
    runUpdates stack.conditions now stack.prior updates = stack.prior := by
  refine updates_settled now stack.prior fun update member => ?_
  obtain ⟨held, apart⟩ := holds update member
  exact holds_of_find new (carries_find carries apart) held

theorem carries_fields : stack.prior.currentVersion = new.currentVersion ∧ stack.prior.targetVersion = new.targetVersion ∧
    stack.prior.availableVersion = new.availableVersion ∧ stack.prior.lastUpstreamCheck = new.lastUpstreamCheck := by
  obtain ⟨recorded, same⟩ := carries
  have current := congrArg PlatformStackStatus.currentVersion same
  have target := congrArg PlatformStackStatus.targetVersion same
  have available := congrArg PlatformStackStatus.availableVersion same
  have checked := congrArg PlatformStackStatus.lastUpstreamCheck same
  exact ⟨current, target, available, checked⟩

end Carries

-- The updates of one pass, those of the upstream apart, have a type each.
section Types

variable (stack : PlatformStack) (latest : Latest) (verdicts : Verdict × Verdict) (parent : Parent) (wanted : String)
variable (decision : Decision) (sample : Option Wording)

theorem verdict_type (type : String) (verdict : Verdict) : (verdictUpdate type verdict).type = type := by
  cases verdict <;> rfl

def backupUpdates : List Update := [verdictUpdate condBackupHealthy verdicts.1, verdictUpdate condBackupRetention verdicts.2]

def ownUpdates : List Update :=
  [.upsert condUpgradeAvailable (upgradeWording stack latest decision),
    .upsert condMigrationPending (migrationWording parent.targetRevision wanted decision),
    .upsert condSynced (syncedWording stack parent wanted decision),
    .upsert condUnauthorizedSourceModification (unauthorizedWording parent),
    .upsert condReady (readyWording parent decision)] ++
    (sample.map (Update.upsert condNodeDiskPressure)).toList

def docUpdates : List Update := (latest.doc.map fun doc => Update.upsert condYankedVersion (yankedWording doc decision)).toList

def mainTypes : List String :=
  [condBackupHealthy, condBackupRetention, condUpgradeAvailable, condMigrationPending, condSynced,
    condUnauthorizedSourceModification, condReady, condNodeDiskPressure, condYankedVersion]

variable {update : Update}

theorem upstream_type {asked : Bool} {error : Option String} (member : update ∈ upstreamUpdate asked error) :
    update.type = condUpstreamReachable := by
  rw [upstreamUpdate] at member
  split at member
  · rw [mem_singleton.mp member]
    rfl
  · cases member

def placed : List Update :=
  backupUpdates verdicts ++ ownUpdates stack latest parent wanted decision sample ++ docUpdates latest decision

theorem placed_types : ((placed stack latest verdicts parent wanted decision sample).map Update.type).Nodup ∧
    ∀ type ∈ (placed stack latest verdicts parent wanted decision sample).map Update.type, type ∈ mainTypes := by
  have backups : (backupUpdates verdicts).map Update.type = [condBackupHealthy, condBackupRetention] := by
    rw [backupUpdates, map_cons, map_cons, map_nil, verdict_type, verdict_type]
  rw [placed, map_append, map_append, backups, ownUpdates, docUpdates]
  cases sample <;> cases latest.doc <;>
    simp only [map_append, map_cons, map_nil, map_none, map_some, toList_none,
      toList_some, Update.type, append_nil] <;> decide

theorem main_upstream : condUpstreamReachable ∉ mainTypes ∧ condReconcileStalled ∉ mainTypes := by
  decide

theorem mem_all (update : Update) :
    update ∈ earlyUpdates latest verdicts ++ lateUpdates stack latest parent wanted decision sample ↔
      update ∈ placed stack latest verdicts parent wanted decision sample ∨ update ∈ upstreamUpdate latest.asked latest.error ∨
        update ∈ upstreamUpdate latest.asked (latest.error.or decision.error) := by
  rw [earlyUpdates, lateUpdates, placed, backupUpdates, ownUpdates, docUpdates]
  grind

theorem placed_hold (prior : List PlatformStackCondition) (now : String → String) (status : PlatformStackStatus) (member : update ∈ placed stack latest verdicts parent wanted decision sample) :
    update.Holds (runUpdates prior now status
      (earlyUpdates latest verdicts ++ lateUpdates stack latest parent wanted decision sample)) ∧
      update.type ≠ condReconcileStalled := by
  obtain ⟨once, main⟩ := placed_types stack latest verdicts parent wanted decision sample
  have mine := main update.type (mem_map_of_mem member)
  refine ⟨updates_hold prior now status ((mem_all stack latest verdicts parent wanted decision sample update).mpr
    (.inl member)) ?_, fun same => main_upstream.2 (same ▸ mine)⟩
  intro other held same
  rcases (mem_all stack latest verdicts parent wanted decision sample other).mp held with placed | early | late
  · exact inj_on_of_nodup_map once placed member same
  · rw [← same, upstream_type early] at mine
    exact absurd mine main_upstream.1
  · rw [← same, upstream_type late] at mine
    exact absurd mine main_upstream.1

end Types

def silent : StackRequest → Bool
  | .channelLatest _ _ => false
  | .pathMaxChangeClass _ _ _ => false
  | .applyStatus _ => false
  | _ => true

def Silent (history : List (Exchange stackApi)) : Prop := ∀ exchange ∈ history, silent exchange.request = true

theorem silent_append {first second : List (Exchange stackApi)} (one : Silent first) (two : Silent second) :
    Silent (first ++ second) := by
  intro exchange member
  rcases mem_append.mp member with before | after
  · exact one exchange before
  · exact two exchange after

section Stages

variable (time : Rfc3339) (stack : PlatformStack) (clock : PassClock)

inductive Found : List (Exchange stackApi) → Latest → Prop where
  | polled (resolved : Resolved) (polls : pollsOci time stack clock = true) :
      Found [⟨.channelLatest stack.spec.upstream (specChannel stack), .ok resolved⟩]
        { version := resolved.1, asked := true, polled := true, doc := resolved.2, error := none }
  | failed (why : String) (latest : Latest) (polls : pollsOci time stack clock = true) :
      Found [⟨.channelLatest stack.spec.upstream (specChannel stack), .error why⟩] latest
  | cached (version : String) (throttled : pollsOci time stack clock = false) (known : stack.prior.availableVersion = some version) :
      Found [] { version := version, asked := false, polled := false, doc := none, error := none }

inductive Decides (current wanted : String) : StackWorld → List (Exchange stackApi) → Decision → StackWorld → Prop where
  | idle (world : StackWorld) (stays : ¬ (current ≠ wanted ∧ allowsBump stack = true)) :
      Decides current wanted world [] { target := current } world
  | planned (world : StackWorld) (plan : PlatformPlan) (moves : current ≠ wanted ∧ allowsBump stack = true)
      (found : findPlan world.plans (synthesizePlatformPlanName current wanted) = some plan) :
      Decides current wanted world [⟨.getPlan (synthesizePlatformPlanName current wanted), .ok (some plan)⟩]
        (decideByPlan plan current wanted) world
  | failed (world : StackWorld) (history : List (Exchange stackApi)) (decision : Decision)
      (moves : current ≠ wanted ∧ allowsBump stack = true)
      (free : findPlan world.plans (synthesizePlatformPlanName current wanted) = none) (classed : ClassFailed history) :
      Decides current wanted world history decision world
  | safe (world : StackWorld) (history : List (Exchange stackApi)) (moves : current ≠ wanted ∧ allowsBump stack = true)
      (free : findPlan world.plans (synthesizePlatformPlanName current wanted) = none) :
      Decides current wanted world history { target := wanted } world
  | raised (world : StackWorld) (history : List (Exchange stackApi)) (change : ChangeClass)
      (moves : current ≠ wanted ∧ allowsBump stack = true)
      (free : findPlan world.plans (synthesizePlatformPlanName current wanted) = none) :
      Decides current wanted world history
        { target := current
          pending := some ⟨changeClassToString change, synthesizePlatformPlanName current wanted⟩ }
        { world with plans := world.plans ++ [buildPlatformMigrationPlan (synthesizePlatformPlanName current wanted) change] }

section Finishes

variable (world final : StackWorld) (history : List (Exchange stackApi))

variable {latest : Latest} {wanted : String} {decision : Decision} {foreign : Option String} {parent : Parent}

theorem resolve_finishes (finished : (resolveLatest time stack clock).Finishes serveStack world history latest final) :
    final = world ∧ Found time stack clock history latest := by
  rw [resolveLatest] at finished
  split at finished
  · rename_i polls
    obtain ⟨fate, later, rfl, rest⟩ := finished
    cases answered : (serveStack world fate (.channelLatest stack.spec.upstream (specChannel stack))).1 with
    | ok resolved =>
      rw [answered] at rest
      obtain ⟨rfl, rfl, rfl⟩ := rest
      exact ⟨rfl, .polled resolved polls⟩
    | error why =>
      rw [answered] at rest
      change (degraded stack why).Finishes serveStack world later latest final at rest
      rw [degraded] at rest
      split at rest
      · obtain ⟨rfl, _, rfl⟩ := rest
        exact ⟨rfl, .failed why latest polls⟩
      · exact rest.elim
  · rename_i throttled
    rw [cached] at finished
    split at finished
    · rename_i version known
      obtain ⟨rfl, rfl, rfl⟩ := finished
      exact ⟨rfl, .cached version (Bool.eq_false_iff.mpr throttled) known⟩
    · exact finished.elim

theorem raise_finishes {current : String} (change : ChangeClass) (decision : Decision)
    (finished : (raiseGate current wanted change).Finishes serveStack world history decision final) :
    decision = { target := current
                 pending := some ⟨changeClassToString change, synthesizePlatformPlanName current wanted⟩ } ∧
      final = { world with
        plans := world.plans ++ [buildPlatformMigrationPlan (synthesizePlatformPlanName current wanted) change] } := by
  obtain ⟨_, asked, _, rest⟩ := finished
  change Prog.Finishes serveStack (.call _ _) world asked decision final at rest
  obtain ⟨fate, later, _, rest⟩ := rest
  cases replied : (serveStack world fate (.createPlan
      (buildPlatformMigrationPlan (synthesizePlatformPlanName current wanted) change))).1 with
  | error why =>
    rw [replied] at rest
    exact rest.elim
  | ok done =>
    rw [replied] at rest
    obtain ⟨_, rfl, same⟩ := rest
    refine ⟨rfl, same.symm.trans ?_⟩
    change (serveCreate world fate _).1 = _ at replied
    change (serveCreate world fate _).2 = _
    rw [serveCreate] at replied ⊢
    split at replied
    · cases replied
    · rename_i free
      rw [if_neg free]
      exact write_landed world _ replied

theorem decide_finishes {current : String}
    (finished : (decideTarget stack current wanted).Finishes serveStack world history decision final) :
    Decides stack current wanted world history decision final := by
  rw [decideTarget] at finished
  split at finished
  · rename_i moves
    obtain ⟨fate, later, rfl, rest⟩ := finished
    change Prog.Finishes serveStack _ world later decision final at rest
    cases replied : (serveStack world fate (.getPlan (synthesizePlatformPlanName current wanted))).1 with
    | error why =>
      rw [replied] at rest
      exact rest.elim
    | ok shown =>
      rw [replied] at rest
      have read := (read_ok replied).2
      cases shown with
      | some plan =>
        obtain ⟨rfl, rfl, rfl⟩ := rest
        exact .planned world plan moves read.symm
      | none =>
        obtain ⟨fate, later, rfl, rest⟩ := rest
        cases classed : (serveStack world fate (.pathMaxChangeClass stack.spec.upstream current wanted)).1 with
        | error why =>
          rw [classed] at rest
          obtain ⟨rfl, _, rfl⟩ := rest
          exact .failed world _ _ moves read.symm ⟨stack.spec.upstream, current, wanted, why,
            mem_cons_of_mem _ (mem_singleton_self _)⟩
        | ok change =>
          rw [classed] at rest
          change Prog.Finishes serveStack (if change = .safe then .done { target := wanted }
            else raiseGate current wanted change) world later decision final at rest
          split at rest
          · obtain ⟨_, rfl, rfl⟩ := rest
            exact .safe world _ moves read.symm
          · obtain ⟨rfl, rfl⟩ := raise_finishes world final later change decision rest
            exact .raised world _ change moves read.symm
  · rename_i stays
    obtain ⟨rfl, rfl, rfl⟩ := finished
    exact .idle world stays

theorem delete_finishes (names : List String) (keep : String) (others : ∀ name ∈ names, name ≠ keep)
    (finished : (deletePlans names).Finishes serveStack world history () final) :
    ∃ plans, final = { world with plans := plans } ∧ findPlan plans keep = findPlan world.plans keep := by
  induction names generalizing world history with
  | nil =>
    obtain ⟨_, _, rfl⟩ := finished
    exact ⟨world.plans, rfl, rfl⟩
  | cons name rest ih =>
    obtain ⟨fate, later, _, continued⟩ := finished
    obtain ⟨plans, same, found⟩ := ih _ later (fun other member => others other (mem_cons_of_mem _ member)) continued
    have kept : ∃ left, (serveStack world fate (.deletePlan name)).2 = { world with plans := left } ∧
        findPlan left keep = findPlan world.plans keep := by
      change ∃ left, fate.write world { world with plans := world.plans.filter fun plan => plan.name != name } = _ ∧ _
      rw [StackFate.write]
      split
      · refine ⟨_, rfl, ?_⟩
        have apart := others name mem_cons_self
        rw [findPlan, find?_filter]
        congr 1
        funext plan
        by_cases mine : plan.name = keep
        · simp [mine, apart.symm]
        · simp [mine]
      · exact ⟨world.plans, rfl, rfl⟩
    obtain ⟨left, served, held⟩ := kept
    rw [served] at same found
    exact ⟨plans, same, found.trans held⟩

theorem collect_finishes (finished : (collectPlans decision).Finishes serveStack world history () final) :
    ∃ plans, final = { world with plans := plans } ∧ findPlan plans decision.keep = findPlan world.plans decision.keep := by
  obtain ⟨fate, later, _, rest⟩ := finished
  cases replied : (serveStack world fate .listPlans).1 with
  | error why =>
    rw [replied] at rest
    obtain ⟨_, _, same⟩ := rest
    exact ⟨world.plans, same.symm, rfl⟩
  | ok plans =>
    rw [replied] at rest
    exact delete_finishes world final later (supersededPlatformPlanNames plans decision.keep) decision.keep
      (fun name member => superseded_others name member) rest

theorem detection_finishes
    (finished : (publishDetection foreign decision).Finishes serveStack world history () final) : final = world := by
  cases foreign with
  | none => exact finished.2.2.symm
  | some manager =>
    obtain ⟨_, _, _, _, _, same⟩ := finished
    exact same.symm

theorem reverted_finishes
    (finished : (publishReverted foreign decision).Finishes serveStack world history () final) : final = world := by
  rw [publishReverted] at finished
  split at finished
  · obtain ⟨_, _, _, _, _, same⟩ := finished
    exact same.symm
  · exact finished.2.2.symm

theorem landed_finishes (finished : (noteLanded time clock parent decision).Finishes serveStack world history () final) :
    (∃ unrecorded, final = { world with unrecorded := unrecorded }) ∧ (decision.target = parent.targetRevision → final = world) := by
  rw [noteLanded] at finished
  split at finished
  · rename_i moved
    obtain ⟨_, _, _, _, _, same⟩ := finished
    exact ⟨⟨_, same.symm⟩, fun still => absurd still moved⟩
  · obtain ⟨_, _, rfl⟩ := finished
    exact ⟨⟨world.unrecorded, rfl⟩, fun _ => rfl⟩

structure Enforced (parent : Parent) (wanted : String) (decision : Decision) (world final : StackWorld) : Prop where
  live : final.live = world.live
  plans : final.plans = world.plans
  patched : patchesThisCycle stack parent wanted decision = true → final.parent.targetRevision = decision.target
  unrecorded : decision.target = parent.targetRevision → final.unrecorded = world.unrecorded

theorem enforce_finishes
    (finished : (enforce time stack clock parent wanted decision).Finishes serveStack world history () final) :
    Enforced stack parent wanted decision world final := by
  rw [enforce] at finished
  split at finished
  · obtain ⟨_, told, _, _, _, detected, afterwards⟩ := (Prog.finishes_bind serveStack _ _ _ _ _ _).mp finished
    have untouched := detection_finishes world told _ detected
    obtain ⟨_, patched, _, _, _, ⟨fate, later, _, rest⟩, closing⟩ := (Prog.finishes_bind serveStack _ _ _ _ _ _).mp afterwards
    obtain ⟨_, noted, _, _, _, landed, published⟩ := (Prog.finishes_bind serveStack _ _ _ _ _ _).mp closing
    have ended := reverted_finishes noted final _ published
    obtain ⟨_, replied, same⟩ := try_finishes rest
    rw [untouched] at same replied
    have made : patched = { world with parent := { fate.parent with targetRevision := decision.target } } :=
      same.symm.trans (write_landed world _ replied)
    obtain ⟨⟨unrecorded, bumped⟩, still⟩ := landed_finishes time clock _ noted _ landed
    rw [ended]
    constructor
    · rw [bumped, made]
    · rw [bumped, made]
    · rw [bumped, made]
      exact fun _ => rfl
    · intro target
      rw [still target, made]
  · rename_i calm
    obtain ⟨_, _, rfl⟩ := finished
    constructor
    · rfl
    · rfl
    · intro patches
      rw [patches] at calm
      exact absurd rfl calm
    · exact fun _ => rfl

-- How a pass reported: what it was told of the node, and the write it made of it.
structure Reports (latest : Latest) (verdicts : Verdict × Verdict) (parent : Parent) (decision : Decision) (world : StackWorld)
    (sample : Option Wording) (written : List (Exchange stackApi)) (after final : StackWorld) : Prop where
  wrote : (writeStatusIfChanged stack (finalStatus time stack clock latest verdicts parent decision sample world.unrecorded)).Finishes
    serveStack world written () after
  forgot : final = { after with unrecorded := forgetBumps after.unrecorded world.unrecorded }

theorem report_finishes {verdicts : Verdict × Verdict}
    (finished : (report time stack clock latest verdicts parent decision).Finishes serveStack world history () final) :
    ∃ sample written after closing,
      history = ⟨.sampleNode, sample⟩ :: ⟨.unrecordedBumps, world.unrecorded⟩ :: (written ++ [closing]) ∧
        silent closing.request = true ∧ Reports time stack clock latest verdicts parent decision world sample written after final := by
  obtain ⟨fate, told, rfl, sampled⟩ := finished
  obtain ⟨_, later, rfl, rest⟩ := sampled
  obtain ⟨_, after, written, last, rfl, wrote, forgot⟩ := (Prog.finishes_bind serveStack _ _ _ _ _ _).mp rest
  obtain ⟨_, none, rfl, rfl, _, same⟩ := forgot
  exact ⟨fate.sample, written, after, _, rfl, rfl, wrote, same.symm⟩

end Finishes

theorem collect_silent (decision : Decision) : (collectPlans decision).Asks fun request => silent request = true := by
  refine ⟨rfl, fun reply => ?_⟩
  cases reply with
  | error why => trivial
  | ok plans =>
    change (deletePlans (supersededPlatformPlanNames plans decision.keep)).Asks _
    induction supersededPlatformPlanNames plans decision.keep with
    | nil => trivial
    | cons name rest ih => exact ⟨rfl, fun _ => ih⟩

theorem after_patch_silent (parent : Parent) (decision : Decision) (foreign : Option String) :
    (do noteLanded time clock parent decision
        publishReverted foreign decision : StackProg Unit).Asks fun request => silent request = true := by
  refine Prog.asks_bind ?_ fun _ => ?_
  · rw [noteLanded]
    split
    · exact ⟨rfl, fun _ => trivial⟩
    · trivial
  · rw [publishReverted]
    split
    · exact ⟨rfl, fun _ => trivial⟩
    · trivial

theorem enforce_silent (parent : Parent) (wanted : String) (decision : Decision) :
    (enforce time stack clock parent wanted decision).Asks fun request => silent request = true := by
  rw [enforce]
  split
  · refine Prog.asks_bind ?_ fun _ => Prog.asks_bind ⟨rfl, fun reply => try_asks _ reply⟩ fun _ =>
      after_patch_silent time clock parent decision _
    cases detectOutsideWriter parent with
    | none => trivial
    | some manager => exact ⟨rfl, fun _ => trivial⟩
  · trivial

-- `decided` is the world after the decision, `enforced` the one after the enforcement.
structure Settles (latest : Latest) (verdicts : Verdict × Verdict) (world : StackWorld) (history : List (Exchange stackApi))
    (decision : Decision) (decided enforced : StackWorld) (sample : Option Wording) (written : List (Exchange stackApi))
    (after final : StackWorld) : Prop where
  decides : ∃ asked, Decides stack world.parent.targetRevision (policyTarget stack latest) world asked decision decided ∧
    ∃ middle last, history = asked ++ middle ++ written ++ last ∧ Silent middle ∧ Silent last ∧
      (⟨.sampleNode, sample⟩ : Exchange stackApi) ∈ middle
  collected : ∃ plans, findPlan plans decision.keep = findPlan decided.plans decision.keep ∧
    Enforced stack world.parent (policyTarget stack latest) decision { decided with plans := plans } enforced
  reports : Reports time stack clock latest verdicts world.parent decision enforced sample written after final

variable {history : List (Exchange stackApi)} {latest : Latest}

theorem settle_finishes {world final : StackWorld} {verdicts : Verdict × Verdict}
    (finished : (settle time stack clock latest verdicts world.parent).Finishes serveStack world history () final) :
    ∃ decision decided enforced sample written after,
      Settles time stack clock latest verdicts world history decision decided enforced sample written after final := by
  obtain ⟨decision, decided, asked, _, rfl, chose, collecting⟩ := (Prog.finishes_bind serveStack _ _ _ _ _ _).mp finished
  obtain ⟨_, collected, listed, _, rfl, gathered, annotating⟩ := (Prog.finishes_bind serveStack _ _ _ _ _ _).mp collecting
  obtain ⟨_, annotated, anchored, _, rfl, ⟨fate, noted, rfl, rfl, _, same⟩, enforcing⟩ :=
    (Prog.finishes_bind serveStack _ _ _ _ _ _).mp annotating
  obtain ⟨_, enforced, applied, reported, rfl, patched, reporting⟩ := (Prog.finishes_bind serveStack _ _ _ _ _ _).mp enforcing
  obtain ⟨sample, written, after, closing, rfl, quiet, reports⟩ := report_finishes time stack clock _ final _ reporting
  obtain ⟨plans, kept, found⟩ := collect_finishes _ _ _ gathered
  rw [← same, kept] at patched
  refine ⟨decision, decided, enforced, sample, written, after, ?_, ⟨plans, found, ?_⟩, reports⟩
  · refine ⟨asked, decide_finishes stack world _ asked chose, ?_⟩
    have quietList := Prog.finishes_asks _ _ _ _ _ _ () (collect_silent decision) gathered
    have quietPatch := Prog.finishes_asks serveStack _ _ _ enforced applied ()
      (enforce_silent time stack clock world.parent (policyTarget stack latest) decision) patched
    refine ⟨listed ++ [⟨.reconcileAnchorHealth (pendingUpgrade world.parent.targetRevision (policyTarget stack latest) decision), ()⟩] ++
      applied ++ [⟨.sampleNode, sample⟩, ⟨.unrecordedBumps, enforced.unrecorded⟩], [closing], ?_, ?_, ?_, by simp⟩
    · simp only [append_assoc, cons_append, nil_append]
    · refine silent_append (silent_append (silent_append quietList ?_) quietPatch) ?_
      · exact fun exchange member => mem_singleton.mp member ▸ rfl
      · intro exchange member
        rcases mem_cons.mp member with rfl | member
        · rfl
        · exact mem_singleton.mp member ▸ rfl
    · exact fun exchange member => mem_singleton.mp member ▸ quiet
  · exact enforce_finishes time stack clock _ _ _ patched

def flies (latest : Latest) (parent : Parent) : Bool :=
  (targetChanged parent (policyTarget stack latest) || valuesChanged stack parent) && isInFlight parent

def looked (world : StackWorld) (verdicts : Verdict × Verdict) : List (Exchange stackApi) :=
  [⟨.getParent, .ok world.parent⟩, ⟨.assessBackupHealth, verdicts⟩]

inductive Went (world : StackWorld) : List (Exchange stackApi) → StackWorld → Prop where
  | other (named : stack.name ≠ "default") : Went world [] world
  | flight (found written : List (Exchange stackApi)) (latest : Latest) (verdicts : Verdict × Verdict) (final : StackWorld)
      (named : stack.name = "default") (came : Found time stack clock found latest) (flying : flies stack latest world.parent = true)
      (wrote : (writeStatusIfChanged stack (inFlightStatus time stack clock latest verdicts world.parent)).Finishes
        serveStack world written () final) :
      Went world (found ++ (looked world verdicts ++ written)) final
  | settled (found history : List (Exchange stackApi)) (latest : Latest) (verdicts : Verdict × Verdict) (final : StackWorld)
      (named : stack.name = "default") (came : Found time stack clock found latest) (landed : flies stack latest world.parent = false)
      (decision : Decision) (decided enforced : StackWorld) (sample : Option Wording) (written : List (Exchange stackApi))
      (after : StackWorld)
      (settles : Settles time stack clock latest verdicts world history decision decided enforced sample written after final) :
      Went world (found ++ (looked world verdicts ++ history)) final

variable {time stack clock}

theorem pass_finishes {world final : StackWorld} {found : List (Exchange stackApi)}
    (named : stack.name = "default") (came : Found time stack clock found latest)
    (finished : (pass time stack clock latest).Finishes serveStack world history () final) :
    Went time stack clock world (found ++ history) final := by
  obtain ⟨fate, later, rfl, rest⟩ := finished
  cases replied : (serveStack world fate .getParent).1 with
  | error why =>
    rw [replied] at rest
    exact rest.elim
  | ok parent =>
    rw [replied] at rest
    obtain rfl := (read_ok replied).2
    obtain ⟨told, history, rfl, rest⟩ := rest
    change Prog.Finishes serveStack (if flies stack latest world.parent then
        writeStatusIfChanged stack (inFlightStatus time stack clock latest told.backup world.parent)
      else settle time stack clock latest told.backup world.parent) world history () final at rest
    cases flying : flies stack latest world.parent with
    | true =>
      rw [flying] at rest
      exact .flight found history latest told.backup final named came flying rest
    | false =>
      rw [flying] at rest
      obtain ⟨decision, decided, enforced, sample, written, after, settles⟩ := settle_finishes time stack clock rest
      exact .settled found history latest told.backup final named came flying decision decided enforced _ written after settles

theorem reconcile_finishes (world final : StackWorld) (history : List (Exchange stackApi))
    (finished : (reconcile time stack clock).Finishes serveStack world history () final) :
    Went time stack clock world history final := by
  rw [reconcile] at finished
  split at finished
  · rename_i named
    obtain ⟨rfl, _, rfl⟩ := finished
    exact .other named
  · rename_i named
    obtain ⟨latest, middle, found, later, rfl, resolved, rest⟩ := (Prog.finishes_bind serveStack _ _ _ _ _ _).mp finished
    obtain ⟨rfl, came⟩ := resolve_finishes time stack clock world _ found resolved
    exact pass_finishes (not_not.mp named) came rest

end Stages

end AppRafter.Platform
