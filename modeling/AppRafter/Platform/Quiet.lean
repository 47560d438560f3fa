import AppRafter.Platform.Repeat

set_option autoImplicit false

namespace AppRafter.Platform

open Lib List

-- The backup verdicts and the sample of the node are the same to both passes.
structure SameCluster (one two : List (Exchange stackApi)) : Prop where
  backup : ∀ verdicts others, (⟨.assessBackupHealth, verdicts⟩ : Exchange stackApi) ∈ one →
    (⟨.assessBackupHealth, others⟩ : Exchange stackApi) ∈ two → others = verdicts
  node : ∀ sample other, (⟨.sampleNode, sample⟩ : Exchange stackApi) ∈ one →
    (⟨.sampleNode, other⟩ : Exchange stackApi) ∈ two → other = sample

def RetiresAll (stack : PlatformStack) (history : List (Exchange stackApi)) : Prop :=
  ∀ verdicts type, (⟨.assessBackupHealth, verdicts⟩ : Exchange stackApi) ∈ history →
    Update.retire type ∈ backupUpdates verdicts → type ∈ stack.prior.types → Retires stack type

section First

variable (time : Rfc3339) (clock : PassClock) (start left : StackWorld) (history : List (Exchange stackApi))

-- The check the pass made, or the one it found fresh, is in its status.
def Stamped (latest : Latest) : Prop :=
  (skeleton time start.live clock latest).availableVersion = some latest.version ∧
    (skeleton time start.live clock latest).lastUpstreamCheck.bind time.read = some (checkedAt time start.live clock)

inductive Remains : Prop where
  | other (named : start.live.name ≠ "default") (same : left.live = start.live)
  | flight (latest : Latest) (verdicts : Verdict × Verdict) (named : start.live.name = "default")
      (flying : flies start.live latest start.parent = true)
      (stamped : Stamped time clock start latest) (assessed : (⟨.assessBackupHealth, verdicts⟩ : Exchange stackApi) ∈ history)
      (reported : Reported start.live left.live (inFlightStatus time start.live clock latest verdicts start.parent))
  | settled (latest : Latest) (verdicts : Verdict × Verdict) (decision : Decision) (sample : Option Wording)
      (bumps : List VersionHistoryEntry) (named : start.live.name = "default")
      (landed : flies start.live latest start.parent = false)
      (stamped : Stamped time clock start latest) (assessed : (⟨.assessBackupHealth, verdicts⟩ : Exchange stackApi) ∈ history)
      (sampled : (⟨.sampleNode, sample⟩ : Exchange stackApi) ∈ history)
      (stands : Standing start.live start.parent.targetRevision (policyTarget start.live latest) left.plans decision)
      (reported : Reported start.live left.live
        (finalStatus time start.live clock latest verdicts start.parent decision sample bumps))
      (recorded : left.unrecorded = [])

theorem decides_target {current wanted : String} {world decided : StackWorld} {asked : List (Exchange stackApi)} {decision : Decision}
    {stack : PlatformStack} (decides : Decides stack current wanted world asked decision decided) (classed : ¬ ClassFailed asked) :
    decision.target = current ∨ (current ≠ wanted ∧ decision.target = wanted) := by
  cases decides with
  | idle keeps => exact .inl rfl
  | planned plan moves found =>
    by_cases completed : plan.phaseText = "completed"
    · rw [decideByPlan, if_pos completed]
      exact .inr ⟨moves.1, rfl⟩
    · rw [decideByPlan, if_neg completed]
      exact .inl rfl
  | failed history decision moves free failed => exact absurd failed classed
  | safe history moves free => exact .inr ⟨moves.1, rfl⟩
  | raised history change moves free => exact .inl rfl

theorem class_failed_among {part whole : List (Exchange stackApi)} (among : ∀ exchange ∈ part, exchange ∈ whole)
    (failed : ClassFailed part) : ClassFailed whole := by
  obtain ⟨upstream, source, target, why, member⟩ := failed
  exact ⟨upstream, source, target, why, among _ member⟩

theorem first_remains (went : Went time start.live clock start history left) (answered : Answered history)
    (readable : time.read (time.write clock.now) = some clock.now) (kept : left.parent = start.parent)
    (retires : RetiresAll start.live history) : Remains time clock start left history := by
  cases went with
  | other named => exact .other named rfl
  | flight found written latest verdicts final named came flying wrote =>
    have assessed : (⟨.assessBackupHealth, verdicts⟩ : Exchange stackApi) ∈ found ++ (looked start verdicts ++ written) :=
      mem_append_right _ (mem_append_left _ (mem_cons_of_mem _ (mem_singleton_self _)))
    have stamped := skeleton_stamped came readable
      fun upstream channel why member => answered.latest upstream channel why (mem_append_left _ member)
    have reported := (computed_reported left clock latest
      (inFlightStatus time start.live clock latest verdicts start.parent) (earlyUpdates latest verdicts) start rfl rfl
      (fun type present retired => retires verdicts type assessed (retire_early latest verdicts retired) present)
      written wrote).1
    exact .flight latest verdicts named flying stamped assessed reported
  | settled found settled latest verdicts final named came landed decision decided enforced sample written after settles =>
    have assessed : (⟨.assessBackupHealth, verdicts⟩ : Exchange stackApi) ∈ found ++ (looked start verdicts ++ settled) :=
      mem_append_right _ (mem_append_left _ (mem_cons_of_mem _ (mem_singleton_self _)))
    have stamped := skeleton_stamped came readable
      fun upstream channel why member => answered.latest upstream channel why (mem_append_left _ member)
    obtain ⟨asked, decides, middle, last, rfl, _, _, sampled⟩ := settles.decides
    obtain ⟨plans, gathered, enforcement⟩ := settles.collected
    have among : ∀ exchange ∈ asked ++ middle ++ written ++ last,
        exchange ∈ found ++ (looked start verdicts ++ (asked ++ middle ++ written ++ last)) :=
      fun exchange member => mem_append_right _ (mem_append_right _ member)
    have classed : ¬ ClassFailed asked := fun failed => answered.classed (class_failed_among
      (fun exchange member => among exchange (by simp [member])) failed)
    have same : decided.live = start.live ∧ decided.parent = start.parent := by
      cases decides <;> exact ⟨rfl, rfl⟩
    obtain ⟨reported, wrote⟩ := computed_reported after clock latest _
      (finalUpdates start.live latest verdicts start.parent decision sample) enforced (enforcement.live.trans same.1)
      (final_conds time start.live clock latest verdicts start.parent decision sample enforced.unrecorded)
      (fun type present retired => retires verdicts type assessed
        (retire_final start.live latest verdicts start.parent decision sample retired) present)
      written settles.reports.wrote
    have forgot := settles.reports.forgot
    have stays : decision.target = start.parent.targetRevision := by
      refine (decides_target decides classed).resolve_right ?_
      rintro ⟨moves, target⟩
      have patches : patchesThisCycle start.live start.parent (policyTarget start.live latest) decision = true := by
        have changed : targetChanged start.parent (policyTarget start.live latest) = true := by
          exact bne_iff_ne.mpr moves
        rw [patchesThisCycle, changed]
        rfl
      have landed := enforcement.patched patches
      have parent : left.parent = enforced.parent := by rw [forgot, wrote]
      rw [← parent, kept, target] at landed
      exact moves landed
    obtain ⟨stands, _, _, _⟩ := decision_stands decides stays classed
    have standing := standing_keep stands gathered
    have plansLeft : left.plans = plans := by
      rw [forgot, wrote]
      exact enforcement.plans
    have live : left.live = after.live := by rw [forgot]
    have recorded : left.unrecorded = [] := by
      rw [forgot, wrote]
      rw [forgetBumps, filter_eq_nil_iff]
      intro entry member
      simp [member]
    rw [← plansLeft] at standing
    rw [← live] at reported
    exact .settled latest verdicts decision sample enforced.unrecorded named landed stamped assessed
      (among _ (by simp [sampled])) standing reported recorded

end First

section Second

variable {time : Rfc3339} (clock again : PassClock) {start : StackWorld} (left next : StackWorld)
variable (between : Untouched left next)

include between

theorem still_there {new : PlatformStackStatus} {latest : Latest} (reported : Reported start.live left.live new)
    (fields : new.availableVersion = (skeleton time start.live clock latest).availableVersion ∧
      new.lastUpstreamCheck = (skeleton time start.live clock latest).lastUpstreamCheck)
    (stamped : Stamped time clock start latest) : Carries next.live new ∧ controllerMustReapply next.live = false ∧
      next.live.name = start.live.name ∧ next.live.spec = start.live.spec ∧
      next.live.recheckRequested = start.live.recheckRequested ∧
      next.live.prior.availableVersion = some latest.version ∧
      lastCheck time next.live = some (checkedAt time start.live clock) := by
  obtain ⟨recorded, same⟩ := reported.status
  have carries : Carries next.live new := ⟨recorded, between.status.trans same⟩
  obtain ⟨_, _, available, checked⟩ := carries_fields carries
  refine ⟨carries, ?_, between.spec.1.trans reported.rest.1, between.spec.2.1.trans reported.rest.2.1,
    between.spec.2.2.trans reported.rest.2.2, available.trans (fields.1.trans stamped.1), ?_⟩
  · rw [controllerMustReapply, between.owned]
    exact reported.reapply
  · rw [lastCheck, checked, fields.2]
    exact stamped.2

end Second

section Quiet

variable {time : Rfc3339} {clock again : PassClock} {start : StackWorld} (left next last : StackWorld) (one two : List (Exchange stackApi))

theorem looked_silent (world : StackWorld) (verdicts : Verdict × Verdict) : Silent (looked world verdicts) := by
  intro exchange member
  rcases mem_cons.mp member with rfl | member
  · rfl
  · exact mem_singleton.mp member ▸ rfl

theorem done_silent {world final : StackWorld} {written : List (Exchange stackApi)}
    (wrote : (Prog.done () : StackProg Unit).Finishes serveStack world written () final) : Silent written := by
  rw [wrote.1]
  exact forall_mem_nil _

theorem second_silent (remains : Remains time clock start left one) (between : Untouched left next)
    (went : Went time next.live again next two last) (kept : left.parent = start.parent) (same : SameCluster one two)
    (soon : numSeconds (again.now - checkedAt time start.live clock) < minOciPollIntervalSecs)
    (serviced : ∀ requested, start.live.recheckRequested.bind time.read = some requested →
      requested ≤ checkedAt time start.live clock) : Silent two := by
  have parent : next.parent = start.parent := between.outside.1.trans kept
  cases remains with
  | other named unwritten =>
    cases went with
    | other => exact forall_mem_nil _
    | flight found written latest verdicts final mine | settled found history latest verdicts final mine => exact absurd (unwritten ▸ between.spec.1 ▸ mine) named
  | flight latest verdicts named flying stamped assessed reported =>
    have fields := flight_stamped time clock start.live latest verdicts start.parent
    obtain ⟨carries, owns, mine, spec, asked, available, checked⟩ := still_there clock left next between reported fields stamped
    cases went with
    | other other => exact absurd (mine.trans named) other
    | flight found written latest' verdicts' final mine came _ wrote =>
      obtain ⟨rfl, rfl⟩ := found_again came available checked soon (asked ▸ serviced)
      have told : verdicts' = verdicts := same.backup _ _ assessed
        (mem_append_right _ (mem_append_left _ (mem_cons_of_mem _ (mem_singleton_self _))))
      rw [told, parent, flight_again again carries, given_unwritten carries owns] at wrote
      rw [nil_append]
      exact silent_append (looked_silent next verdicts') (done_silent wrote)
    | settled found history latest' verdicts' final mine came landed =>
      obtain ⟨rfl, rfl⟩ := found_again came available checked soon (asked ▸ serviced)
      rw [parent, flies_again latest start.parent spec, flying] at landed
      cases landed
  | settled latest verdicts decision sample bumps named landed stamped assessed sampled stands reported recorded =>
    have fields := final_stamped time clock start.live latest verdicts start.parent decision sample bumps
    obtain ⟨carries, owns, mine, spec, asked, available, checked⟩ := still_there clock left next between reported fields stamped
    cases went with
    | other other => exact absurd (mine.trans named) other
    | flight found written latest' verdicts' final mine came flying =>
      obtain ⟨rfl, rfl⟩ := found_again came available checked soon (asked ▸ serviced)
      rw [parent, flies_again latest start.parent spec, landed] at flying
      cases flying
    | settled found history latest' verdicts' final mine came _ decision' decided enforced sample' written after settles =>
      obtain ⟨rfl, rfl⟩ := found_again came available checked soon (asked ▸ serviced)
      obtain ⟨asked, decides, middle, last, rfl, quietMiddle, quietLast, answered⟩ := settles.decides
      obtain ⟨plans, _, enforcement⟩ := settles.collected
      have wrote := settles.reports.wrote
      rw [parent, target_again latest spec] at decides enforcement
      obtain ⟨chosen, unmoved, quietAsked⟩ := decides_again decides (standing_spec stands spec) (by rw [between.outside.2.1])
      have told : verdicts' = verdicts := same.backup _ _ assessed
        (mem_append_right _ (mem_append_left _ (mem_cons_of_mem _ (mem_singleton_self _))))
      have shown : sample' = sample := same.node _ _ sampled
        (mem_append_right _ (mem_append_right _ (by simp [answered])))
      obtain ⟨target, clean⟩ := standing_target stands
      have bumpless : enforced.unrecorded = [] := by
        rw [enforcement.unrecorded (chosen ▸ target), unmoved]
        exact between.outside.2.2.trans recorded
      rw [told, parent, chosen, shown, bumpless, final_again again carries spec clean, given_unwritten carries owns] at wrote
      rw [nil_append]
      exact silent_append (looked_silent next verdicts') (silent_append (silent_append
        (silent_append quietAsked quietMiddle) (done_silent wrote)) quietLast)

end Quiet

-- The first was answered, no check has come due since, and no recheck is younger.
theorem second_pass_silent (time : Rfc3339) (clock again : PassClock) (start left next last : StackWorld)
    (one two : List (Exchange stackApi)) (ran : (reconcile time start.live clock).Finishes serveStack start one () left)
    (between : Untouched left next) (reran : (reconcile time next.live again).Finishes serveStack next two () last)
    (readable : time.read (time.write clock.now) = some clock.now) (answered : Answered one) (kept : left.parent = start.parent)
    (retires : RetiresAll start.live one) (same : SameCluster one two)
    (soon : numSeconds (again.now - checkedAt time start.live clock) < minOciPollIntervalSecs)
    (serviced : ∀ requested, start.live.recheckRequested.bind time.read = some requested →
      requested ≤ checkedAt time start.live clock) : Silent two := by
  have remains := first_remains time clock start left one (reconcile_finishes start left one ran) answered readable kept retires
  exact second_silent left next last one two remains between (reconcile_finishes next last two reran) kept same soon serviced

def verdictsTold : Exchange stackApi → Option (Verdict × Verdict)
  | ⟨.assessBackupHealth, verdicts⟩ => some verdicts
  | _ => none

def sampleTold : Exchange stackApi → Option (Option Wording)
  | ⟨.sampleNode, sample⟩ => some sample
  | _ => none

def upstreamFailed : Exchange stackApi → Bool
  | ⟨.channelLatest _ _, .error _⟩ => true
  | ⟨.pathMaxChangeClass _ _ _, .error _⟩ => true
  | _ => false

theorem answered_of_told {history : List (Exchange stackApi)} (told : history.all (fun exchange => !upstreamFailed exchange) = true) :
    Answered history := by
  rw [all_eq_true] at told
  constructor
  · intro upstream channel why member
    exact absurd (told _ member) (by simp [upstreamFailed])
  · rintro ⟨upstream, source, target, why, member⟩
    exact absurd (told _ member) (by simp [upstreamFailed])

theorem same_of_told {one two : List (Exchange stackApi)} (verdicts : Verdict × Verdict) (sample : Option Wording)
    (backup : ∀ told ∈ one.filterMap verdictsTold ++ two.filterMap verdictsTold, told = verdicts)
    (node : ∀ told ∈ one.filterMap sampleTold ++ two.filterMap sampleTold, told = sample) : SameCluster one two := by
  constructor
  · intro first second before after
    have one := backup first (mem_append_left _ (mem_filterMap.mpr ⟨_, before, rfl⟩))
    have two := backup second (mem_append_right _ (mem_filterMap.mpr ⟨_, after, rfl⟩))
    rw [one, two]
  · intro first second before after
    have one := node first (mem_append_left _ (mem_filterMap.mpr ⟨_, before, rfl⟩))
    have two := node second (mem_append_right _ (mem_filterMap.mpr ⟨_, after, rfl⟩))
    rw [one, two]

theorem retires_of_absent {stack : PlatformStack} (history : List (Exchange stackApi))
    (absent : condBackupHealthy ∉ stack.prior.types ∧ condBackupRetention ∉ stack.prior.types) : RetiresAll stack history := by
  intro verdicts type _ retired present
  rcases mem_cons.mp retired with first | second
  · have named := congrArg Update.type first
    rw [verdict_type] at named
    exact absurd (named ▸ present) absent.1
  · have named := congrArg Update.type (mem_singleton.mp second)
    rw [verdict_type] at named
    exact absurd (named ▸ present) absent.2

def mayWorld (parent : Parent) : StackWorld where
  live := { spec := {} }
  cached := { spec := {} }
  parent := parent
  clock := ⟨1780272000000000000, fun _ => "2026-06-01T00:00:00+00:00"⟩

def mayTime : Rfc3339 where
  write _ := "2026-06-01T00:00:00+00:00"
  read text := if text = "2026-06-01T00:00:00+00:00" then some 1780272000000000000 else none

def mayParent (helmValues : String) : Parent where
  targetRevision := "1.0.0"
  helmValues := helmValues
  syncStatus := "Synced"
  health := "Healthy"
  managedFields := [⟨some fieldManager, some ["f:targetRevision"]⟩]

def mayClock : PassClock := ⟨1780272000000000000, fun _ => "2026-06-01T00:00:00+00:00"⟩

def mayAgain : PassClock := ⟨1780272001000000000, fun _ => "2026-06-01T00:00:01+00:00"⟩

def mayFate : StackFate where
  latest := .ok ("1.0.0", none)
  parent := mayParent "\x7b\x7d"

def mayServe (world : StackWorld) (request : stackApi.Request) : stackApi.Response request × StackWorld :=
  serveStack world mayFate request

def mayFirst (helmValues : String) : StackProg Unit := reconcile mayTime (mayWorld (mayParent helmValues)).live mayClock

def mayLeft (helmValues : String) : StackWorld := ((mayFirst helmValues).play mayServe (mayWorld (mayParent helmValues))).2

def maySecond (helmValues : String) : StackProg Unit := reconcile mayTime (mayLeft helmValues).live mayAgain

theorem may_untouched (helmValues : String) : Untouched (mayLeft helmValues) (mayLeft helmValues) :=
  ⟨⟨rfl, rfl, rfl⟩, rfl, rfl, ⟨rfl, rfl, rfl⟩⟩

theorem may_silent : Silent ((maySecond "\x7b\x7d").talk mayServe (mayLeft "\x7b\x7d")) ∧
      ((maySecond "\x7b\x7d").talk mayServe (mayLeft "\x7b\x7d")).length = 7 := by
  refine ⟨?_, by decide +kernel⟩
  refine second_pass_silent mayTime mayClock mayAgain (mayWorld (mayParent "\x7b\x7d")) (mayLeft "\x7b\x7d") (mayLeft "\x7b\x7d")
    ((maySecond "\x7b\x7d").play mayServe (mayLeft "\x7b\x7d")).2 ((mayFirst "\x7b\x7d").talk mayServe (mayWorld (mayParent "\x7b\x7d")))
    _ (Prog.finishes_played serveStack mayFate _ _ () ?_) (may_untouched _) (Prog.finishes_played serveStack mayFate _ _ () ?_) ?_
    (answered_of_told ?_) ?_ (retires_of_absent _ ?_) (same_of_told (.absent, .absent) none ?_ ?_) ?_ ?_
  · decide +kernel
  · decide +kernel
  · decide +kernel
  · decide +kernel
  · decide +kernel
  · decide +kernel
  · decide +kernel
  · decide +kernel
  · decide +kernel
  · exact nofun

-- After a pass that patched the parent, the next one words `Synced` anew and writes it.
theorem patched_then_reconciled :
    ¬ ∀ (time : Rfc3339) (clock again : PassClock) (start left next last : StackWorld) (one two : List (Exchange stackApi)),
      (reconcile time start.live clock).Finishes serveStack start one () left → Untouched left next →
      (reconcile time next.live again).Finishes serveStack next two () last →
      time.read (time.write clock.now) = some clock.now → Answered one → RetiresAll start.live one → SameCluster one two →
      numSeconds (again.now - clock.now) < minOciPollIntervalSecs →
      numSeconds (again.now - checkedAt time start.live clock) < minOciPollIntervalSecs →
      (∀ requested, start.live.recheckRequested.bind time.read = some requested → requested ≤ checkedAt time start.live clock) →
      Silent two := by
  intro claimed
  have quiet := claimed mayTime mayClock mayAgain (mayWorld (mayParent "null")) (mayLeft "null") (mayLeft "null")
    ((maySecond "null").play mayServe (mayLeft "null")).2 ((mayFirst "null").talk mayServe (mayWorld (mayParent "null")))
    ((maySecond "null").talk mayServe (mayLeft "null"))
    (Prog.finishes_played serveStack mayFate _ _ () (by decide +kernel)) (may_untouched _)
    (Prog.finishes_played serveStack mayFate _ _ () (by decide +kernel)) (by decide +kernel)
    (answered_of_told (by decide +kernel)) (retires_of_absent _ (by decide +kernel))
    (same_of_told (.absent, .absent) none (by decide +kernel) (by decide +kernel)) (by decide +kernel) (by decide +kernel)
    nofun
  have wrote : ((maySecond "null").talk mayServe (mayLeft "null")).all (fun exchange => silent exchange.request) = false := by
    decide +kernel
  rw [all_eq_true.mpr quiet] at wrote
  cases wrote

end AppRafter.Platform
