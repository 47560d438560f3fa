import AppRafter.Backup.Cleanup

set_option autoImplicit false

namespace AppRafter.Backup

open Lib List Option

def Holding.applies : Holding → Nat
  | .applying _ => 1
  | _ => 0

structure PodInv (helpers : LiveHelpers) (stop : HelperStop) (log : List CleanupEvent) (holding : Holding) : Prop where
  counted : helpers.applying = holding.applies
  registered : ∀ pod, holding = .applying pod → pod ∈ helpers.pods
  forgotten : ∀ pod, holding = .deleted pod → lastOfPod log pod ≠ some (.created pod)
  created : ∀ pod, lastOfPod log pod = some (.created pod) → pod ∈ helpers.pods
  closed : stop ≠ .idle → helpers.stopping = true
  drained : stop ≠ .idle → stop ≠ .closed → helpers.applying = 0
  listed : ∀ left, stop = .deleting left → ∀ pod, lastOfPod log pod = some (.created pod) → pod ∈ left

structure ChildInv (children : LiveChildren) (log : List CleanupEvent) (holding : Holding) : Prop where
  unreaped : ∀ pid ∈ children.pids, lastOfPid log pid = some (.started pid) ∨ lastOfPid log pid = some (.exited pid)
  live : ∀ pid, lastOfPid log pid = some (.started pid) → pid ∈ children.pids
  gone : ∀ pid, holding = .exitedChild pid → lastOfPid log pid = some (.exited pid)
  removed : ∀ pid, holding = .removedChild pid → pid ∉ children.pids
  closed : .closed ∈ log → children.stopping = true

structure LogInv (log : List CleanupEvent) : Prop where
  refused : ∀ later earlier, log = later ++ .closed :: earlier → ∀ pid, CleanupEvent.started pid ∉ later
  signalled : ∀ later earlier, log = later ++ .closed :: earlier → ∀ pid,
    lastOfPid earlier pid = some (.started pid) → .signalled pid ∈ later
  unreaped : ∀ later earlier pid, log = later ++ .signalled pid :: earlier →
    lastOfPid earlier pid = some (.started pid) ∨ lastOfPid earlier pid = some (.exited pid)

section Events

variable (log : List CleanupEvent) (pod other : HelperPod)

theorem last_pod_created :
    lastOfPod (.created other :: log) pod = if pod = other then some (.created other) else lastOfPod log pod := by
  by_cases same : pod = other
  · simp [lastOfPod, CleanupEvent.ofPod, same]
  · simp [lastOfPod, CleanupEvent.ofPod, same, Ne.symm same]

theorem last_pod_deleted :
    lastOfPod (.deleted other :: log) pod = if pod = other then some (.deleted other) else lastOfPod log pod := by
  by_cases same : pod = other
  · simp [lastOfPod, CleanupEvent.ofPod, same]
  · simp [lastOfPod, CleanupEvent.ofPod, same, Ne.symm same]

variable (pid other : Nat)

theorem last_pid_started :
    lastOfPid (.started other :: log) pid = if pid = other then some (.started other) else lastOfPid log pid := by
  by_cases same : pid = other
  · simp [lastOfPid, CleanupEvent.ofPid, same]
  · simp [lastOfPid, CleanupEvent.ofPid, same, Ne.symm same]

theorem last_pid_exited :
    lastOfPid (.exited other :: log) pid = if pid = other then some (.exited other) else lastOfPid log pid := by
  by_cases same : pid = other
  · simp [lastOfPid, CleanupEvent.ofPid, same]
  · simp [lastOfPid, CleanupEvent.ofPid, same, Ne.symm same]

theorem last_pid_reaped :
    lastOfPid (.reaped other :: log) pid = if pid = other then some (.reaped other) else lastOfPid log pid := by
  by_cases same : pid = other
  · simp [lastOfPid, CleanupEvent.ofPid, same]
  · simp [lastOfPid, CleanupEvent.ofPid, same, Ne.symm same]

variable {front : List CleanupEvent}

theorem last_pid_aside (aside : ∀ event ∈ front, ∀ pid, event.ofPid pid = false) (pid : Nat) :
    lastOfPid (front ++ log) pid = lastOfPid log pid := by
  have none_ : front.find? (CleanupEvent.ofPid pid) = none := by
    refine find?_eq_none.mpr fun event member => ?_
    rw [aside event member pid]
    exact Bool.false_ne_true
  rw [lastOfPid, find?_append, none_, none_or, lastOfPid]

theorem last_pod_aside (aside : ∀ event ∈ front, ∀ pod, event.ofPod pod = false)
    (pod : HelperPod) : lastOfPod (front ++ log) pod = lastOfPod log pod := by
  have none_ : front.find? (CleanupEvent.ofPod pod) = none := by
    refine find?_eq_none.mpr fun event member => ?_
    rw [aside event member pod]
    exact Bool.false_ne_true
  rw [lastOfPod, find?_append, none_, none_or, lastOfPod]

theorem log_cons {event : CleanupEvent} (inv : LogInv log) (open_ : event ≠ .closed) (quiet : ∀ pid, event ≠ .signalled pid)
    (starts : .closed ∈ log → ∀ pid, event ≠ .started pid) : LogInv (event :: log) := by
  have tail : ∀ later earlier mark, event ≠ mark → event :: log = later ++ mark :: earlier →
      ∃ rest, later = event :: rest ∧ log = rest ++ mark :: earlier := by
    intro later earlier mark different split
    cases later with
    | nil => exact absurd (List.cons.inj split).1 different
    | cons first rest =>
      obtain ⟨same, left⟩ := List.cons.inj split
      exact ⟨rest, by rw [same], left⟩
  refine ⟨?_, ?_, ?_⟩
  · intro later earlier split pid member
    obtain ⟨rest, rfl, left⟩ := tail later earlier .closed open_ split
    cases mem_cons.mp member with
    | inl same => exact starts (by simp [left]) pid same.symm
    | inr before => exact inv.refused rest earlier left pid before
  · intro later earlier split pid running
    obtain ⟨rest, rfl, left⟩ := tail later earlier .closed open_ split
    exact mem_cons_of_mem _ (inv.signalled rest earlier left pid running)
  · intro later earlier pid split
    obtain ⟨rest, rfl, left⟩ := tail later earlier _ (quiet pid) split
    exact inv.unreaped rest earlier pid left

end Events

section Pods

variable {helpers : LiveHelpers} {stop : HelperStop} {log : List CleanupEvent} {holding : Holding}

theorem quiet_applies (quiet : holding.quiet) : holding.applies = 0 := by
  cases holding with
  | applying pod => cases quiet
  | free => rfl
  | deleted pod => rfl
  | child pid => rfl
  | exitedChild pid => rfl
  | removedChild pid => rfl

variable (inv : PodInv helpers stop log holding)

include inv in
theorem pod_log {later : List CleanupEvent}
    (same : ∀ pod, lastOfPod later pod = lastOfPod log pod) : PodInv helpers stop later holding :=
  ⟨inv.counted, inv.registered, fun pod deleted made => inv.forgotten pod deleted ((same pod).symm.trans made),
    fun pod made => inv.created pod ((same pod).symm.trans made), inv.closed, inv.drained,
    fun left at_ pod made => inv.listed left at_ pod ((same pod).symm.trans made)⟩

include inv in
theorem pod_hold {later : Holding} (before : holding.applies = 0)
    (after : later.applies = 0) (kept : ∀ pod, later ≠ .deleted pod) : PodInv helpers stop log later := by
  refine ⟨inv.counted.trans (before.trans after.symm), ?_, fun pod held => absurd held (kept pod), inv.created, inv.closed,
    inv.drained, inv.listed⟩
  intro pod held
  rw [held] at after
  cases after

include inv in
theorem pod_aside {event : CleanupEvent} (aside : ∀ pod, event.ofPod pod = false) :
    PodInv helpers stop (event :: log) holding := by
  refine pod_log inv ?_
  exact last_pod_aside log fun other member => mem_singleton.mp member ▸ aside

include inv in
theorem pod_free (quiet : holding.quiet) : PodInv helpers stop log .free := pod_hold inv (quiet_applies quiet) rfl nofun

theorem mem_insert_pod (pods : List HelperPod) (pod other : HelperPod) : other ∈ insertPod pods pod ↔ other = pod ∨ other ∈ pods := by
  rw [insertPod]
  by_cases member : pod ∈ pods
  · rw [if_pos member]
    exact ⟨.inr, fun either => either.elim (fun same => same ▸ member) id⟩
  · rw [if_neg member]
    exact mem_cons

include inv in
theorem pod_begin (quiet : holding.quiet) (pod : HelperPod) (running : helpers.stopping = false) :
    PodInv { helpers with pods := insertPod helpers.pods pod, applying := helpers.applying + 1 } stop log (.applying pod) := by
  have idle : stop = .idle := by
    refine Decidable.byContradiction fun begun => ?_
    rw [inv.closed begun] at running
    cases running
  have none_ : helpers.applying = 0 := inv.counted.trans (quiet_applies quiet)
  refine ⟨congrArg (· + 1) none_, ?_, nofun, ?_, inv.closed, fun begun => absurd idle begun, inv.listed⟩
  · intro other held
    cases held
    exact (mem_insert_pod helpers.pods pod pod).mpr (.inl rfl)
  · intro other made
    exact (mem_insert_pod helpers.pods pod other).mpr (.inr (inv.created other made))

variable {pod : HelperPod}

theorem pod_end (inv : PodInv helpers stop log (.applying pod)) :
    PodInv { helpers with applying := helpers.applying - 1 } stop log .free := by
  have one : helpers.applying = 1 := inv.counted
  refine ⟨congrArg (· - 1) one, nofun, nofun, inv.created, inv.closed, ?_, inv.listed⟩
  intro begun past
  exact congrArg (· - 1) one

include inv in
theorem pod_delete (quiet : holding.quiet) (pod : HelperPod) : PodInv helpers stop (.deleted pod :: log) (.deleted pod) := by
  have still : ∀ other, lastOfPod (.deleted pod :: log) other = some (.created other) →
      lastOfPod log other = some (.created other) := by
    intro other made
    rw [last_pod_deleted] at made
    by_cases same : other = pod
    · rw [if_pos same] at made
      cases made
    · rw [if_neg same] at made
      exact made
  refine ⟨inv.counted.trans (quiet_applies quiet), nofun, ?_, fun other made => inv.created other (still other made),
    inv.closed, inv.drained, fun left at_ other made => inv.listed left at_ other (still other made)⟩
  intro other held made
  cases held
  rw [last_pod_deleted, if_pos rfl] at made
  cases made

theorem pod_remove (inv : PodInv helpers stop log (.deleted pod)) :
    PodInv { helpers with pods := helpers.pods.filter fun other => other ≠ pod } stop log .free := by
  refine ⟨inv.counted, nofun, nofun, ?_, inv.closed, inv.drained, inv.listed⟩
  intro other made
  refine mem_filter.mpr ⟨inv.created other made, decide_eq_true ?_⟩
  intro same
  exact inv.forgotten pod rfl (same ▸ made)

theorem pod_created (inv : PodInv helpers stop log (.applying pod)) :
    PodInv helpers stop (.created pod :: log) (.applying pod) := by
  have one : helpers.applying = 1 := inv.counted
  refine ⟨inv.counted, inv.registered, nofun, ?_, inv.closed, inv.drained, ?_⟩
  · intro other made
    rw [last_pod_created] at made
    by_cases same : other = pod
    · exact same ▸ inv.registered pod rfl
    · rw [if_neg same] at made
      exact inv.created other made
  · intro left at_ other made
    have none_ := inv.drained (by rw [at_]; nofun) (by rw [at_]; nofun)
    omega

theorem pod_stop_delete (left : List HelperPod) (inv : PodInv helpers (.deleting left) log holding) (pod : HelperPod) :
    PodInv helpers (.deleting (left.filter fun other => other ≠ pod)) (.deleted pod :: log) holding := by
  have still : ∀ other, lastOfPod (.deleted pod :: log) other = some (.created other) →
      other ≠ pod ∧ lastOfPod log other = some (.created other) := by
    intro other made
    rw [last_pod_deleted] at made
    by_cases same : other = pod
    · rw [if_pos same] at made
      cases made
    · rw [if_neg same] at made
      exact ⟨same, made⟩
  refine ⟨inv.counted, inv.registered, fun other held made => inv.forgotten other held (still other made).2,
    fun other made => inv.created other (still other made).2, fun _ => inv.closed nofun,
    fun _ _ => inv.drained nofun nofun, ?_⟩
  intro rest at_ other made
  cases at_
  obtain ⟨different, before⟩ := still other made
  exact mem_filter.mpr ⟨inv.listed left rfl other before, decide_eq_true different⟩

end Pods

section Children

variable {children : LiveChildren} (log : List CleanupEvent) {holding : Holding}

theorem child_log (inv : ChildInv children log holding) {later : List CleanupEvent}
    (same : ∀ pid, lastOfPid later pid = lastOfPid log pid) (closed : .closed ∈ later → .closed ∈ log) :
    ChildInv children later holding := by
  refine ⟨?_, ?_, ?_, inv.removed, fun member => inv.closed (closed member)⟩
  · intro pid member
    rw [same pid]
    exact inv.unreaped pid member
  · intro pid
    rw [same pid]
    exact inv.live pid
  · intro pid held
    rw [same pid]
    exact inv.gone pid held

theorem child_aside (inv : ChildInv children log holding) (event : CleanupEvent) (aside : ∀ pid, event.ofPid pid = false)
    (open_ : event ≠ .closed) : ChildInv children (event :: log) holding := by
  refine child_log log inv ?_ ?_
  · exact last_pid_aside log fun other member => mem_singleton.mp member ▸ aside
  · intro member
    exact (mem_cons.mp member).resolve_left (Ne.symm open_)

variable {log} (inv : ChildInv children log holding)

include inv in
theorem child_hold (later : Holding) (gone : ∀ pid, later ≠ .exitedChild pid)
    (removed : ∀ pid, later ≠ .removedChild pid) : ChildInv children log later :=
  ⟨inv.unreaped, inv.live, fun pid held => absurd held (gone pid), fun pid held => absurd held (removed pid), inv.closed⟩

include inv in
theorem child_spawn (pid : Nat) : ChildInv { children with pids := pid :: children.pids } (.started pid :: log) (.child pid) := by
  refine ⟨?_, ?_, nofun, nofun, ?_⟩
  · intro other member
    rw [last_pid_started]
    by_cases same : other = pid
    · rw [if_pos same]
      exact .inl (same ▸ rfl)
    · rw [if_neg same]
      exact inv.unreaped other ((mem_cons.mp member).resolve_left same)
  · intro other running
    rw [last_pid_started] at running
    by_cases same : other = pid
    · exact same ▸ mem_cons_self
    · rw [if_neg same] at running
      exact mem_cons_of_mem _ (inv.live other running)
  · intro member
    exact inv.closed ((mem_cons.mp member).resolve_left nofun)

variable {pid : Nat}

include inv in
theorem child_exit (running : lastOfPid log pid = some (.started pid)) : ChildInv children (.exited pid :: log) holding := by
  refine ⟨?_, ?_, ?_, inv.removed, fun member => inv.closed ((mem_cons.mp member).resolve_left nofun)⟩
  · intro other member
    rw [last_pid_exited]
    by_cases same : other = pid
    · rw [if_pos same]
      exact .inr (same ▸ rfl)
    · rw [if_neg same]
      exact inv.unreaped other member
  · intro other live
    rw [last_pid_exited] at live
    by_cases same : other = pid
    · exact same ▸ inv.live pid running
    · rw [if_neg same] at live
      exact inv.live other live
  · intro other held
    rw [last_pid_exited]
    by_cases same : other = pid
    · rw [if_pos same, same]
    · rw [if_neg same]
      exact inv.gone other held

include inv in
theorem child_waited (exited : lastOfPid log pid = some (.exited pid)) : ChildInv children log (.exitedChild pid) := by
  refine ⟨inv.unreaped, inv.live, ?_, nofun, inv.closed⟩
  intro other held
  cases held
  exact exited

theorem child_remove (inv : ChildInv children log (.exitedChild pid)) :
    ChildInv { children with pids := children.pids.filter fun other => other ≠ pid } log (.removedChild pid) := by
  refine ⟨fun other member => inv.unreaped other (mem_filter.mp member).1, ?_, nofun, ?_, inv.closed⟩
  · intro other running
    refine mem_filter.mpr ⟨inv.live other running, decide_eq_true ?_⟩
    intro same
    rw [same, inv.gone pid rfl] at running
    cases running
  · intro other held member
    cases held
    exact of_decide_eq_true (mem_filter.mp member).2 rfl

theorem child_reap (inv : ChildInv children log (.removedChild pid)) : ChildInv children (.reaped pid :: log) .free := by
  refine ⟨?_, ?_, nofun, nofun, fun member => inv.closed ((mem_cons.mp member).resolve_left nofun)⟩
  · intro other member
    have different : other ≠ pid := fun same => inv.removed pid rfl (same ▸ member)
    rw [last_pid_reaped, if_neg different]
    exact inv.unreaped other member
  · intro other running
    rw [last_pid_reaped] at running
    by_cases same : other = pid
    · rw [if_pos same] at running
      cases running
    · rw [if_neg same] at running
      exact inv.live other running

end Children

section Steps

variable (state t : CleanupState) (holding : Holding)

structure CleanupInv : Prop where
  orderly : Orderly state.run holding
  pods : PodInv state.helpers state.stop state.log holding
  children : ChildInv state.children state.log holding
  log : LogInv state.log

theorem spawned_cases {argv : List String} {spawned answer : Except String Nat}
    (served : state.spawned argv spawned = some (answer, t)) :
    t = state ∧ (∃ e, answer = .error e) ∨ ∃ pid, answer = .ok pid ∧ state.children.stopping = false ∧
        t = { state.emit (.started pid) with children := { state.children with pids := pid :: state.children.pids } } := by
  cases spawned with
  | error e =>
    cases served
    cases state.children.stopping with
    | true | false => exact .inl ⟨rfl, _, rfl⟩
  | ok pid =>
    rw [CleanupState.spawned] at served
    cases closing : state.children.stopping with
    | true =>
      rw [if_pos closing] at served
      cases served
      exact .inl ⟨rfl, _, rfl⟩
    | false =>
      rw [if_neg (closing ▸ Bool.false_ne_true)] at served
      by_cases fresh : lastOfPid state.log pid = none ∨ lastOfPid state.log pid = some (.reaped pid)
      · rw [if_pos fresh] at served
        cases served
        exact .inr ⟨pid, rfl, rfl, rfl⟩
      · rw [if_neg fresh] at served
        cases served

variable (inv : CleanupInv state holding)

include inv in
theorem served_inv {answers : (request : WorkRequest) → workApi.Response request}
    (taken : state.runStep answers = some t) : ∃ later, CleanupInv t later := by
  obtain ⟨⟨known, applying, stopping⟩, children, log, run, stop⟩ := state
  obtain ⟨orderly, pods, held, logged⟩ := inv
  cases run with
  | done value => cases taken
  | fail e => cases taken
  | call request next =>
    obtain ⟨⟨answer, after⟩, served, rfl⟩ := map_eq_some_iff.mp taken
    cases request with
    | beginApply pod =>
      obtain ⟨quiet, accepted, refused⟩ := orderly
      cases stopping with
      | true =>
        cases served
        exact ⟨.free, refused, pod_free pods quiet, child_hold held _ nofun nofun, logged⟩
      | false =>
        cases served
        exact ⟨.applying pod, accepted, pod_begin pods quiet pod rfl, child_hold held _ nofun nofun, logged⟩
    | patch pod =>
      obtain ⟨rfl, answered⟩ := orderly
      cases served
      exact ⟨.applying pod, answered _, pods, held, logged⟩
    | endApply =>
      obtain ⟨⟨pod, rfl⟩, ended⟩ := orderly
      cases served
      exact ⟨.free, ended, pod_end pods, child_hold held _ nofun nofun, logged⟩
    | delete pod =>
      obtain ⟨quiet, answered⟩ := orderly
      cases served
      exact ⟨.deleted pod, answered _, pod_delete pods quiet pod,
        child_hold (child_aside log held (.deleted pod) (fun _ => rfl) nofun) (.deleted pod) nofun nofun,
        log_cons log logged nofun nofun fun _ => nofun⟩
    | getPod pod =>
      obtain ⟨quiet, answered⟩ := orderly
      cases served
      exact ⟨.free, answered _, pod_free pods quiet, child_hold held _ nofun nofun, logged⟩
    | removePod pod =>
      obtain ⟨rfl, removed⟩ := orderly
      cases served
      exact ⟨.free, removed, pod_remove pods, child_hold held _ nofun nofun, logged⟩
    | work =>
      obtain ⟨quiet, answered⟩ := orderly
      cases served
      exact ⟨.free, answered _, pod_free pods quiet, child_hold held _ nofun nofun, logged⟩
    | spawn argv =>
      obtain ⟨quiet, refused, started⟩ := orderly
      cases spawned_cases _ after served with
      | inl none_ =>
        obtain ⟨rfl, e, rfl⟩ := none_
        exact ⟨.free, refused e, pod_free pods quiet, child_hold held _ nofun nofun, logged⟩
      | inr child =>
        obtain ⟨pid, rfl, running, rfl⟩ := child
        have unclosed : .closed ∈ log → ∀ other, CleanupEvent.started pid ≠ .started other := by
          intro closed
          have stopping := held.closed closed
          rw [running] at stopping
          cases stopping
        exact ⟨.child pid, started pid, pod_hold (pod_aside pods fun _ => rfl) (quiet_applies quiet) rfl nofun,
          child_spawn held pid, log_cons log logged nofun nofun unclosed⟩
    | waitExit pid =>
      obtain ⟨rfl, waited⟩ := orderly
      change (if lastOfPid log pid = some (.exited pid) then _ else none) = _ at served
      by_cases exited : lastOfPid log pid = some (.exited pid)
      · rw [if_pos exited] at served
        cases served
        exact ⟨.exitedChild pid, waited, pod_hold pods rfl rfl nofun, child_waited held exited, logged⟩
      · rw [if_neg exited] at served
        cases served
    | removePid pid =>
      obtain ⟨rfl, removed⟩ := orderly
      cases served
      exact ⟨.removedChild pid, removed, pod_hold pods rfl rfl nofun, child_remove held, logged⟩
    | reap pid =>
      obtain ⟨rfl, answered⟩ := orderly
      cases served
      exact ⟨.free, answered _, pod_hold (pod_aside pods fun _ => rfl) rfl rfl nofun,
        child_reap held, log_cons log logged nofun nofun fun _ => nofun⟩

include inv in
theorem created_inv (taken : state.create = some t) : CleanupInv t holding := by
  obtain ⟨helpers, children, log, run, stop⟩ := state
  obtain ⟨orderly, pods, held, logged⟩ := inv
  cases run with
  | done value => cases taken
  | fail e => cases taken
  | call request next =>
    cases request with
    | patch pod =>
      cases taken
      obtain ⟨rfl, answered⟩ := orderly
      exact ⟨⟨rfl, answered⟩, pod_created pods, child_aside log held _ (fun _ => rfl) nofun,
        log_cons log logged nofun nofun fun _ => nofun⟩
    | beginApply pod => cases taken
    | endApply => cases taken
    | delete pod => cases taken
    | getPod pod => cases taken
    | removePod pod => cases taken
    | work => cases taken
    | spawn argv => cases taken
    | waitExit pid => cases taken
    | removePid pid => cases taken
    | reap pid => cases taken

include inv in
theorem exited_inv {pid : Nat} (running : lastOfPid state.log pid = some (.started pid)) :
    CleanupInv (state.emit (.exited pid)) holding := by
  obtain ⟨orderly, pods, held, logged⟩ := inv
  exact ⟨orderly, pod_aside pods fun _ => rfl, child_exit held running, log_cons _ logged nofun nofun fun _ => nofun⟩

theorem split_front (front log later earlier : List CleanupEvent) (mark event : CleanupEvent)
    (split : front ++ mark :: log = later ++ event :: earlier) :
    (∃ rest, front = later ++ event :: rest ∧ earlier = rest ++ mark :: log) ∨ (later = front ∧ event = mark ∧ earlier = log) ∨
      ∃ rest, later = front ++ mark :: rest ∧ log = rest ++ event :: earlier := by
  induction front generalizing later with
  | nil =>
    cases later with
    | nil =>
      obtain ⟨same, left⟩ := List.cons.inj split
      exact .inr (.inl ⟨rfl, same.symm, left.symm⟩)
    | cons first rest =>
      obtain ⟨same, left⟩ := List.cons.inj split
      exact .inr (.inr ⟨rest, by rw [← same, nil_append], left⟩)
  | cons head tail ih =>
    cases later with
    | nil =>
      obtain ⟨same, left⟩ := List.cons.inj split
      exact .inl ⟨tail, by rw [← same, nil_append], left.symm⟩
    | cons first rest =>
      obtain ⟨same, left⟩ := List.cons.inj split
      cases ih rest left with
      | inl inside =>
        obtain ⟨middle, front, back⟩ := inside
        exact .inl ⟨middle, by rw [front, same, cons_append], back⟩
      | inr after =>
        cases after with
        | inl here => exact .inr (.inl ⟨by rw [here.1, same], here.2⟩)
        | inr before =>
          obtain ⟨middle, front, back⟩ := before
          exact .inr (.inr ⟨middle, by rw [front, same, cons_append], back⟩)

theorem signal_aside (pids : List Nat) (event : CleanupEvent) (member : event ∈ pids.map CleanupEvent.signalled) :
    ∃ pid ∈ pids, event = .signalled pid := by
  obtain ⟨pid, known, same⟩ := mem_map.mp member
  exact ⟨pid, known, same.symm⟩

theorem signalled_log {children : LiveChildren} {log : List CleanupEvent} (inv : ChildInv children log holding)
    (logged : LogInv log) : LogInv (children.pids.map CleanupEvent.signalled ++ .closed :: log) := by
  refine ⟨?_, ?_, ?_⟩
  · intro later earlier split pid
    have unstarted : .started pid ∉ children.pids.map CleanupEvent.signalled := by
      intro member
      obtain ⟨other, _, same⟩ := signal_aside _ _ member
      cases same
    rcases split_front _ _ _ _ _ _ split with ⟨rest, front, _⟩ | ⟨here, _, _⟩ | ⟨rest, front, back⟩
    · obtain ⟨other, _, same⟩ := signal_aside children.pids .closed (by rw [front]; simp)
      cases same
    · exact here ▸ unstarted
    · rw [front, mem_append, mem_cons, not_or, not_or]
      exact ⟨unstarted, nofun, logged.refused rest earlier back pid⟩
  · intro later earlier split pid running
    rcases split_front _ _ _ _ _ _ split with ⟨rest, front, _⟩ | ⟨here, _, same⟩ | ⟨rest, front, back⟩
    · obtain ⟨other, _, same⟩ := signal_aside children.pids .closed (by rw [front]; simp)
      cases same
    · rw [here]
      exact mem_map_of_mem (inv.live pid (same ▸ running))
    · rw [front]
      exact mem_append_right _ (mem_cons_of_mem _ (logged.signalled rest earlier back pid running))
  · intro later earlier pid split
    rcases split_front _ _ _ _ _ _ split with ⟨rest, front, back⟩ | ⟨_, same, _⟩ | ⟨rest, _, back⟩
    · have known : .signalled pid ∈ children.pids.map CleanupEvent.signalled := by rw [front]; simp
      obtain ⟨other, member, same⟩ := signal_aside _ _ known
      cases same
      have aside : ∀ event ∈ rest ++ [.closed], ∀ other, event.ofPid other = false := by
        intro event inside other
        cases mem_append.mp inside with
        | inl signal =>
          obtain ⟨_, _, rfl⟩ := signal_aside children.pids event (by rw [front]; simp [signal])
          rfl
        | inr mark =>
          cases mem_singleton.mp mark
          rfl
      have shape : earlier = (rest ++ [.closed]) ++ log := by rw [back, append_assoc, singleton_append]
      rw [shape, last_pid_aside log aside pid]
      exact inv.unreaped pid member
    · cases same
    · exact logged.unreaped rest earlier pid back

include inv in
theorem signal_inv : CleanupInv state.closeAndSignal holding := by
  obtain ⟨orderly, pods, held, logged⟩ := inv
  have pid_aside : ∀ event ∈ state.children.pids.map CleanupEvent.signalled ++ [.closed], ∀ pid, event.ofPid pid = false := by
    intro event member pid
    cases mem_append.mp member with
    | inl signal =>
      obtain ⟨_, _, rfl⟩ := signal_aside _ event signal
      rfl
    | inr mark =>
      cases mem_singleton.mp mark
      rfl
  have aside : ∀ event ∈ state.children.pids.map CleanupEvent.signalled ++ [.closed], ∀ pod, event.ofPod pod = false := by
    intro event member pod
    cases mem_append.mp member with
    | inl signal =>
      obtain ⟨_, _, rfl⟩ := signal_aside _ event signal
      rfl
    | inr mark =>
      cases mem_singleton.mp mark
      rfl
  have shape : state.closeAndSignal.log = (state.children.pids.map CleanupEvent.signalled ++ [.closed]) ++ state.log := by
    rw [append_assoc, singleton_append]
    rfl
  have same_pid := last_pid_aside state.log pid_aside
  have same_pod := last_pod_aside state.log aside
  rw [← shape] at same_pid same_pod
  refine ⟨orderly, pod_log pods same_pod, ?_, signalled_log _ held logged⟩
  refine ⟨?_, ?_, ?_, held.removed, fun _ => rfl⟩
  · intro pid member
    rw [same_pid pid]
    exact held.unreaped pid member
  · intro pid running
    exact held.live pid ((same_pid pid).symm.trans running)
  · intro pid exited
    rw [same_pid pid]
    exact held.gone pid exited

include inv in
theorem stop_step_inv {action : CleanupAction} (allowed : answeredInTime state action = true)
    (taken : state.stopStep action = some t) : CleanupInv t holding := by
  obtain ⟨helpers, children, log, run, stop⟩ := state
  obtain ⟨orderly, pods, held, logged⟩ := inv
  cases action with
  | run answers => cases taken
  | create => cases taken
  | exit pid => cases taken
  | closeAndSignal => cases taken
  | close =>
    simp only [CleanupState.stopStep] at taken
    split at taken
    · cases taken
      exact ⟨orderly, ⟨pods.counted, pods.registered, pods.forgotten, pods.created, fun _ => rfl,
        fun _ past => absurd rfl past, nofun⟩, held, logged⟩
    · cases taken
  | settle expired =>
    simp only [CleanupState.stopStep] at taken
    split at taken
    · rename_i here
      cases taken
      have drained : helpers.applying = 0 := of_decide_eq_true allowed
      exact ⟨orderly, ⟨pods.counted, pods.registered, pods.forgotten, pods.created,
        fun _ => pods.closed (by rw [here.1]; nofun), fun _ _ => drained, nofun⟩, held, logged⟩
    · cases taken
  | snapshot =>
    simp only [CleanupState.stopStep] at taken
    split at taken
    · rename_i here
      cases taken
      refine ⟨orderly, ⟨pods.counted, pods.registered, pods.forgotten, pods.created,
        fun _ => pods.closed (by rw [here]; nofun), fun _ _ => pods.drained (by rw [here]; nofun) (by rw [here]; nofun), ?_⟩,
        held, logged⟩
      intro left at_ pod made
      cases at_
      exact pods.created pod made
    · cases taken
  | delete pod =>
    cases stop with
    | deleting left =>
      simp only [CleanupState.stopStep] at taken
      split at taken
      · cases taken
        exact ⟨orderly, pod_stop_delete left pods pod, child_aside log held _ (fun _ => rfl) nofun,
          log_cons log logged nofun nofun fun _ => nofun⟩
      · cases taken
    | idle => cases taken
    | closed => cases taken
    | settled => cases taken

include inv in
theorem step_inv (action : CleanupAction) (allowed : answeredInTime state action = true)
    (taken : state.step action = some t) : ∃ later, CleanupInv t later := by
  cases action with
  | run answers => exact served_inv state t _ inv taken
  | create => exact ⟨holding, created_inv state t _ inv taken⟩
  | exit pid =>
    by_cases running : lastOfPid state.log pid = some (.started pid)
    · simp only [CleanupState.step, if_pos running] at taken
      cases taken
      exact ⟨holding, exited_inv state _ inv running⟩
    · simp only [CleanupState.step, if_neg running] at taken
      cases taken
  | closeAndSignal =>
    cases taken
    exact ⟨holding, signal_inv state _ inv⟩
  | close => exact ⟨holding, stop_step_inv state t _ inv allowed taken⟩
  | settle expired => exact ⟨holding, stop_step_inv state t _ inv allowed taken⟩
  | snapshot => exact ⟨holding, stop_step_inv state t _ inv allowed taken⟩
  | delete pod => exact ⟨holding, stop_step_inv state t _ inv allowed taken⟩

end Steps

theorem plan_inv {plan : RunPlan} {state : CleanupState}
    (reachable : ((cleanupSystem plan).restrict answeredInTime).Reachable state) : ∃ holding, CleanupInv state holding := by
  refine ((cleanupSystem plan).restrict answeredInTime).invariant (fun state => ∃ holding, CleanupInv state holding)
    ?_ ?_ state reachable
  · intro start initially
    subst initially
    exact ⟨.free, plan_orderly plan, ⟨rfl, nofun, nofun, nofun, nofun, fun _ _ => rfl, nofun⟩,
      ⟨nofun, nofun, nofun, nofun, nofun⟩, ⟨by simp [startedWith], by simp [startedWith], by simp [startedWith]⟩⟩
  · intro before action after held taken
    obtain ⟨holding, inv⟩ := held
    obtain ⟨allowed, stepped⟩ := System.restrict_step _ _ _ _ _ taken
    exact step_inv before after holding inv action allowed stepped

theorem nothing_outlives_stop (plan : RunPlan) (state : CleanupState)
    (reachable : ((cleanupSystem plan).restrict answeredInTime).Reachable state) : NothingOutlives state ∧
      ∃ later signals, state.step .closeAndSignal = some later ∧ later.children.stopping = true ∧
        later.log = signals ++ .closed :: state.log ∧
        ∀ pid, lastOfPid state.log pid = some (.started pid) → .signalled pid ∈ signals := by
  obtain ⟨holding, inv⟩ := plan_inv reachable
  refine ⟨⟨?_, inv.log.refused, inv.log.signalled, inv.log.unreaped⟩, _, _, rfl, rfl, rfl, ?_⟩
  · intro swept pod made
    exact not_mem_nil (inv.pods.listed [] swept pod made)
  · intro pid running
    exact mem_map_of_mem (inv.children.live pid running)

section Sample

def dumpPod : HelperPod := ⟨"demo", "bk-pg-orders"⟩

def dumpThenBackup : RunPlan := .helper dumpPod 60 fun _ => .restic ["backup"] fun _ => .finished

def wellAnswered : (request : WorkRequest) → workApi.Response request
  | .beginApply _ => true
  | .patch _ => .usable
  | .endApply => ()
  | .delete _ => .ok ()
  | .getPod _ => .ok false
  | .removePod _ => ()
  | .work => .error "exec ended: the pod was deleted"
  | .spawn _ => .ok 17
  | .waitExit _ => ()
  | .removePid _ => ()
  | .reap _ => .ok ()

-- The pod is made, the stop deletes it, and the run's restic is refused.
def stoppedInApply : List CleanupAction :=
  [.run wellAnswered, .close, .closeAndSignal, .create, .run wellAnswered, .run wellAnswered, .settle false, .snapshot,
    .delete dumpPod, .run wellAnswered, .run wellAnswered, .run wellAnswered, .run wellAnswered]

def swept : CleanupState :=
  (((cleanupSystem dumpThenBackup).run (startedWith dumpThenBackup) stoppedInApply)).getD
  (startedWith dumpThenBackup)

-- The pod has been used and deleted, and the restic after it runs.
def usedPod : List CleanupAction := .run wellAnswered :: .create :: replicate 6 (.run wellAnswered)

def backingUp : CleanupState :=
  ((cleanupSystem dumpThenBackup).run (startedWith dumpThenBackup) usedPod).getD (startedWith dumpThenBackup)

theorem stopped_in_apply_swept : (swept.stop = .deleting [] ∧ .created dumpPod ∈ swept.log ∧ NothingOutlives swept) ∧
    lastOfPid backingUp.log 17 = some (.started 17) ∧ ∃ later signals, backingUp.step .closeAndSignal = some later ∧
      later.children.stopping = true ∧ later.log = signals ++ .closed :: backingUp.log ∧ .signalled 17 ∈ signals := by
  have sweeps : ((cleanupSystem dumpThenBackup).restrict answeredInTime).Reachable swept :=
    System.reachable_run _ (startedWith dumpThenBackup) (.initial _ rfl) stoppedInApply _ rfl
  have starts : ((cleanupSystem dumpThenBackup).restrict answeredInTime).Reachable backingUp :=
    System.reachable_run _ (startedWith dumpThenBackup) (.initial _ rfl) usedPod _ rfl
  obtain ⟨_, later, signals, closed, stopping, logged, signalled⟩ := nothing_outlives_stop dumpThenBackup backingUp starts
  have running : lastOfPid backingUp.log 17 = some (.started 17) := by decide +kernel
  exact ⟨⟨rfl, by decide +kernel, (nothing_outlives_stop dumpThenBackup swept sweeps).1⟩, running,
    later, signals, closed, stopping, logged, signalled 17 running⟩

end Sample

end AppRafter.Backup
