import AppRafter.Backup.CheckStop

set_option autoImplicit false

namespace AppRafter.Backup

open Lib List Option

variable {step : CheckPhase} {written : List (Owner × Record)} {record : Record}

theorem rank_lt_ne {other : CheckPhase} (below : step.rank < other.rank) : step ≠ other := by
  intro same
  rw [same] at below
  exact lt_irrefl _ below

section Ahead

variable {Value : Type}

theorem ahead_inside (run : RunProg Value) (phase step : CheckPhase) (mode : Mode) (follows : Follows run phase mode)
    (here : ahead run = .inside step) : mode = .working ∧ phase = step := by
  induction run generalizing mode with
  | done value => cases here
  | fail e => cases here
  | call request next ih =>
    cases request with
    | setPhase other => cases here
    | unlock | check | repository | stats | readClusterUid => cases here; exact follows.1
    | isClaimed => cases here
    | claim => cases here
    | getStatus => cases (ih (.error "") .settled (follows.2.2.1 "") here).1
    | applyStatus record live => cases (ih (.ok ()) .settled (follows.2.2.2 (.ok ())) here).1

theorem ahead_enters (run : RunProg Value) (phase step : CheckPhase) (mode : Mode) (follows : Follows run phase mode)
    (here : ahead run = .enters step) :
    mode = .before ∧ phase = .check ∧ step = .check ∨ (mode = .writing ∨ mode = .settled) ∧ phase.rank < step.rank := by
  induction run generalizing mode with
  | done value => cases here
  | fail e => cases here
  | call request next ih =>
    cases request with
    | setPhase other =>
      cases here
      exact follows.1.imp_right fun later => ⟨.inr later.1, later.2⟩
    | unlock repo => cases here
    | check repo depth => cases here
    | repository asked => cases here
    | stats repo => cases here
    | readClusterUid => cases here
    | isClaimed => cases here
    | claim => cases here
    | getStatus =>
      cases ih (.error "") .settled (follows.2.2.1 "") here with
      | inl start => cases start.1
      | inr later => exact .inr ⟨.inl follows.1, later.2⟩
    | applyStatus record live =>
      cases ih (.ok ()) .settled (follows.2.2.2 (.ok ())) here with
      | inl start => cases start.1
      | inr later => exact .inr ⟨.inl follows.1, later.2⟩

end Ahead

-- It enters a phase, writes its record, or leaves the phase and the records alone.
inductive RunMoved (state t : JobState) (mode : Mode) : Mode → Prop where
  | entered (step : CheckPhase) (enters : Enters state.phase mode step) (here : ahead state.run = .enters step)
      (left : t = { state.move step with run := t.run }) (follows : Follows t.run step .working) :
      RunMoved state t mode .working
  | wrote (record : Record) (live : Option (Dict String)) (here : mode = .writing) (about : record.phase = some state.phase)
      (left : t = { state.land .run record live with run := t.run }) (kept : ahead t.run = ahead state.run)
      (follows : Follows t.run state.phase .settled) : RunMoved state t mode .settled
  | stayed (later : Mode) (left : t = { state with run := t.run, claimed := t.claimed })
      (claims : state.claimed = true → t.claimed = true) (follows : Follows t.run state.phase later)
      (quiet : later = .writing → mode = .writing ∨ state.claimed = false)
      (writing : mode = .writing → ahead t.run = ahead state.run ∧ (later = .writing ∨ later = .settled))
      (settled : mode = .settled → later = .settled ∧ ahead state.run = .past) : RunMoved state t mode later

section Moves

variable {state t : JobState} {mode : Mode} {answers : (request : RunRequest) → runApi.Response request} (lands : Bool)

theorem worked {phase : CheckPhase} (works : Works state.phase mode phase) (follows : Follows t.run state.phase .working)
    (left : t = { state with run := t.run, claimed := t.claimed }) (claims : t.claimed = state.claimed) :
    ∃ later, RunMoved state t mode later := by
  obtain ⟨rfl, _⟩ := works
  exact ⟨.working, .stayed .working left (fun held => claims ▸ held) follows nofun nofun nofun⟩

theorem read_moved {next : Except String (Option (Dict String)) → RunProg (Option Nat)}
    (here : ahead state.run = ahead (next (.error ""))) (same : ∀ answer, ahead (next answer) = ahead (next (.error "")))
    (failed : ∀ e, Follows (next (.error e)) state.phase .settled)
    (read : ∀ live, Follows (next (.ok live)) state.phase .writing) (answer : Except String (Option (Dict String))) :
    ∃ later, RunMoved state { state with run := next answer } .writing later := by
  have kept : ahead (next answer) = ahead state.run := (same answer).trans here.symm
  cases answer with
  | error e => exact ⟨.settled, .stayed .settled rfl (fun held => held) (failed e) nofun (fun _ => ⟨kept, .inr rfl⟩) nofun⟩
  | ok live => exact ⟨.writing, .stayed .writing rfl (fun held => held) (read live) .inl (fun _ => ⟨kept, .inl rfl⟩) nofun⟩

theorem applied_moved {record : Record} (live : Option (Dict String)) (about : record.phase = some state.phase)
    {next : Except String Unit → RunProg (Option Nat)} (here : ahead state.run = ahead (next (.ok ())))
    (same : ∀ answer, ahead (next answer) = ahead (next (.ok ())))
    (after : ∀ answer, Follows (next answer) state.phase .settled) (answer : Except String Unit) :
    ∃ later, RunMoved state { state.answered .run record live lands answer with run := next answer } .writing later := by
  have kept : ahead (next answer) = ahead state.run := (same answer).trans here.symm
  cases answer with
  | ok done => exact ⟨.settled, .wrote record live rfl about rfl kept (after _)⟩
  | error e =>
    cases lands with
    | true => exact ⟨.settled, .wrote record live rfl about rfl kept (after _)⟩
    | false =>
      exact ⟨.settled, .stayed .settled rfl (fun held => held) (after _) nofun (fun _ => ⟨kept, .inr rfl⟩) nofun⟩

theorem run_moved (follows : Follows state.run state.phase mode) (taken : state.runStep answers lands = some t) :
    ∃ later, RunMoved state t mode later := by
  obtain ⟨claimed, phase, live, written, run, stop⟩ := state
  cases run with
  | done value => cases taken
  | fail e => cases taken
  | call request next =>
    cases taken
    cases request with
    | setPhase step => exact ⟨.working, .entered step follows.1 rfl rfl follows.2⟩
    | unlock | check | repository | stats | readClusterUid => exact worked follows.1 (follows.2 _) rfl rfl
    | isClaimed =>
      obtain ⟨working, told, untold⟩ := follows
      subst working
      cases claimed with
      | true => exact ⟨.settled, .stayed .settled rfl (fun held => held) told nofun nofun nofun⟩
      | false => exact ⟨.writing, .stayed .writing rfl (fun held => held) untold (fun _ => .inr rfl) nofun nofun⟩
    | claim =>
      obtain ⟨recorded, after⟩ := follows
      exact ⟨mode, .stayed mode rfl (fun _ => rfl) (after _) .inl (fun writing => absurd writing recorded)
        fun held => ⟨held, rfl⟩⟩
    | getStatus =>
      obtain ⟨rfl, same, failed, read⟩ := follows
      exact read_moved rfl same failed read _
    | applyStatus record seen =>
      obtain ⟨rfl, about, same, after⟩ := follows
      exact applied_moved lands seen about rfl same after _

end Moves

def Before (written : List (Owner × Record)) (phase : CheckPhase) : Prop :=
  ∀ record, (Owner.run, record) ∈ written → ∃ step, record.phase = some step ∧ step.rank < phase.rank

def Unstopped (written : List (Owner × Record)) : Prop := ∀ record, (Owner.stop, record) ∉ written

def Waits (state : JobState) (mode : Mode) (moves : Nat) : Standing → Prop
  | .inside phase => (phase ≠ .stats → mode ≠ .writing ∧ Before state.written phase) ∧ (moves = 0 → state.phase = phase)
  | .enters phase => Before state.written phase ∧
      (moves = 0 → ahead state.run = .enters phase ∧ (mode = .writing ∨ mode = .settled)) ∧
      (moves = 1 → state.phase = phase) ∧ (0 < moves → mode ≠ .writing)
  | .past => True

-- The stop has the step it stopped to record, and the run never will.
structure Taken (state : JobState) (mode : Mode) (standing : Standing) (record : Record) : Prop where
  quiet : mode ≠ .writing
  step : ∃ phase error now, standing.phase = some phase ∧ stopRecord phase error now = some record
  clear : ∀ other, (Owner.run, other) ∈ state.written → other.phase ≠ record.phase

inductive StopStage (state : JobState) (mode : Mode) (stop : StopRun) : Prop where
  | waiting (error : String) (here : stop.point = .releasing error ∨ stop.point = .reading error)
      (waits : Waits state mode stop.moves stop.standing) (unstopped : Unstopped state.written)
  | taking (record : Record) (here : stop.point = .getting record ∨ ∃ live, stop.point = .applying record live)
      (taken : Taken state mode stop.standing record) (unstopped : Unstopped state.written)
  | idle (here : stop.point = .ended none) (stats : ∀ phase, stop.standing.phase = some phase → phase = .stats)
      (unstopped : Unstopped state.written)
  | ended (record : Record) (answer : Except String Unit) (here : stop.point = .ended (some answer))
      (taken : Taken state mode stop.standing record) (only : ∀ other, (Owner.stop, other) ∈ state.written → other = record)
      (landed : answer = .ok () → (Owner.stop, record) ∈ state.written)

def Single (written : List (Owner × Record)) : Prop :=
  ∀ phase, (written.filter fun entry => entry.2.phase = some phase).length ≤ 1

def StopLast (written : List (Owner × Record)) : Prop := written.Pairwise fun later earlier => earlier.1 = .stop → later.1 = .stop

structure JobInv (state : JobState) (mode : Mode) : Prop where
  follows : Follows state.run state.phase mode
  earlier : ∀ record, (Owner.run, record) ∈ state.written →
    ∃ step, record.phase = some step ∧ (step.rank < state.phase.rank ∨ step = state.phase ∧ mode = .settled)
  single : Single state.written
  last : StopLast state.written
  idle : state.stop = none → Unstopped state.written
  stopped : ∀ stop, state.stop = some stop → state.claimed = true ∧ StopStage state mode stop

theorem single_cons (single : Single written) (owner : Owner) (about : record.phase = some step) (fresh : ∀ entry ∈ written, entry.2.phase ≠ some step) :
    Single ((owner, record) :: written) := by
  intro phase
  by_cases same : record.phase = some phase
  · have none_ : written.filter (fun entry => entry.2.phase = some phase) = [] := by
      refine filter_eq_nil_iff.mpr fun entry member held => ?_
      exact fresh entry member ((of_decide_eq_true held).trans (same.symm.trans about))
    rw [filter_cons_of_pos (by simpa using same), none_]
    exact le_rfl
  · rw [filter_cons_of_neg (by simpa using same)]
    exact single phase

theorem stop_record_phase {phase : CheckPhase} {error now : String}
    (made : stopRecord phase error now = some record) : record.phase = some phase := by
  cases phase <;> cases made <;> rfl

theorem unstopped_last (unstopped : Unstopped written) (last : StopLast written)
    (record : Record) : StopLast ((Owner.run, record) :: written) := by
  refine pairwise_cons.mpr ⟨?_, last⟩
  intro entry member stopped
  obtain ⟨owner, other⟩ := entry
  cases stopped
  exact absurd member (unstopped other)

section RunSteps

variable {state t : JobState} {mode later : Mode} (inv : JobInv state mode)

include inv in
theorem before_rank {phase : CheckPhase} (below : state.phase.rank < phase.rank) : Before state.written phase := by
  intro record member
  obtain ⟨step, about, place⟩ := inv.earlier record member
  refine ⟨step, about, ?_⟩
  cases place with
  | inl under => exact lt_trans under below
  | inr here => exact here.1 ▸ below

include inv in
theorem before_unsettled (unsettled : mode ≠ .settled) : Before state.written state.phase := by
  intro record member
  obtain ⟨step, about, place⟩ := inv.earlier record member
  exact ⟨step, about, place.resolve_right fun here => unsettled here.2⟩

theorem unstopped_run (unstopped : Unstopped written) (record : Record) :
    Unstopped ((Owner.run, record) :: written) := by
  intro other member
  cases mem_cons.mp member with
  | inl same => cases congrArg Prod.fst same
  | inr before => exact unstopped other before

theorem stage_kept {stop next : StopRun} (stage : StopStage state mode stop) (point : next.point = stop.point)
    (standing : next.standing = stop.standing) (written : t.written = state.written)
    (quiet : mode ≠ .writing → later ≠ .writing)
    (waits : Waits state mode stop.moves stop.standing → Waits t later next.moves stop.standing) :
    StopStage t later next := by
  have kept : ∀ record, Taken state mode stop.standing record → Taken t later next.standing record := by
    intro record taken
    exact ⟨quiet taken.quiet, standing ▸ taken.step, written ▸ taken.clear⟩
  cases stage with
  | waiting error here waiting unstopped =>
    exact .waiting error (point ▸ here) (standing ▸ waits waiting) (written ▸ unstopped)
  | taking record here taken unstopped => exact .taking record (point ▸ here) (kept record taken) (written ▸ unstopped)
  | idle here stats unstopped => exact .idle (point ▸ here) (standing ▸ stats) (written ▸ unstopped)
  | ended record answer here taken only landed =>
    exact .ended record answer (point ▸ here) (kept record taken) (written ▸ only) (written ▸ landed)

theorem waits_stayed {moves : Nat} {standing : Standing} (claimed : state.claimed = true) (phase : t.phase = state.phase)
    (written : t.written = state.written) (quiet : later = .writing → mode = .writing ∨ state.claimed = false)
    (writing : mode = .writing → ahead t.run = ahead state.run ∧ (later = .writing ∨ later = .settled))
    (settled : mode = .settled → later = .settled ∧ ahead state.run = .past) (waits : Waits state mode moves standing) :
    Waits t later moves standing := by
  have calm : mode ≠ .writing → later ≠ .writing := by
    intro before now
    cases quiet now with
    | inl was => exact before was
    | inr unclaimed => simp [claimed] at unclaimed
  cases standing with
  | inside step =>
    refine ⟨fun recorded => ?_, fun still => phase.trans (waits.2 still)⟩
    obtain ⟨unwritten, before⟩ := waits.1 recorded
    exact ⟨calm unwritten, written ▸ before⟩
  | enters step =>
    obtain ⟨before, still, moved, unwritten⟩ := waits
    refine ⟨written ▸ before, ?_, fun once => phase.trans (moved once), fun some_ => calm (unwritten some_)⟩
    intro none_
    obtain ⟨here, at_⟩ := still none_
    cases at_ with
    | inl was => exact ⟨(writing was).1.trans here, (writing was).2⟩
    | inr was =>
      rw [(settled was).2] at here
      cases here
  | past => trivial

include inv in
theorem stayed_inv (left : t = { state with run := t.run, claimed := t.claimed })
    (claims : state.claimed = true → t.claimed = true) (follows : Follows t.run state.phase later)
    (quiet : later = .writing → mode = .writing ∨ state.claimed = false)
    (writing : mode = .writing → ahead t.run = ahead state.run ∧ (later = .writing ∨ later = .settled))
    (settled : mode = .settled → later = .settled ∧ ahead state.run = .past) : JobInv t later := by
  have phase : t.phase = state.phase := by rw [left]
  have written : t.written = state.written := by rw [left]
  have stopped : t.stop = state.stop := by rw [left]
  refine ⟨phase ▸ follows, ?_, written ▸ inv.single, written ▸ inv.last, ?_, ?_⟩
  · rw [written, phase]
    intro record member
    obtain ⟨step, about, place⟩ := inv.earlier record member
    exact ⟨step, about, place.imp_right fun here => ⟨here.1, (settled here.2).1⟩⟩
  · rw [stopped, written]
    exact inv.idle
  · intro stop held
    obtain ⟨claimed, stage⟩ := inv.stopped stop (stopped ▸ held)
    refine ⟨claims claimed, stage_kept stage rfl rfl written ?_ ?_⟩
    · intro before now
      cases quiet now with
      | inl was => exact before was
      | inr unclaimed => simp [claimed] at unclaimed
    · exact waits_stayed claimed phase written quiet writing settled

include inv in
theorem entered_inv {step : CheckPhase} (after : state.phase.rank < step.rank) (here : ahead state.run = .enters step)
    (left : t = { state.move step with run := t.run }) (follows : Follows t.run step .working) : JobInv t .working := by
  have different : step ≠ state.phase := (rank_lt_ne after).symm
  rw [JobState.move, if_neg different] at left
  have phase : t.phase = step := by rw [left]
  have written : t.written = state.written := by rw [left]
  have stopped : t.stop = state.stop.map StopRun.moved := by rw [left]
  have claimed : t.claimed = state.claimed := by rw [left]
  have before : Before state.written step := before_rank inv after
  refine ⟨phase ▸ follows, ?_, written ▸ inv.single, written ▸ inv.last, ?_, ?_⟩
  · rw [written, phase]
    intro record member
    obtain ⟨earlier, about, below⟩ := before record member
    exact ⟨earlier, about, .inl below⟩
  · rw [stopped, written]
    intro none_
    exact inv.idle (map_eq_none_iff.mp none_)
  · intro stop held
    rw [stopped] at held
    obtain ⟨was, found, rfl⟩ := map_eq_some_iff.mp held
    obtain ⟨held, stage⟩ := inv.stopped was found
    refine ⟨claimed.trans held, stage_kept stage rfl rfl written nofun ?_⟩
    intro waits
    cases standing : was.standing with
    | inside other =>
      rw [standing] at waits
      exact ⟨fun recorded => ⟨nofun, written ▸ (waits.1 recorded).2⟩, nofun⟩
    | enters other =>
      rw [standing] at waits
      obtain ⟨earlier, still, _, _⟩ := waits
      refine ⟨written ▸ earlier, nofun, ?_, nofun⟩
      intro once
      have unmoved : was.moves = 0 := Nat.succ.inj once
      have same := (still unmoved).1
      rw [here] at same
      cases same
      exact phase
    | past => trivial

include inv in
theorem wrote_inv {record : Record} {live : Option (Dict String)} (here : mode = .writing)
    (about : record.phase = some state.phase) (left : t = { state.land .run record live with run := t.run })
    (kept : ahead t.run = ahead state.run) (follows : Follows t.run state.phase .settled) : JobInv t .settled := by
  rw [JobState.land] at left
  have phase : t.phase = state.phase := by rw [left]
  have written : t.written = (.run, record) :: state.written := by rw [left]
  have stopped : t.stop = state.stop := by rw [left]
  have claimed : t.claimed = state.claimed := by rw [left]
  have before : Before state.written state.phase := before_unsettled inv (here ▸ nofun)
  have unstopped : Unstopped state.written := by
    cases found : state.stop with
    | none => exact inv.idle found
    | some stop =>
      cases (inv.stopped stop found).2 with
      | waiting error here waits unstopped => exact unstopped
      | taking other here taken unstopped => exact unstopped
      | idle here stats unstopped => exact unstopped
      | ended other answer at_ taken only landed => exact absurd here taken.quiet
  have fresh : ∀ entry ∈ state.written, entry.2.phase ≠ some state.phase := by
    intro entry member
    obtain ⟨owner, other⟩ := entry
    cases owner with
    | stop => exact absurd member (unstopped other)
    | run =>
      obtain ⟨step, recorded, below⟩ := before other member
      intro same
      exact rank_lt_ne below (some.inj (recorded.symm.trans same))
  refine ⟨phase ▸ follows, ?_, ?_, ?_, ?_, ?_⟩
  · rw [written, phase]
    intro other member
    cases mem_cons.mp member with
    | inl same =>
      cases same
      exact ⟨state.phase, about, .inr ⟨rfl, rfl⟩⟩
    | inr earlier =>
      obtain ⟨step, recorded, below⟩ := before other earlier
      exact ⟨step, recorded, .inl below⟩
  · exact written ▸ single_cons inv.single .run about fresh
  · exact written ▸ unstopped_last unstopped inv.last record
  · intro none_
    exact written ▸ unstopped_run unstopped record
  · intro stop held
    obtain ⟨exit, stage⟩ := inv.stopped stop (stopped ▸ held)
    refine ⟨claimed.trans exit, ?_⟩
    have still : Unstopped t.written := written ▸ unstopped_run unstopped record
    cases stage with
    | taking other at_ taken _ => exact absurd here taken.quiet
    | ended other answer at_ taken only landed => exact absurd here taken.quiet
    | idle at_ stats _ => exact .idle at_ stats still
    | waiting error at_ waits _ =>
      refine .waiting error at_ ?_ still
      cases standing : stop.standing with
      | inside step =>
        rw [standing] at waits
        exact ⟨fun recorded => absurd here (waits.1 recorded).1, fun unmoved => phase.trans (waits.2 unmoved)⟩
      | enters step =>
        rw [standing] at waits
        obtain ⟨earlier, unmoved, _, some_⟩ := waits
        have none_ : stop.moves = 0 := by
          cases Nat.eq_zero_or_pos stop.moves with
          | inl zero => exact zero
          | inr positive => exact absurd here (some_ positive)
        have enters := (unmoved none_).1
        have below : state.phase.rank < step.rank := by
          cases ahead_enters _ _ step mode inv.follows enters with
          | inl first => exact absurd (here.symm.trans first.1) nofun
          | inr later => exact later.2
        refine ⟨?_, fun _ => ⟨kept.trans enters, .inr rfl⟩, fun once => ?_, fun some_ => ?_⟩
        · rw [written]
          intro other member
          cases mem_cons.mp member with
          | inl same =>
            cases same
            exact ⟨state.phase, about, below⟩
          | inr before => exact earlier other before
        · omega
        · omega
      | past => trivial

include inv in
theorem run_inv (moved : RunMoved state t mode later) : JobInv t later := by
  cases moved with
  | entered step enters here left follows =>
    cases enters with
    | inl first =>
      obtain ⟨before, at_, same⟩ := first
      have unmoved : state.move step = state := by rw [JobState.move, if_pos (same.trans at_.symm)]
      rw [unmoved] at left
      exact stayed_inv inv (by rw [left]) (by rw [left]; exact fun held => held)
        (at_.trans same.symm ▸ follows) nofun (before ▸ nofun) (before ▸ nofun)
    | inr later => exact entered_inv inv later.2 here left follows
  | wrote record live here about left kept follows => exact wrote_inv inv here about left kept follows
  | stayed later left claims follows quiet writing settled =>
    exact stayed_inv inv left claims follows quiet writing settled

end RunSteps

section StopSteps

variable (state t : JobState) (mode : Mode)

theorem arrive_inv (inv : JobInv state mode) (error : String) : JobInv (state.arrive error) mode := by
  rw [JobState.arrive]
  by_cases claimed : state.claimed = true
  · rw [if_pos claimed]
    exact inv
  · rw [if_neg claimed]
    have unstopped : Unstopped state.written := by
      cases found : state.stop with
      | none => exact inv.idle found
      | some stop => exact absurd (inv.stopped stop found).1 claimed
    refine ⟨inv.follows, inv.earlier, inv.single, inv.last, nofun, ?_⟩
    intro stop held
    cases held
    refine ⟨rfl, .waiting error (.inl rfl) ?_ unstopped⟩
    change Waits state mode 0 (standing state.phase state.run)
    rw [standing]
    cases here : ahead state.run with
    | inside step =>
      obtain ⟨working, same⟩ := ahead_inside _ _ step mode inv.follows here
      exact ⟨fun _ => ⟨working ▸ nofun, same ▸ before_unsettled inv (working ▸ nofun)⟩, fun _ => same⟩
    | enters step =>
      cases ahead_enters _ _ step mode inv.follows here with
      | inl first =>
        obtain ⟨before, check, same⟩ := first
        simp only [same.trans check.symm, if_true]
        exact ⟨fun _ => ⟨before ▸ nofun, before_unsettled inv (before ▸ nofun)⟩, fun _ => rfl⟩
      | inr later =>
        have different : step ≠ state.phase := (rank_lt_ne later.2).symm
        simp only [if_neg different]
        exact ⟨before_rank inv later.2, fun _ => ⟨here, later.1⟩, nofun, fun some_ => absurd some_ (lt_irrefl _)⟩
    | past =>
      by_cases figures : state.phase = .stats
      · simp only [if_pos figures]
        exact ⟨fun recorded => absurd rfl recorded, fun _ => figures⟩
      · simp only [if_neg figures]
        trivial

variable {stop : StopRun} {record : Record}

-- What the stop does without writing changes its own point only.
theorem at_inv (inv : JobInv state mode) (found : state.stop = some stop) {point : StopPoint}
    (stage : StopStage state mode { stop with point := point }) : JobInv (state.at_ stop point) mode := by
  refine ⟨inv.follows, inv.earlier, inv.single, inv.last, nofun, ?_⟩
  intro next held
  cases held
  refine ⟨(inv.stopped stop found).1, stage_kept stage rfl rfl rfl id ?_⟩
  cases stop.standing <;> exact id

theorem read_phase_stage (error now : String) (waits : Waits state mode stop.moves stop.standing)
    (unstopped : Unstopped state.written) (unmoved : stop.unmoved = true) :
    StopStage state mode { stop with point := recordPoint (stopRecord state.phase error now) } := by
  have read : stop.standing.phase = some state.phase ∧
      (state.phase ≠ .stats → mode ≠ .writing ∧ Before state.written state.phase) := by
    obtain ⟨point, standing, moves⟩ := stop
    cases standing with
    | inside step =>
      have same := waits.2 (of_decide_eq_true unmoved)
      exact ⟨congrArg some same.symm, same ▸ waits.1⟩
    | enters step =>
      have once : moves = 1 := of_decide_eq_true unmoved
      obtain ⟨before, _, entered, quiet⟩ := waits
      have same := entered once
      exact ⟨congrArg some same.symm, fun _ => ⟨quiet (once ▸ Nat.one_pos), same ▸ before⟩⟩
    | past => cases unmoved
  cases made : stopRecord state.phase error now with
  | none =>
    refine .idle rfl ?_ unstopped
    intro phase at_
    have same : phase = state.phase := some.inj (at_.symm.trans read.1)
    rw [same]
    cases phase_ : state.phase with
    | check | prune => simp [phase_, stopRecord] at made
    | stats => rfl
  | some record =>
    have about := stop_record_phase made
    have recorded : state.phase ≠ .stats := by
      intro figures
      simp [figures, stopRecord] at made
    obtain ⟨quiet, before⟩ := read.2 recorded
    refine .taking record (.inl rfl) ⟨quiet, ⟨state.phase, error, now, read.1, made⟩, ?_⟩ unstopped
    intro other member same
    obtain ⟨step, of_, below⟩ := before other member
    exact rank_lt_ne below (some.inj (of_.symm.trans (same.trans about)))

theorem get_stage (answer : Except String Unit)
    (taken : Taken state mode stop.standing record) (unstopped : Unstopped state.written) :
    StopStage state mode { stop with point := writePoint record state.live answer } := by
  cases answer with
  | ok done => exact .taking record (.inr ⟨state.live, rfl⟩) taken unstopped
  | error e =>
    exact .ended record _ rfl taken (fun other member => absurd member (unstopped other)) nofun

theorem land_inv (inv : JobInv state mode) (stop : StopRun) (found : state.stop = some stop) (record : Record)
    (live : Option (Dict String)) (answer : Except String Unit) (taken : Taken state mode stop.standing record)
    (unstopped : Unstopped state.written) : JobInv ((state.land .stop record live).at_ stop (.ended (some answer))) mode := by
  obtain ⟨phase, error, now, stopped, made⟩ := taken.step
  have about := stop_record_phase made
  have fresh : ∀ entry ∈ state.written, entry.2.phase ≠ some phase := by
    intro entry member
    obtain ⟨owner, other⟩ := entry
    cases owner with
    | stop => exact absurd member (unstopped other)
    | run => exact about ▸ taken.clear other member
  have runs : ∀ other, (Owner.run, other) ∈ (Owner.stop, record) :: state.written → (Owner.run, other) ∈ state.written := by
    intro other member
    refine (mem_cons.mp member).resolve_left fun same => ?_
    cases congrArg Prod.fst same
  refine ⟨inv.follows, fun other member => inv.earlier other (runs other member), single_cons inv.single .stop about fresh,
    pairwise_cons.mpr ⟨fun _ _ _ => rfl, inv.last⟩, nofun, ?_⟩
  intro next held
  cases held
  refine ⟨(inv.stopped stop found).1, .ended record answer rfl
    ⟨taken.quiet, taken.step, fun other member => taken.clear other (runs other member)⟩ ?_ fun _ => mem_cons_self⟩
  intro other member
  cases mem_cons.mp member with
  | inl same => exact congrArg Prod.snd same
  | inr before => exact absurd before (unstopped other)

theorem apply_inv (inv : JobInv state mode) (found : state.stop = some stop)
    (live : Option (Dict String)) (lands : Bool) (answer : Except String Unit) (taken : Taken state mode stop.standing record)
    (unstopped : Unstopped state.written) :
    JobInv ((state.answered .stop record live lands answer).at_ stop (.ended (some answer))) mode := by
  cases answer with
  | ok done => exact land_inv state mode inv stop found record live (.ok ()) taken unstopped
  | error e =>
    cases lands with
    | true => exact land_inv state mode inv stop found record live (.error e) taken unstopped
    | false =>
      refine at_inv state mode inv found ?_
      exact .ended record _ rfl taken (fun other member => absurd member (unstopped other)) nofun

theorem stop_moved (stop : StopRun) (action : JobAction) (taken : state.stopStep stop action = some t) :
    (∃ error, action = .release ∧ stop.point = .releasing error ∧ t = state.at_ stop (.reading error)) ∨
    (∃ error now, action = .readPhase now ∧ stop.point = .reading error ∧
      t = state.at_ stop (recordPoint (stopRecord state.phase error now))) ∨
    (∃ record answer, action = .stopGet answer ∧ stop.point = .getting record ∧
      t = state.at_ stop (writePoint record state.live answer)) ∨
    ∃ record live answer lands, action = .stopApply answer lands ∧ stop.point = .applying record live ∧
      t = (state.answered .stop record live lands answer).at_ stop (.ended (some answer)) := by
  unfold JobState.stopStep at taken
  split at taken <;> try (split at taken)
  · exact .inl ⟨_, rfl, ‹_›, (some.inj taken).symm⟩
  · cases taken
  · exact .inr (.inl ⟨_, _, rfl, ‹_›, (some.inj taken).symm⟩)
  · cases taken
  · exact .inr (.inr (.inl ⟨_, _, rfl, ‹_›, (some.inj taken).symm⟩))
  · cases taken
  · exact .inr (.inr (.inr ⟨_, _, _, _, rfl, ‹_›, (some.inj taken).symm⟩))
  · cases taken
  · cases taken

theorem stage_waits (stop : StopRun) (stage : StopStage state mode stop) (error : String)
    (here : stop.point = .releasing error ∨ stop.point = .reading error) :
    Waits state mode stop.moves stop.standing ∧ Unstopped state.written := by
  rcases here with here | here <;> cases stage <;> simp_all

theorem stage_takes (stop : StopRun) (stage : StopStage state mode stop) (record : Record)
    (here : stop.point = .getting record ∨ ∃ live, stop.point = .applying record live) :
    Taken state mode stop.standing record ∧ Unstopped state.written := by
  rcases here with here | ⟨_, here⟩ <;> cases stage <;> simp_all

variable {t mode}

theorem stop_inv (inv : JobInv state mode) (found : state.stop = some stop) {action : JobAction}
    (allowed : undisturbed state action = true) (taken : state.stopStep stop action = some t) : JobInv t mode := by
  have stage := (inv.stopped stop found).2
  obtain ⟨error, rfl, here, rfl⟩ | ⟨error, now, rfl, here, rfl⟩ | ⟨record, answer, rfl, here, rfl⟩ |
    ⟨record, live, answer, lands, rfl, here, rfl⟩ := stop_moved state t stop action taken
  · obtain ⟨waits, unstopped⟩ := stage_waits state mode stop stage error (.inl here)
    exact at_inv state mode inv found (.waiting error (.inr rfl) waits unstopped)
  · obtain ⟨waits, unstopped⟩ := stage_waits state mode stop stage error (.inr here)
    have unmoved : stop.unmoved = true := by simpa [undisturbed, found] using allowed
    exact at_inv state mode inv found (read_phase_stage state mode error now waits unstopped unmoved)
  · obtain ⟨held, unstopped⟩ := stage_takes state mode stop stage record (.inl here)
    exact at_inv state mode inv found (get_stage state mode answer held unstopped)
  · obtain ⟨held, unstopped⟩ := stage_takes state mode stop stage record (.inr ⟨live, here⟩)
    exact apply_inv state mode inv found live lands answer held unstopped

end StopSteps

section Runs

variable {live : Option (Dict String)} {run : RunProg (Option Nat)} {state : JobState} {mode : Mode} {record : Record}

theorem job_inv (follows : Follows run .check .before)
    (reachable : ((jobSystem live run).restrict undisturbed).Reachable state) : ∃ mode, JobInv state mode := by
  refine ((jobSystem live run).restrict undisturbed).invariant (fun state => ∃ mode, JobInv state mode) ?_ ?_ state reachable
  · intro start initially
    subst initially
    exact ⟨.before, follows, nofun, fun phase => Nat.zero_le _, List.Pairwise.nil, fun _ => nofun, nofun⟩
  · intro before action after held taken
    obtain ⟨mode, inv⟩ := held
    obtain ⟨allowed, stepped⟩ := System.restrict_step _ _ _ _ _ taken
    cases action with
    | run answers lands =>
      obtain ⟨later, moved⟩ := run_moved lands inv.follows stepped
      exact ⟨later, run_inv inv moved⟩
    | arrive error =>
      cases stepped
      exact ⟨mode, arrive_inv _ mode inv error⟩
    | release | readPhase | stopGet | stopApply =>
      obtain ⟨stop, found, step⟩ := bind_eq_some_iff.mp stepped
      exact ⟨mode, stop_inv _ inv found allowed step⟩

-- A record of the stop is there only once the stop is over.
theorem inv_over (inv : JobInv state mode) (member : (Owner.stop, record) ∈ state.written) :
    ∃ stop, state.stop = some stop ∧ Taken state mode stop.standing record := by
  cases found : state.stop with
  | none => exact absurd member (inv.idle found record)
  | some stop =>
    refine ⟨stop, rfl, ?_⟩
    cases (inv.stopped stop found).2 with
    | waiting error here waits unstopped | taking other here taken unstopped | idle here stats unstopped => exact absurd member (unstopped record)
    | ended other answer here taken only landed => exact only record member ▸ taken

theorem taken_phase {standing : Standing} (taken : Taken state mode standing record) : standing.phase = record.phase := by
  obtain ⟨phase, error, now, stopped, made⟩ := taken.step
  exact stopped.trans (stop_record_phase made).symm

theorem inv_agrees (inv : JobInv state mode) : Agrees state := by
  refine ⟨inv.single, ?_, ?_, ?_, inv.last⟩
  · intro stop found phase at_ recorded result here
    cases (inv.stopped stop found).2 with
    | waiting error point | taking record point => simp [here] at point
    | idle point stats => exact absurd (stats phase at_) recorded
    | ended record answer point taken only landed =>
      have same : result = some answer := StopPoint.ended.inj (here.symm.trans point)
      refine ⟨answer, same, fun well => ⟨record, landed well, ?_⟩⟩
      exact (taken_phase taken).symm.trans at_
  · intro error now before member passed
    obtain ⟨stop, found, taken⟩ := inv_over inv member
    exact taken.clear _ passed rfl
  · intro record member
    obtain ⟨stop, found, taken⟩ := inv_over inv member
    exact ⟨stop, found, taken_phase taken⟩

end Runs

-- No phase but the one about to be entered is set between the claim and the reading.
theorem stop_and_run_agree (snapshotInstant : String → Option Instant) (rfc3339 : Instant → String) (plan : CheckPlan)
    (clock : CheckClock) (live : Option (Dict String)) (state : JobState)
    (reachable : ((jobSystem live (checkJob snapshotInstant rfc3339 plan clock)).restrict undisturbed).Reachable state) :
    Agrees state := by
  have follows := job_follows snapshotInstant rfc3339 plan clock
  obtain ⟨mode, inv⟩ := job_inv follows reachable
  exact inv_agrees inv

section Sample

def weeklyPlan : CheckPlan := ⟨"s3:https://s3.example/backups", .structureOnly, .check, ⟨7, 4, 6, utc⟩, defaultRunDeadline⟩

def sundayClock : CheckClock := ⟨septemberAt 27 6, septemberAt 27 6, septemberAt 27 6, septemberAt 27 6⟩

def sundayTime (_ : Instant) : String := "2026-09-27T06:00:00+00:00"

def weeklyJob : RunProg (Option Nat) := checkJob septemberClock sundayTime weeklyPlan sundayClock

def signalled : (request : RunRequest) → runApi.Response request
  | .setPhase _ => ()
  | .unlock _ => .ok ()
  | .check _ _ => .ok ()
  | .repository .snapshots => .error "context canceled"
  | .repository (.forget _) => .error "context canceled"
  | .repository .prune => .error "context canceled"
  | .stats _ => .error "not started"
  | .readClusterUid => .ok thisCluster
  | .isClaimed => false
  | .getStatus => .ok none
  | .applyStatus _ _ => .ok ()
  | .claim => false

def runSteps : Nat → List JobAction
  | 0 => []
  | n + 1 => .run signalled false :: runSteps n

def stops : List JobAction := [.release, .readPhase "2026-09-27T06:00:09+00:00", .stopGet (.ok ()), .stopApply (.ok ()) false]

def weeklyAfter (actions : List JobAction) : JobState :=
  ((jobSystem none weeklyJob).run (unstarted none weeklyJob) actions).getD (unstarted none weeklyJob)

def stoppedInCheck : List JobAction := runSteps 2 ++ .arrive "run was stopped" :: stops

theorem stopped_in_check_agrees : Agrees (weeklyAfter stoppedInCheck) := by
  refine stop_and_run_agree septemberClock sundayTime weeklyPlan sundayClock none (weeklyAfter stoppedInCheck) ?_
  exact System.reachable_run _ (unstarted none weeklyJob) (.initial _ rfl) stoppedInCheck _ rfl

-- By the time restic is gone and the stop reads the phase, the run is at the figures.
def stoppedInPrune : List JobAction :=
  runSteps 8 ++ .arrive "run was stopped" :: runSteps 5 ++ [.release, .readPhase "2026-09-27T06:00:09+00:00"]

theorem stopped_in_prune_unrecorded : ¬ ∀ snapshotInstant rfc3339 plan clock live state,
    (jobSystem live (checkJob snapshotInstant rfc3339 plan clock)).Reachable state → Agrees state := by
  intro agree
  have agrees : Agrees (weeklyAfter stoppedInPrune) := by
    refine agree septemberClock sundayTime weeklyPlan sundayClock none (weeklyAfter stoppedInPrune) ?_
    exact System.reachable_run _ (unstarted none weeklyJob) (.initial _ rfl) stoppedInPrune _ rfl
  have stopped : (weeklyAfter stoppedInPrune).stop = some ⟨.ended none, .inside .prune, 1⟩ := rfl
  obtain ⟨answer, wrote, _⟩ := agrees.recorded _ stopped .prune rfl (by decide) none rfl
  cases wrote

end Sample

end AppRafter.Backup
